import ClassFormat.ClassFile.Reader
import ClassFormat.Proofs.Decoder.Displacement
import ClassFormat.Proofs.Pool.Lookup

/-!
# Records further on

A record of a class file says nothing of where it stands. Put bytes in front of it, and each of its
readers finds the same behind them, or fails for the same reason, with only the absolute positions
in the fault moved on by as many bytes. Places in code are counted from the start of the code array,
so instructions are the same in a window of their own.

## Main definitions

* `ClassFormat.Decoder.SameBehind` — a decoder that finds the same behind some bytes.
* `ClassFormat.Decoder.SameInWindow` — a decoder that finds the same in a window behind some bytes.

## Main results

* `ClassFormat.Constant.same_reader`, `ClassFormat.Instruction.same_reader`,
  `ClassFormat.Handler.same_reader`, `ClassFormat.Attribute.same_readers` — the readers of records.
* `ClassFormat.readers_same_behind` — records are the same wherever they stand.
-/

namespace ClassFormat

open Decoder hiding word split split_ok
open Record

variable {shift : Nat} {c d : Cursor}

/-- A reference that cannot be followed has no absolute position. -/
lemma Fault.IsReference.displaced_eq {fault : Fault} (h : fault.IsReference) :
    fault.displaced shift = fault := by
  unfold IsReference at h
  split at h
  · rfl
  · rfl
  · cases h

/-- The fault of a reference has no position, so a look-up gives the same wherever it is made. -/
lemma same_refers {α : Type} {found : Except Fault α} (hfound : Refers found)
    (h : c.Displaced shift d) : Same shift (given found) c d :=
  same_given (fun fault hfault => (hfound fault hfault).displaced_eq) h

/-! ## Constants -/

namespace Constant

/-- A text is read the same elsewhere, but for the position of the byte it blames. -/
lemma same_textReader (h : c.Displaced shift d) : Same shift textReader c d := by
  have hdecode : Modified.decode d.position d.rest =
      (Modified.decode c.position c.rest).mapError (TextFault.displaced shift) := by
    rw [h.position, h.rest, Modified.decode_add]
  unfold Same textReader
  rw [hdecode]
  cases Modified.decode c.position c.rest with
  | ok reading => exact .ok rfl rfl rfl h
  | error fault => exact .error rfl rfl h

/-- The content of a constant is read the same elsewhere. -/
lemma same_contentReader (index : Index) (kind : Kind) (h : c.Displaced shift d) :
    Same shift (contentReader index kind) c d := by
  cases kind with
  | utf8 => exact (same_textReader h).bind fun _ _ _ h => same_pure _ h
  | integer | float | long | double | label => exact (same_word h).bind fun _ _ _ h => same_pure _ h
  | member | nameAndType | dynamic =>
    exact (same_word h).bind fun _ _ _ h => (same_word h).bind fun _ _ _ h => same_pure _ h
  | methodHandle =>
    refine (same_word h).bind fun code c' d' h => ?_
    cases HandleKind.ofCode? code with
    | some kind => exact (same_word h).bind fun _ _ _ h => same_pure _ h
    | none => exact same_fail rfl h

/-- The length of a constant is read the same elsewhere. -/
lemma same_lengthReader (kind : Kind) (h : c.Displaced shift d) :
    Same shift (lengthReader kind) c d := by
  unfold lengthReader
  split
  · exact same_pure _ h
  · exact (same_word h).bind fun _ _ _ h => same_pure _ h

/-- A constant is read the same elsewhere. -/
lemma same_reader (index : Index) (h : c.Displaced shift d) :
    Same shift (Constant.reader index) c d := by
  unfold Constant.reader
  refine (same_word h).bind fun tag c' d' h => ?_
  cases Kind.ofTag? tag with
  | none => exact same_fail rfl h
  | some kind =>
    refine (same_lengthReader kind h).bind fun length c' d' h => ?_
    refine alike_bind_of_forall (alike_split length h) fun window window' c' d' hwindow _ _ h => ?_
    refine alike_bind_of_forall ((same_contentReader index kind hwindow.displaced).enclosed h) ?_
    rintro ⟨constant, _⟩ ⟨_, _⟩ c' d' ⟨rfl, _⟩ _ _ h
    exact same_pure constant h

end Constant

/-! ## Instructions and handlers -/

/-- A word at an offset of the window is the same wherever the window stands. -/
lemma Cursor.Moved.wordAt {α : Type} [Word α] (h : c.Moved shift d) (offset : Nat) :
    d.wordAt (α := α) offset = (c.wordAt offset).mapError (ReadFault.displaced shift) := by
  have hbase : d.base + offset = c.base + offset + shift := by
    have := h.base
    omega
  unfold Cursor.wordAt Cursor.bytesAt Cursor.shortage
  dsimp only
  rw [bytesFrom_eq_drop, bytesFrom_eq_drop, h.window, hbase]
  split <;> rfl

namespace Instruction

/-- A word ahead is found the same elsewhere, if it is counted from the same place of the window. -/
lemma same_wordAt {α : Type} [Word α] (offset : Nat) (h : c.Moved shift d) :
    Same shift (wordAt offset : Decoder Fault α) c d := by
  refine alike_bind (alike_here h.displaced) ?_
  rintro _ _ - ⟨rfl, rfl⟩ -
  rw [h.wordAt]
  cases Cursor.wordAt (α := α) _ offset with
  | ok value => exact .ok rfl rfl rfl h.displaced
  | error fault => exact .error rfl rfl h.displaced

/-- Two steps in a row in the same window, wherever it stands. -/
lemma same_bind_moved {α β : Type} {first : Decoder Fault α} {next : α → Decoder Fault β}
    (h : c.Moved shift d) (hfirst : Same shift first c d)
    (hnext : ∀ value c' d', c'.Moved shift d' → Same shift (next value) c' d') :
    Same shift (first >>= next) c d := by
  refine alike_bind_of_forall hfirst ?_
  rintro value _ c' d' rfl hc hd hcursor
  exact hnext value c' d' (h.mono hc hd hcursor)

/-- The length of a table is the same elsewhere in the input, but not elsewhere in its window: the
padding depends on the offset. -/
lemma same_tableLength (pc : Nat) (h : c.Moved shift d) : Same shift (tableLength pc) c d := by
  unfold tableLength
  refine same_bind_moved h (same_wordAt _ h) fun low c' d' h => ?_
  refine same_bind_moved h (same_wordAt _ h) fun high c' d' h => ?_
  split
  · exact same_fail rfl h.displaced
  · exact same_pure _ h.displaced

/-- The length of a list of pairs is the same elsewhere in the input. -/
lemma same_lookupLength (pc : Nat) (h : c.Moved shift d) : Same shift (lookupLength pc) c d := by
  unfold lookupLength
  refine same_bind_moved h (same_wordAt _ h) fun count c' d' h => ?_
  split
  · exact same_fail rfl h.displaced
  · exact same_pure _ h.displaced

/-- The length of a widened instruction is the same elsewhere in the input. -/
lemma same_wideLength (pc : Nat) (h : c.Moved shift d) : Same shift (wideLength pc) c d := by
  unfold wideLength
  refine same_bind_moved h (same_wordAt _ h) fun modified c' d' h => ?_
  split
  · exact same_pure _ h.displaced
  · exact same_fail rfl h.displaced

/-- The length of operands is the same elsewhere in the input. -/
lemma same_operandLength (pc : Nat) (opcode : Opcode) (h : c.Moved shift d) :
    Same shift (operandLength pc opcode) c d := by
  unfold operandLength
  split
  · exact same_pure _ h.displaced
  · split
    · exact same_tableLength pc h
    · split
      · exact same_lookupLength pc h
      · exact same_wideLength pc h

/-- Places in code are offsets in the window, which are the same. -/
lemma same_reader (h : c.Moved shift d) : Same shift Instruction.reader c d := by
  unfold Instruction.reader
  refine alike_bind (alike_here h.displaced) ?_
  rintro _ _ - ⟨rfl, rfl⟩ -
  -- from here on, both decoders are the same one, with the same place in the code
  rw [h.offset]
  refine same_bind_moved h (same_word h.displaced) fun byte c' d' h => ?_
  split
  · next opcode _ =>
    refine same_bind_moved h (same_operandLength _ opcode h) fun length c' d' h => ?_
    refine (same_take length h.displaced).bind fun operands c' d' h => ?_
    exact (same_note _ h).bind fun _ _ _ h => same_pure _ h
  · exact same_fail rfl h.displaced

/-- A code array is read the same elsewhere in the input. -/
lemma same_allReader (h : c.Moved shift d) : Same shift allReader c d :=
  Same.untilEmpty _ h fun _ _ h => same_located (same_reader h) h.displaced

end Instruction

/-- A handler is read the same elsewhere. -/
lemma Handler.same_reader (pool : Pool) (codeLength : Nat) (h : c.Displaced shift d) :
    Same shift (Handler.reader pool codeLength) c d := by
  unfold Handler.reader
  refine (same_word h).bind fun first c' d' h => (same_word h).bind fun last c' d' h => ?_
  refine (same_word h).bind fun target c' d' h => (same_word h).bind fun catches c' d' h => ?_
  have hchecks : ∀ name c d, c.Displaced shift d → Same shift (do
      let handler ← given (Handler.ofRange first.toNat last.toNat target.toNat name)
      if codeLength < last.toNat then fail (.malformedRange first.toNat last.toNat)
      else return handler) c d := by
    intro name c d h
    refine (same_given (fun fault hfault => ?_) h).bind fun handler c' d' h => ?_
    · obtain rfl := Handler.eq_of_ofRange_error hfault
      rfl
    · split
      · exact same_fail rfl h
      · exact same_pure _ h
  by_cases hcatches : catches = 0
  · simp only [hcatches, if_true]
    exact (same_pure _ h).bind fun name c' d' h => hchecks name c' d' h
  · simp only [hcatches, if_false]
    refine Same.bind ?_ fun name c' d' h => hchecks name c' d' h
    exact (same_refers (pool.refers_className catches) h).bind fun _ _ _ h => same_pure _ h

/-! ## Attributes and members -/

/-- The same frame, whose payload stands further on. -/
structure Frame.Displaced (shift : Nat) (near far : Frame) : Prop where
  nameIndex : far.nameIndex = near.nameIndex
  name : far.name = near.name
  payload : near.payload.Moved shift far.payload

namespace Attribute

/-- A frame is read the same elsewhere, with a payload that is displaced as the frame is. -/
lemma alike_frameReader (pool : Pool) (h : c.Displaced shift d) :
    (frameReader pool c).Alike shift (Frame.Displaced shift) (frameReader pool d) := by
  unfold frameReader
  refine (same_word h).bind fun nameIndex c' d' h => ?_
  refine (same_refers (pool.refers_utf8 nameIndex) h).bind fun name c' d' h => ?_
  refine (same_word h).bind fun length c' d' h => ?_
  refine alike_bind_of_forall (alike_split _ h) fun payload payload' c' d' hpayload _ _ h => ?_
  exact alike_pure ⟨rfl, rfl, hpayload⟩ h

/-- What is noted about the bytes behind a body is no part of the attribute. -/
lemma alike_finishCode {near far : Frame} (hframe : near.Displaced shift far) (body : Code)
    {stop stop' : Cursor} (hstop : stop.Displaced shift stop') (h : c.Displaced shift d) :
    (finishCode near body stop c).Alike shift Eq (finishCode far body stop' d) := by
  unfold finishCode
  rw [hframe.nameIndex, hframe.name, hstop.isEmpty]
  split
  · exact same_pure _ h
  · exact alike_bind_of_forall (alike_note _ _ h) fun _ _ _ _ _ _ _ h => same_pure _ h

end Attribute

/-- The head of a body is read the same elsewhere, since its code array is a window of its own. -/
lemma Code.same_headReader (pool : Pool) (h : c.Displaced shift d) :
    Same shift (Code.headReader pool) c d := by
  unfold Code.headReader
  refine (same_word h).bind fun maxStack c' d' h => (same_word h).bind fun maxLocals c' d' h => ?_
  refine (same_word h).bind fun codeLength c' d' h => ?_
  refine alike_bind_of_forall (alike_split _ h) fun window window' c' d' hwindow _ _ h => ?_
  refine alike_bind_of_forall ((Instruction.same_allReader hwindow).enclosed h) ?_
  rintro ⟨instructions, _⟩ ⟨_, _⟩ c' d' ⟨rfl, _⟩ _ _ h
  refine (same_table h fun c d h => Handler.same_reader pool _ h).bind fun handlers c' d' h => ?_
  exact same_pure _ h

namespace Attribute

/-- Wherever else its bytes stand, the decoder finds the same. -/
def SameElsewhere {α : Type} (decoder : Decoder Fault α) (c : Cursor) : Prop :=
  ∀ shift d, c.Displaced shift d → Same shift decoder c d

/-- Attributes, bodies and lists of attributes are the same wherever they stand. -/
theorem same_readers (pool : Pool) (c : Cursor) :
    SameElsewhere (Attribute.reader pool) c ∧ SameElsewhere (Code.reader pool) c ∧
      SameElsewhere (Attribute.listReader pool) c := by
  refine readers_induction pool ?_ ?_ ?_ c
  · intro c hbody shift d h
    rw [Same, Attribute.reader_eq]
    refine alike_bind (alike_frameReader pool h) fun near far hnear hframe h => ?_
    rw [hframe.name]
    split
    · have hpayload := hbody near hnear shift far.payload hframe.payload.displaced
      refine alike_bind_of_forall (hpayload.enclosed h) ?_
      rintro ⟨body, stop⟩ ⟨_, stop'⟩ c' d' ⟨rfl, hstop⟩ _ _ h
      exact alike_finishCode hframe body hstop h
    · rw [hframe.nameIndex, hframe.payload.displaced.rest]
      exact same_pure _ h
  · intro c hlist shift d h
    rw [Same, Code.reader_eq]
    refine alike_bind (Code.same_headReader pool h) ?_
    rintro head _ hhead rfl h
    refine (hlist head hhead shift _ h).bind fun attributes c' d' h => ?_
    exact (same_note _ h).bind fun _ _ _ h => same_pure _ h
  · intro c hitem shift d h
    rw [Same, Attribute.listReader_eq]
    refine alike_bind (same_word h) ?_
    rintro count _ hcount rfl h
    refine Same.seq h (fun c' d' hc h => ?_) count.toNat
    exact same_located (hitem count hcount c' hc shift d' h) h

/-- A list of attributes is read the same elsewhere. -/
lemma same_listReader (pool : Pool) (h : c.Displaced shift d) :
    Same shift (Attribute.listReader pool) c d :=
  (same_readers pool c).2.2 shift d h

end Attribute

/-- Flags are read the same elsewhere. -/
lemma Access.same_reader (options : Options) (target : AccessTarget) (h : c.Displaced shift d) :
    Same shift (Access.reader options target) c d := by
  unfold Access.reader
  refine (same_word h).bind fun raw c' d' h => ?_
  dsimp only
  split
  · refine (same_given (fun fault hfault => ?_) h).bind fun _ _ _ h => same_pure _ h
    obtain rfl := Access.eq_of_validate_error hfault
    rfl
  · exact same_pure _ h

/-- Members begin alike: with flags, a name and a descriptor. -/
lemma same_member {α : Type} (pool : Pool) (options : Options) (target : AccessTarget)
    (h : c.Displaced shift d) {next : Access → String → String → Decoder Fault α}
    (hnext : ∀ access name descriptor c d, c.Displaced shift d →
      Same shift (next access name descriptor) c d) :
    Same shift (do
      let access ← Access.reader options target
      let name ← given (pool.utf8 (← word))
      let descriptor ← given (pool.utf8 (← word))
      next access name descriptor) c d := by
  refine (Access.same_reader options target h).bind fun access c' d' h => ?_
  refine (same_word h).bind fun nameIndex c' d' h => ?_
  refine (same_refers (pool.refers_utf8 nameIndex) h).bind fun name c' d' h => ?_
  refine (same_word h).bind fun index c' d' h => ?_
  refine (same_refers (pool.refers_utf8 index) h).bind fun descriptor c' d' h => ?_
  exact hnext access name descriptor c' d' h

/-- A field is read the same elsewhere. -/
lemma Field.same_reader (pool : Pool) (options : Options) (h : c.Displaced shift d) :
    Same shift (Field.reader pool options) c d := by
  refine same_member pool options .field h fun access name descriptor c' d' h => ?_
  refine (same_given (fun fault hfault => ?_) h).bind fun type c' d' h => ?_
  · obtain rfl := TypeDescriptor.eq_of_parse_error hfault
    rfl
  · split
    · exact same_fail rfl h
    · exact (Attribute.same_listReader pool h).bind fun _ _ _ h => same_pure _ h

/-- A method is read the same elsewhere. -/
lemma Method.same_reader (pool : Pool) (options : Options) (h : c.Displaced shift d) :
    Same shift (Method.reader pool options) c d := by
  refine same_member pool options .method h fun access name descriptor c' d' h => ?_
  refine (same_given (fun fault hfault => ?_) h).bind fun signature c' d' h => ?_
  · obtain rfl := Signature.eq_of_parse_error hfault
    rfl
  · exact (Attribute.same_listReader pool h).bind fun _ _ _ h => same_pure _ h

/-! ## Records behind other bytes -/

section Behind

variable {α : Type} {front bytes : Bytes} {decoder : Decoder Fault α}

/-- Behind `front`, the decoder finds in `bytes` what it finds in them alone, and passes as many of
them. If it fails, only the absolute positions in the fault are moved on. -/
structure Decoder.SameBehind (front bytes : Bytes) (decoder : Decoder Fault α) : Prop where
  result : ((do let _ ← read (take front.length); decoder) (.ofBytes (front ++ bytes))).result =
    (decoder (.ofBytes bytes)).result.mapError (Fault.displaced front.length)
  passed :
    ((do let _ ← read (take front.length); decoder) (.ofBytes (front ++ bytes))).cursor.offset =
      front.length + (decoder (.ofBytes bytes)).cursor.offset

/-- In a window of `bytes` behind `front`, the decoder finds what it finds in `bytes` alone, and
passes as many of them. If it fails, only the absolute positions in the fault are moved on. -/
def Decoder.SameInWindow (front bytes : Bytes) (decoder : Decoder Fault α) : Prop :=
  ∃ window,
    ((do let _ ← read (take front.length); Record.split bytes.length)
      (.ofBytes (front ++ bytes))).result = .ok window ∧
    (decoder window).result =
      (decoder (.ofBytes bytes)).result.mapError (Fault.displaced front.length) ∧
    (decoder window).cursor.offset = (decoder (.ofBytes bytes)).cursor.offset

/-- The results of the same decode in two places differ in the positions of faults only. -/
lemma Decoder.Same.result_eq (h : Same shift decoder c d) :
    (decoder d).result = (decoder c).result.mapError (Fault.displaced shift) := by
  cases h with
  | ok hnear hfar hvalues _ =>
    rw [hnear, hfar, hvalues]
    rfl
  | error hnear hfar _ =>
    rw [hnear, hfar]
    rfl

/-- The same decode in two places ends in places that lie as far apart. -/
lemma Decoder.Same.displaced (h : Same shift decoder c d) :
    (decoder c).cursor.Displaced shift (decoder d).cursor := by
  cases h <;> assumption

/-- The bytes in front are taken, and the others are left. -/
lemma take_front_apply (front bytes : Bytes) :
    (read (take front.length) (.ofBytes (front ++ bytes))).result = .ok front ∧
      (Cursor.ofBytes bytes).Displaced front.length
        (read (take front.length) (.ofBytes (front ++ bytes))).cursor := by
  have hle : front.length ≤ (Cursor.ofBytes (front ++ bytes)).remaining := by
    show front.length ≤ (front ++ bytes).length
    rw [List.length_append]
    omega
  unfold Record.read mapFault
  rw [take_apply_of_le hle]
  exact ⟨congrArg Except.ok List.take_left, List.drop_left, Nat.add_comm _ _⟩

/-- A decoder that does the same elsewhere does the same behind other bytes. -/
lemma sameBehind_of_same (h : ∀ d, (Cursor.ofBytes bytes).Displaced front.length d →
    Same front.length decoder (.ofBytes bytes) d) : SameBehind front bytes decoder := by
  obtain ⟨htake, hdisplaced⟩ := take_front_apply front bytes
  have hsame := h _ hdisplaced
  refine ⟨?_, ?_⟩
  · rw [result_bind_of_ok htake, hsame.result_eq]
  · rw [cursor_bind_of_ok htake]
    have hnear := (decoder (.ofBytes bytes)).ahead.2.1
    have hfar := (decoder (read (take front.length) (.ofBytes (front ++ bytes))).cursor).ahead.2.1
    have hbase := (read (take front.length) (.ofBytes (front ++ bytes))).ahead.2.1
    have hposition := hsame.displaced.position
    rw [Cursor.position, Cursor.position, hnear, hfar, hbase] at hposition
    change 0 + _ = 0 + _ + _ at hposition
    omega

/-- A decoder that does the same elsewhere in the input does the same in a window behind other
bytes. -/
lemma sameInWindow_of_same (h : ∀ d, (Cursor.ofBytes bytes).Moved front.length d →
    Same front.length decoder (.ofBytes bytes) d) : SameInWindow front bytes decoder := by
  obtain ⟨htake, hdisplaced⟩ := take_front_apply front bytes
  have hmoved := hdisplaced.inner bytes.length
  have hwhole : (Cursor.ofBytes bytes).inner bytes.length = .ofBytes bytes :=
    Cursor.ext (List.take_length) rfl rfl
  rw [hwhole] at hmoved
  have hsame := h _ hmoved
  refine ⟨_, ?_, hsame.result_eq,
    (hmoved.mono (decoder _).ahead (decoder _).ahead hsame.displaced).offset⟩
  have hle :
      bytes.length ≤ (read (take front.length) (.ofBytes (front ++ bytes))).cursor.remaining :=
    Nat.le_of_eq hdisplaced.remaining.symm
  rw [result_bind_of_ok htake]
  refine mapFault_ok_iff.mpr ?_
  rw [split_apply_of_le hle]

/-- **Records are the same wherever they stand.** Behind any bytes, the readers of constants,
attributes, members, bodies and handlers find what they find without these bytes, or fail in the
same way, with only the absolute positions moved on. So do the readers of instructions, in a window
of their own.

**Proof sketch.** Both decodes are compared step by step. A read sees only the unread bytes, which
are the same, and where it says where it failed, the position is further on by the bytes in front.
Windows that are opened on the way are the same windows again, so places in code, which count from
the start of a window, agree. -/
theorem readers_same_behind (pool : Pool) (options : Options) (index : Index) (codeLength : Nat)
    (front bytes : Bytes) :
    SameBehind front bytes (Constant.reader index) ∧
    SameBehind front bytes (Attribute.reader pool) ∧
    SameBehind front bytes (Attribute.listReader pool) ∧
    SameBehind front bytes (Field.reader pool options) ∧
    SameBehind front bytes (Method.reader pool options) ∧
    SameBehind front bytes (Code.reader pool) ∧
    SameBehind front bytes (Handler.reader pool codeLength) ∧
    SameInWindow front bytes Instruction.reader ∧
    SameInWindow front bytes Instruction.allReader := by
  obtain ⟨hattribute, hcode, hlist⟩ := Attribute.same_readers pool (.ofBytes bytes)
  exact ⟨sameBehind_of_same fun _ => Constant.same_reader index,
    sameBehind_of_same (hattribute _), sameBehind_of_same (hlist _),
    sameBehind_of_same fun _ => Field.same_reader pool options,
    sameBehind_of_same fun _ => Method.same_reader pool options,
    sameBehind_of_same (hcode _),
    sameBehind_of_same fun _ => Handler.same_reader pool codeLength,
    sameInWindow_of_same fun _ => Instruction.same_reader,
    sameInWindow_of_same fun _ => Instruction.same_allReader⟩

end Behind

end ClassFormat
