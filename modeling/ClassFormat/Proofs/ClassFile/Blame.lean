import ClassFormat.Proofs.ClassFile.Sections
import ClassFormat.Proofs.Decoder.Law
import ClassFormat.Proofs.Decoder.View
import ClassFormat.Proofs.Pool.Lookup
import ClassFormat.Proofs.Text.Faults

/-!
# What faults accuse

A fault of a class file comes with a position, and most faults quote what they found there. This
module shows that the bytes at the position are the ones that the fault quotes, in whatever window
it was found and however many records it was pinned to on its way out.

## Main definitions

* `ClassFormat.Fault.Accuses` — what the input has to hold at a position for a fault to be right.
* `ClassFormat.Decoder.Blames` — a decoder whose faults are right, if those without a position are
  taken to be about a given one.

## Main results

* `ClassFormat.Record.blames_located` — a record pins the faults that are about its first byte.
* `ClassFormat.ClassFile.accuses_of_decode` — every fault of a class file is right.
-/

namespace ClassFormat

open Decoder hiding word split split_ok
open Record

/-- The pool of a class file: what stands behind the magic number and the version. -/
def ClassFile.poolOf (input : Bytes) : Except Fault Pool :=
  ((do let _ ← read (take 8); Pool.reader) (.ofBytes input)).result

namespace Fault

/-- What the input holds at the position that a fault is reported for. A fault that quotes nothing
accuses nothing in particular, and the position of a record is no part of a report. -/
def Accuses (input : Bytes) (offset : Nat) : Fault → Prop
  | badMagic magic => offset = 0 ∧ StandsAt input 0 (Word.toBytes magic)
  | unsupportedVersion major minor =>
    offset = 4 ∧ StandsAt input 4 (Word.toBytes minor ++ Word.toBytes major)
  | malformedPool (.unknownTag _ tag) => StandsAt input offset [tag]
  | malformedPool (.unknownHandleKind _ code) => StandsAt input offset [Kind.methodHandle.tag, code]
  | invalidText cause => offset = cause.offset ∧ StandsAt input offset [cause.byte]
  | illegalAccess _ flags => StandsAt input offset (Word.toBytes flags)
  | invalidDescriptor text =>
    ∃ (pool : Pool) (index : Index), ClassFile.poolOf input = .ok pool ∧
      StandsAt input (offset + 4) (Word.toBytes index) ∧ pool.Holds index (.utf8 text)
  | malformedRange first last =>
    ∃ start stop : UInt16, start.toNat = first ∧ stop.toNat = last ∧
      StandsAt input offset (Word.toBytes start ++ Word.toBytes stop)
  | malformedSwitch _ =>
    StandsAt input offset [Opcode.tableswitch.byte] ∨
    StandsAt input offset [Opcode.lookupswitch.byte]
  | unsupportedOpcode _ byte =>
    Opcode.ofByte? byte = none ∧ StandsAt input offset [byte] ∨
      StandsAt input offset [Opcode.wide.byte, byte]
  | located .. => False
  | _ => True

/-- A fault is right about the position that it knows, or about `home` if it knows none. -/
def RightAt (input : Bytes) (home : Nat) (fault : Fault) : Prop :=
  fault.unpinned.Accuses input (fault.location?.getD home)

variable {input : Bytes} {home : Nat}

/-- A fault that is right about the first byte of a record is right about whatever lies around the
record once it is pinned. -/
lemma RightAt.pinnedAt {offset : Nat} {fault : Fault} (h : fault.RightAt input offset) :
    (fault.pinnedAt offset).RightAt input home := by
  cases fault <;> exact h

/-- The fault of a reference quotes no bytes, so it is right about any position. -/
lemma IsReference.rightAt {fault : Fault} (h : fault.IsReference) : fault.RightAt input home := by
  unfold IsReference at h
  split at h
  · trivial
  · trivial
  · cases h

end Fault

namespace Decoder

variable {α : Type}

/-- A decoder whose faults are right, if those without a position are about `home`. -/
abbrev Blames (input : Bytes) (home : Nat) (decoder : Decoder Fault α) (start : Cursor) : Prop :=
  Obeys (Law.ofFault (Fault.RightAt input home)) decoder start

variable {input : Bytes} {home : Nat} {start : Cursor}

/-- A look-up in the pool is no accusation of bytes. -/
lemma blames_refers {found : Except Fault α} (h : Refers found) :
    Blames input home (given found) start :=
  obeys_given fun fault hfault => (h fault hfault).rightAt

end Decoder

namespace Record

variable {α : Type} {input : Bytes} {home : Nat} {start : Cursor}

/-- A read that fails quotes nothing. -/
lemma blames_read (decoder : Decoder ReadFault α) : Blames input home (read decoder) start := by
  intro fault hfault
  obtain ⟨cause, _, rfl⟩ := exists_of_mapFault_error hfault
  trivial

/-- A word that is missing quotes nothing. -/
lemma blames_word [Word α] : Blames input home (word : Decoder Fault α) start :=
  blames_read _

/-- A window that is missing quotes nothing. -/
lemma blames_split (count : Nat) : Blames input home (split count) start :=
  blames_read _

/-- A record pins the faults that are about its first byte, so they are right about it wherever the
record stands. -/
lemma blames_located {record : Decoder Fault α} (h : Blames input start.position record start) :
    Blames input home (located record) start := by
  intro fault hfault
  obtain ⟨cause, hcause, rfl⟩ := exists_of_mapFault_error hfault
  exact (h cause hcause).pinnedAt

/-- A table accuses the right bytes if its records do, each with its own first byte as home. -/
lemma blames_table {record : Decoder Fault α}
    (h : ∀ c, start ≤ c → Blames input c.position record c) :
    Blames input home (table record) start := by
  refine blames_word.bind fun count _ => Obeys.seq (fun c hc => blames_located ?_) count.toNat
  exact h c (Cursor.le_trans (word (α := UInt16) start).ahead hc)

end Record

/-! ## The constant pool -/

section Readers

variable {input : Bytes} {home : Nat} {start : Cursor}

namespace Constant

/-- A text that cannot be read accuses the byte that is out of place in the input. -/
lemma blames_textReader (hviews : start.Views input) : Blames input home textReader start := by
  intro fault hfault
  unfold textReader at hfault
  split at hfault
  · cases hfault
  · next cause hcause =>
    cases hfault
    exact ⟨rfl, Modified.standsAt_of_decode_error hviews.rest hcause⟩

/-- The code of a method handle stands behind its tag, so the fault is about the tag's position. -/
lemma blames_contentReader {index : Index} {kind : Kind} (hviews : start.Views input)
    (htag : kind = .methodHandle →
      start.position = home + 1 ∧ StandsAt input home [Kind.methodHandle.tag]) :
    Blames input home (contentReader index kind) start := by
  cases kind with
  | utf8 => exact (blames_textReader hviews).bind fun _ _ => obeys_pure _ _
  | integer | float | long | double | label => exact blames_word.bind fun _ _ => obeys_pure _ _
  | member | nameAndType | dynamic =>
    exact blames_word.bind fun _ _ => blames_word.bind fun _ _ => obeys_pure _ _
  | methodHandle =>
    refine blames_word.bind fun code hcode => ?_
    split
    · exact blames_word.bind fun _ _ => obeys_pure _ _
    · obtain ⟨hposition, hstands⟩ := htag rfl
      have hbyte := standsAt_of_byte hviews hcode
      rw [hposition] at hbyte
      exact obeys_fail (hstands.append hbyte)

/-- The length of a constant is known from its kind or read as a word, which quotes nothing. -/
lemma blames_lengthReader (kind : Kind) : Blames input home (lengthReader kind) start := by
  unfold lengthReader
  split
  · exact obeys_pure _ _
  · exact blames_word.bind fun _ _ => obeys_pure _ _

/-- A constant is right about its tag. -/
lemma blames_reader (index : Index) (hviews : start.Views input) :
    Blames input start.position (Constant.reader index) start := by
  unfold Constant.reader
  refine blames_word.bind fun tag htag => ?_
  have hstands := standsAt_of_byte hviews htag
  have hbehind := hviews.mono (word (α := UInt8) start).ahead
  split
  · next kind hkind =>
    refine (blames_lengthReader kind).bind fun length _ => (blames_split length).bind ?_
    intro window hwindow
    have hinner := (hbehind.mono (lengthReader kind _).ahead).inner length
    rw [← split_ok hwindow] at hinner
    refine (obeys_inside (blames_contentReader hinner ?_)).bind fun _ _ => obeys_pure _ _
    rintro rfl
    -- nothing stands between the tag of a method handle and its content
    rw [split_ok hwindow]
    refine ⟨(word_ok htag).2, ?_⟩
    rw [Kind.ofTag?_eq_some_iff.mp hkind]
    exact hstands
  · exact obeys_fail hstands

end Constant

namespace Pool

/-- A slot accuses the tag of the constant that it holds, or a byte of its text. -/
lemma blames_slotReader (slots : Array Slot) (hviews : start.Views input) :
    Blames input home (slotReader slots) start := by
  unfold slotReader
  split
  · exact obeys_pure _ _
  · refine (blames_located (Constant.blames_reader _ hviews)).bind fun constant _ => ?_
    exact (obeys_note _).bind fun _ _ => obeys_pure _ _

/-- A constant pool accuses what its slots accuse: its count is not quoted. -/
lemma blames_reader (hviews : start.Views input) : Blames input home Pool.reader start := by
  unfold Pool.reader
  refine (obeys_position start).bind fun _ _ => blames_word.bind fun declared _ => ?_
  have hbehind := hviews.mono (word (α := UInt16) start).ahead
  split
  · exact obeys_fail trivial
  · refine (Obeys.grow (fun items c hc => ?_) _).bind fun slots _ => ?_
    · exact blames_slotReader items (hbehind.mono hc)
    split
    · exact obeys_fail trivial
    · refine (obeys_position _).bind fun stop _ => ?_
      exact (obeys_note _).bind fun _ _ => obeys_pure _ _

end Pool

/-! ## Instructions and handlers -/

namespace Instruction

/-- A word that is missing ahead quotes nothing. -/
lemma blames_wordAt {α : Type} [Word α] (offset : Nat) :
    Blames input home (wordAt offset : Decoder Fault α) start := by
  refine (obeys_here start).bind fun c _ => obeys_given fun fault hfault => ?_
  cases hword : c.wordAt (α := α) offset with
  | ok value =>
    rw [hword] at hfault
    cases hfault
  | error cause =>
    rw [hword] at hfault
    cases hfault
    trivial

/-- A word that is found ahead stands in the input at that place. -/
lemma standsAt_of_wordAt {α : Type} [Word α] {offset : Nat} {value : α} (hviews : start.Views input)
    (h : (wordAt offset start).result = .ok value) :
    StandsAt input (start.base + offset) (Word.toBytes value) := by
  obtain ⟨c, hhere, hgiven, _⟩ := exists_of_bind_ok h
  cases hhere
  apply hviews.standsAt_of_wordAt
  cases hword : start.wordAt (α := α) offset <;> rw [hword] at hgiven <;> cases hgiven
  rfl

/-- A table whose keys are not in order accuses its opcode. -/
lemma blames_tableLength {pc : Nat} (hopcode : StandsAt input home [Opcode.tableswitch.byte]) :
    Blames input home (tableLength pc) start := by
  unfold tableLength
  refine (blames_wordAt _).bind fun low _ => (blames_wordAt _).bind fun high _ => ?_
  split
  · exact obeys_fail (.inl hopcode)
  · exact obeys_pure _ _

/-- A list with a negative number of pairs accuses its opcode. -/
lemma blames_lookupLength {pc : Nat} (hopcode : StandsAt input home [Opcode.lookupswitch.byte]) :
    Blames input home (lookupLength pc) start := by
  unfold lookupLength
  refine (blames_wordAt _).bind fun count _ => ?_
  split
  · exact obeys_fail (.inr hopcode)
  · exact obeys_pure _ _

/-- The byte that `wide` cannot modify stands behind it. -/
lemma blames_wideLength {pc : Nat} (hviews : start.Views input) (hpc : start.base + pc = home)
    (hopcode : StandsAt input home [Opcode.wide.byte]) :
    Blames input home (wideLength pc) start := by
  unfold wideLength
  refine (blames_wordAt _).bind fun modified hmodified => ?_
  split
  · exact obeys_pure _ _
  · have hbyte := standsAt_of_wordAt hviews hmodified
    rw [Word.toBytes_byte, ← Nat.add_assoc, hpc] at hbyte
    exact obeys_fail (.inr (hopcode.append hbyte))

/-- Operands whose length cannot be found accuse their opcode, together with the one that it widens.
-/
lemma blames_operandLength {pc : Nat} {opcode : Opcode} (hviews : start.Views input)
    (hpc : start.base + pc = home) (hopcode : StandsAt input home [opcode.byte]) :
    Blames input home (operandLength pc opcode) start := by
  unfold operandLength
  split
  · exact obeys_pure _ _
  · next hdependent =>
    rcases Opcode.eq_of_dependent hdependent with rfl | rfl | rfl
    · exact blames_tableLength hopcode
    · exact blames_lookupLength hopcode
    · exact blames_wideLength hviews hpc hopcode

/-- An instruction is right about its opcode. -/
lemma blames_reader (hviews : start.Views input) :
    Blames input start.position Instruction.reader start := by
  unfold Instruction.reader
  refine (obeys_here start).bind fun c hc => blames_word.bind fun byte hbyte => ?_
  cases hc
  have hstands := standsAt_of_byte hviews hbyte
  have hahead := (word (α := UInt8) start).ahead
  split
  · next opcode hopcode =>
    have hopcodeByte := Opcode.byte_of_ofByte? hopcode
    refine (blames_operandLength (hviews.mono hahead) ?_ (hopcodeByte ▸ hstands)).bind ?_
    · exact congrArg (· + start.offset) hahead.2.1
    · intro length _
      refine (blames_read _).bind fun operands _ => ?_
      exact (obeys_note _).bind fun _ _ => obeys_pure _ _
  · next hopcode => exact obeys_fail (.inl ⟨hopcode, hstands⟩)

/-- A code array accuses what its first instruction that cannot be read accuses. -/
lemma blames_allReader (hviews : start.Views input) : Blames input home allReader start :=
  Obeys.untilEmpty _ fun _ hc => blames_located (blames_reader (hviews.mono hc))

end Instruction

/-- A handler is right about its range, the first two of its words. -/
lemma Handler.blames_reader (pool : Pool) (codeLength : Nat) (hviews : start.Views input) :
    Blames input start.position (Handler.reader pool codeLength) start := by
  unfold Handler.reader
  refine blames_word.bind fun first hfirst => blames_word.bind fun last hlast => ?_
  have hrange : Fault.RightAt input start.position (.malformedRange first.toNat last.toNat) := by
    refine ⟨first, last, rfl, rfl, (standsAt_of_word hviews hfirst).append ?_⟩
    have hstands := standsAt_of_word (hviews.mono (word (α := UInt16) start).ahead) hlast
    rw [(word_ok hfirst).2] at hstands
    rw [Word.length_toBytes]
    exact hstands
  refine blames_word.bind fun target _ => blames_word.bind fun catches _ => ?_
  have hchecks : ∀ name c, Blames input start.position (do
      let handler ← given (Handler.ofRange first.toNat last.toNat target.toNat name)
      if codeLength < last.toNat then fail (.malformedRange first.toNat last.toNat)
      else return handler) c := by
    intro name c
    refine (obeys_given fun fault hfault => ?_).bind fun handler _ => ?_
    · obtain rfl := Handler.eq_of_ofRange_error hfault
      exact hrange
    · split
      · exact obeys_fail hrange
      · exact obeys_pure _ _
  by_cases hcatches : catches = 0
  · simp only [hcatches, if_true]
    exact (obeys_pure _ _).bind fun name _ => hchecks name _
  · simp only [hcatches, if_false]
    refine Obeys.bind ?_ fun name _ => hchecks name _
    exact (blames_refers (pool.refers_className catches)).bind fun _ _ => obeys_pure _ _

/-! ## Attributes and members -/

namespace Attribute

/-- A frame lacks bytes or refers to no name, and quotes nothing. -/
lemma blames_frameReader (pool : Pool) : Blames input home (frameReader pool) start := by
  unfold frameReader
  refine blames_word.bind fun nameIndex _ =>
    (blames_refers (pool.refers_utf8 _)).bind fun name _ => ?_
  refine blames_word.bind fun length _ => ?_
  exact (blames_split _).bind fun payload _ => obeys_pure _ _

/-- The payload of an attribute is a window of the bytes behind its name and its length. -/
lemma exists_payload_eq_inner {pool : Pool} {frame : Frame}
    (h : (frameReader pool start).result = .ok frame) :
    ∃ c count, start ≤ c ∧ frame.payload = c.inner count := by
  obtain ⟨nameIndex, _, hname, _⟩ := exists_of_bind_ok h
  obtain ⟨name, _, hlength, _⟩ := exists_of_bind_ok hname
  obtain ⟨length, _, hsplit, _⟩ := exists_of_bind_ok hlength
  obtain ⟨payload, hpayload, hreturn, _⟩ := exists_of_bind_ok hsplit
  cases hreturn
  refine ⟨_, _, ?_, split_ok hpayload⟩
  refine Cursor.le_trans (word (α := Index) start).ahead ?_
  exact Cursor.le_trans (given (pool.utf8 nameIndex) _).ahead (word (α := UInt32) _).ahead

/-- The payload of a frame is a window on the same input. -/
lemma views_payload {pool : Pool} {frame : Frame} (hviews : start.Views input)
    (h : (frameReader pool start).result = .ok frame) : frame.payload.Views input := by
  obtain ⟨c, count, hc, hpayload⟩ := exists_payload_eq_inner h
  rw [hpayload]
  exact (hviews.mono hc).inner count

/-- A body that has been read accuses nothing any more. -/
lemma blames_finishCode (frame : Frame) (body : Code) (stop : Cursor) :
    Blames input home (finishCode frame body stop) start := by
  unfold finishCode
  split
  · exact obeys_pure _ _
  · exact (obeys_note _).bind fun _ _ => obeys_pure _ _

end Attribute

/-- The head of a body accuses what its words, its code array or its handlers accuse. -/
lemma Code.blames_headReader (pool : Pool) (hviews : start.Views input) :
    Blames input home (Code.headReader pool) start := by
  unfold Code.headReader
  refine blames_word.bind fun maxStack _ => blames_word.bind fun maxLocals _ => ?_
  refine blames_word.bind fun codeLength _ => (blames_split _).bind fun window hwindow => ?_
  have hahead : start ≤ (word (α := UInt32) (word (α := UInt16)
      (word (α := UInt16) start).cursor).cursor).cursor :=
    Cursor.le_trans (word start).ahead (Cursor.le_trans (word _).ahead (word _).ahead)
  have hinner : window.Views input := by
    rw [split_ok hwindow]
    exact (hviews.mono hahead).inner _
  refine (obeys_inside (Instruction.blames_allReader hinner)).bind fun _ _ => ?_
  refine (blames_table fun c hc => Handler.blames_reader pool _ (hviews.mono ?_)).bind
    fun handlers _ => obeys_pure _ _
  exact Cursor.le_trans hahead (Cursor.le_trans (split codeLength.toNat _).ahead hc)

namespace Attribute

/-- In a window of the input, the decoder is right whatever its faults without a position are about.
-/
def BlamesAnywhere {α : Type} (input : Bytes) (decoder : Decoder Fault α) (start : Cursor) : Prop :=
  start.Views input → ∀ home, Blames input home decoder start

/-- Attributes, bodies and lists of attributes are right whatever lies around them: their records
pin the faults that have no position yet. -/
theorem blames_readers (pool : Pool) (start : Cursor) :
    BlamesAnywhere input (Attribute.reader pool) start ∧
    BlamesAnywhere input (Code.reader pool) start ∧
      BlamesAnywhere input (Attribute.listReader pool) start := by
  refine readers_induction pool ?_ ?_ ?_ start
  · intro start hbody hviews home
    rw [Attribute.reader_eq]
    refine (blames_frameReader pool).bind fun frame hframe => ?_
    have hpayload := hbody frame hframe (views_payload hviews hframe) home
    split
    · exact (obeys_inside hpayload).bind fun _ _ => blames_finishCode frame _ _
    · exact obeys_pure _ _
  · intro start hlist hviews home
    rw [Code.reader_eq]
    refine (Code.blames_headReader pool hviews).bind fun head hhead => ?_
    have hbehind := hviews.mono (Code.headReader pool start).ahead
    refine (hlist head hhead hbehind home).bind fun attributes _ => ?_
    exact (obeys_note _).bind fun _ _ => obeys_pure _ _
  · intro start hitem hviews home
    rw [Attribute.listReader_eq]
    refine blames_word.bind fun count hcount => Obeys.seq (fun c hc => ?_) count.toNat
    have hbehind := hviews.mono (Cursor.le_trans (word (α := UInt16) start).ahead hc)
    exact blames_located (hitem count hcount c hc hbehind c.position)

/-- A list of attributes accuses what one of them accuses, at any depth. -/
lemma blames_listReader (pool : Pool) (hviews : start.Views input) :
    Blames input home (Attribute.listReader pool) start :=
  (blames_readers pool start).2.2 hviews home

end Attribute

/-- Flags are right about themselves. -/
lemma Access.blames_reader (options : Options) (target : AccessTarget)
    (hviews : start.Views input) :
    Blames input start.position (Access.reader options target) start := by
  unfold Access.reader
  refine blames_word.bind fun raw hraw => ?_
  dsimp only
  split
  · refine (obeys_given fun fault hfault => ?_).bind fun _ _ => obeys_pure _ _
    obtain rfl := Access.eq_of_validate_error hfault
    exact standsAt_of_word hviews hraw
  · exact obeys_pure _ _

/-- Flags are one word, whether they are checked or not. -/
lemma Access.cursor_reader (options : Options) (target : AccessTarget) (start : Cursor) :
    (Access.reader options target start).cursor = (word (α := UInt16) start).cursor := by
  unfold Access.reader
  cases hraw : (word (α := UInt16) start).result with
  | error fault => rw [cursor_bind_of_error hraw]
  | ok raw =>
    rw [cursor_bind_of_ok hraw]
    dsimp only
    split
    · cases Access.validate { target, raw } <;> rfl
    · rfl

/-- Members begin alike: with flags, a name, and a descriptor, whose index stands four bytes behind
the member's first one. -/
lemma blames_member {α : Type} {pool : Pool} (hpool : ClassFile.poolOf input = .ok pool)
    (options : Options) (target : AccessTarget) (hviews : start.Views input)
    {next : Access → String → String → Decoder Fault α}
    (hnext : ∀ access name descriptor c, c.Views input →
      Fault.RightAt input start.position (.invalidDescriptor descriptor) →
      Blames input start.position (next access name descriptor) c) :
    Blames input start.position (do
      let access ← Access.reader options target
      let name ← given (pool.utf8 (← word))
      let descriptor ← given (pool.utf8 (← word))
      next access name descriptor) start := by
  refine (Access.blames_reader options target hviews).bind fun access haccess => ?_
  obtain ⟨raw, hraw, _, _⟩ := exists_of_bind_ok haccess
  rw [Access.cursor_reader]
  have hviews₁ := hviews.mono (word (α := UInt16) start).ahead
  refine blames_word.bind fun nameIndex hname => (blames_refers (pool.refers_utf8 _)).bind ?_
  intro name _
  rw [cursor_given]
  have hviews₂ := hviews₁.mono (word (α := Index) _).ahead
  refine blames_word.bind fun index hindex => (blames_refers (pool.refers_utf8 _)).bind ?_
  intro descriptor hdescriptor
  rw [cursor_given]
  refine hnext access name descriptor _ (hviews₂.mono (word (α := Index) _).ahead) ?_
  rw [result_given] at hdescriptor
  refine ⟨pool, index, hpool, ?_, Pool.utf8_eq_ok_iff.mp hdescriptor⟩
  have hstands := standsAt_of_word hviews₂ hindex
  rw [(word_ok hname).2, (word_ok hraw).2] at hstands
  exact hstands

/-- A field accuses its flags, its descriptor in the pool, or what its attributes accuse. -/
lemma Field.blames_reader {pool : Pool} (hpool : ClassFile.poolOf input = .ok pool)
    (options : Options) (hviews : start.Views input) :
    Blames input start.position (Field.reader pool options) start := by
  refine blames_member hpool options .field hviews fun access name descriptor c hc hright => ?_
  refine (obeys_given fun fault hfault => ?_).bind fun type _ => ?_
  · obtain rfl := TypeDescriptor.eq_of_parse_error hfault
    exact hright
  · rw [cursor_given]
    split
    · exact obeys_fail hright
    · exact (Attribute.blames_listReader pool hc).bind fun attributes _ => obeys_pure _ _

/-- A method accuses its flags, its descriptor in the pool, or what its attributes accuse. -/
lemma Method.blames_reader {pool : Pool} (hpool : ClassFile.poolOf input = .ok pool)
    (options : Options) (hviews : start.Views input) :
    Blames input start.position (Method.reader pool options) start := by
  refine blames_member hpool options .method hviews fun access name descriptor c hc hright => ?_
  refine (obeys_given fun fault hfault => ?_).bind fun signature _ => ?_
  · obtain rfl := Signature.eq_of_parse_error hfault
    exact hright
  · rw [cursor_given]
    exact (Attribute.blames_listReader pool hc).bind fun attributes _ => obeys_pure _ _

/-! ## Sections -/

namespace ClassFile

/-- The magic number is the first thing in a class file, and the version stands behind it. -/
lemma blames_headerReader (options : Options) (hviews : start.Views input)
    (hstart : start.position = 0) : Blames input home (headerReader options) start := by
  unfold headerReader
  refine blames_word.bind fun found hfound => ?_
  have hmagic := standsAt_of_word hviews hfound
  rw [hstart] at hmagic
  split
  · exact obeys_fail ⟨rfl, hmagic⟩
  · refine (obeys_position _).bind fun position hposition => ?_
    have hfour : position = 4 := by
      cases hposition
      rw [(word_ok hfound).2, hstart]
      rfl
    refine blames_word.bind fun minor hminor => blames_word.bind fun major hmajor => ?_
    have hviews₁ := hviews.mono (word (α := UInt32) start).ahead
    have hviews₂ := hviews₁.mono (word (α := UInt16) _).ahead
    have hversion := (standsAt_of_word hviews₁ hminor).append
      ((word_ok hminor).2 ▸ standsAt_of_word hviews₂ hmajor)
    rw [(word_ok hfound).2, hstart] at hversion
    split
    · exact obeys_fail ⟨hfour, hversion⟩
    · exact obeys_pure _ _

/-- The header takes eight bytes. -/
lemma position_of_headerReader {options : Options} {version : Version}
    (h : (headerReader options start).result = .ok version) :
    (headerReader options start).cursor.position = start.position + 8 := by
  obtain ⟨found, hfound, hnext, hcursor⟩ := exists_of_bind_ok h
  refine (congrArg Cursor.position hcursor).trans ?_
  split at hnext
  · cases hnext
  · next hmagic =>
    rw [if_neg hmagic]
    obtain ⟨position, hposition, hnext, hcursor⟩ := exists_of_bind_ok hnext
    obtain ⟨minor, hminor, hnext, hcursor₁⟩ := exists_of_bind_ok hnext
    obtain ⟨major, hmajor, hnext, hcursor₂⟩ := exists_of_bind_ok hnext
    rw [hcursor, hcursor₁, hcursor₂]
    split at hnext
    · cases hnext
    · next hlimit =>
      rw [if_neg hlimit]
      refine (word_ok hmajor).2.trans ?_
      rw [(word_ok hminor).2]
      exact congrArg (· + 2 + 2) (word_ok hfound).2

/-- The section of the constant pool accuses what the pool accuses: its check quotes nothing. -/
lemma blames_poolReader (options : Options) (hviews : start.Views input) :
    Blames input home (poolReader options) start := by
  unfold poolReader
  refine (Pool.blames_reader hviews).bind fun pool _ => ?_
  split
  · exact (blames_refers pool.refers_verify).bind fun _ _ => obeys_pure _ _
  · exact obeys_pure _ _

/-- The pool that a class file is read with is the one behind its first eight bytes. -/
lemma poolOf_eq_ok {options : Options} {pool : Pool} (hstart : .ofBytes input ≤ start)
    (hposition : start.position = 8) (h : (poolReader options start).result = .ok pool) :
    poolOf input = .ok pool := by
  have hbase : start.base = 0 := hstart.2.1
  have hwindow : start.window = input := hstart.1
  have hoffset : start.offset = 8 := by
    unfold Cursor.position at hposition
    omega
  have hle : 8 ≤ (Cursor.ofBytes input).remaining := by
    have hbound := start.offset_le
    rw [hwindow, hoffset] at hbound
    exact hbound
  have htake := take_apply_of_le hle
  have hresult : (read (take 8) (.ofBytes input)).result = .ok (input.take 8) := by
    refine mapFault_ok_iff.mpr ?_
    rw [htake]
    rfl
  have hcursor : (read (take 8) (.ofBytes input)).cursor = start := by
    show (take 8 (.ofBytes input)).cursor = start
    rw [htake]
    exact Cursor.ext hwindow.symm hbase.symm ((Nat.zero_add 8).trans hoffset.symm)
  rw [poolOf, result_bind_of_ok hresult, hcursor]
  obtain ⟨found, hfound, hnext, _⟩ := exists_of_bind_ok h
  rw [hfound]
  split at hnext
  · obtain ⟨_, _, hreturn, _⟩ := exists_of_bind_ok hnext
    exact hreturn
  · exact hnext

/-- The names of a class lack bytes or cannot be looked up, and quote nothing. -/
lemma blames_namesReader (pool : Pool) : Blames input home (namesReader pool) start := by
  unfold namesReader
  refine blames_word.bind fun this _ => blames_word.bind fun super _ => ?_
  refine (blames_refers (pool.refers_className _)).bind fun name _ => ?_
  split
  · exact (obeys_pure _ _).bind fun superName _ => obeys_pure _ _
  · exact (blames_refers (pool.refers_className _)).bind fun superName _ => obeys_pure _ _

/-- An interface lacks bytes or cannot be looked up, and quotes nothing. -/
lemma blames_interfaceReader (pool : Pool) : Blames input home (interfaceReader pool) start :=
  blames_word.bind fun _ _ => blames_refers (pool.refers_className _)

/-- A decoder of sections whose faults are right. -/
abbrev Accuses {α : Type} (input : Bytes) (decoder : Decoder ClassFault α) (start : Cursor) :
    Prop :=
  Obeys (Law.ofFault fun fault : ClassFault => fault.cause.Accuses input fault.offset) decoder start

/-- A section reports faults without a position at its own start. -/
lemma accuses_inSection {α : Type} (part : Section) {content : Decoder Fault α}
    (h : Blames input start.position content start) :
    Accuses input (inSection part content) start := by
  intro fault hfault
  obtain ⟨cause, hcause, rfl⟩ := inSection_error part start hfault
  exact h cause hcause

/-- Sections in a row are sections of the same input. -/
lemma accuses_bind {α β : Type} {first : Decoder ClassFault α} {next : α → Decoder ClassFault β}
    (hviews : start.Views input) (hfirst : Accuses input first start)
    (hnext : ∀ value c, c.Views input → Accuses input (next value) c) :
    Accuses input (first >>= next) start :=
  hfirst.bind fun value _ => hnext value _ (hviews.mono (first start).ahead)

/-- The sections of a class file, decoded from the start of the input, are right about it. -/
theorem accuses_sectionsReader (raw : Bytes) (options : Options) :
    Accuses input (sectionsReader raw options) (.ofBytes input) := by
  unfold sectionsReader
  have hviews := Cursor.views_ofBytes input
  refine (accuses_inSection .header (blames_headerReader options hviews rfl)).bind
    fun version hversion => ?_
  rw [inSection_cursor]
  have hposition := position_of_headerReader ((inSection_ok_iff _ _).mp hversion)
  have hheader := (headerReader options (.ofBytes input)).ahead
  have hviews := hviews.mono hheader
  refine (accuses_inSection .constantPool (blames_poolReader options hviews)).bind
    fun pool hpool => ?_
  have hpool := poolOf_eq_ok hheader hposition ((inSection_ok_iff _ _).mp hpool)
  have hviews := hviews.mono (poolReader options _).ahead
  -- from here on, sections need to know no more than that they stand in the input
  refine accuses_bind hviews (accuses_inSection _ (Access.blames_reader options _ hviews)) ?_
  intro access c hviews
  refine accuses_bind hviews (accuses_inSection _ (blames_namesReader pool)) ?_
  rintro ⟨name, superName⟩ c hviews
  refine accuses_bind hviews (accuses_inSection _ (blames_table fun c _ => ?_)) ?_
  · exact blames_interfaceReader pool
  intro interfaces c hviews
  refine accuses_bind hviews (accuses_inSection _ (blames_table fun c hc => ?_)) ?_
  · exact Field.blames_reader hpool options (hviews.mono hc)
  intro fields c hviews
  refine accuses_bind hviews (accuses_inSection _ (blames_table fun c hc => ?_)) ?_
  · exact Method.blames_reader hpool options (hviews.mono hc)
  intro methods c hviews
  refine accuses_bind hviews (accuses_inSection _ (Attribute.blames_listReader pool hviews)) ?_
  intro attributes c _ fault hfault
  rw [(finish_apply _ c).1] at hfault
  cases hfault

end ClassFile

end Readers

namespace ClassFile

/-- **Faults are right about the bytes.** The bytes at the position of a fault are the ones that it
quotes: the magic number at the start of the file and the version behind it, a tag, the code of a
method handle behind its tag, a byte of a text, flags, a descriptor by its index, the range of a
handler, the opcode of a switch, and an opcode that does not exist or cannot be widened.

**Proof sketch.** Every window shows a part of the input at its base, and every decoder is right
about the first byte of its record, from which `located` takes the position. -/
theorem accuses_of_decode {bytes : Bytes} {options : Options} {fault : ClassFault}
    (h : decode bytes options = .error fault) : fault.cause.Accuses bytes fault.offset :=
  accuses_sectionsReader bytes options fault h

/-- In the code of a body inside a body, an opcode that cannot be widened. -/
theorem accuses_of_decode_nestedBodies :
    decode (nestedBodies [0, 0xC4, 0]) {} = .error ⟨.methods, 84, .unsupportedOpcode 2 0⟩ ∧
    Fault.Accuses (nestedBodies [0, 0xC4, 0]) 84 (.unsupportedOpcode 2 0) := by
  have hfault :
      decode (nestedBodies [0, 0xC4, 0]) {} = .error ⟨.methods, 84, .unsupportedOpcode 2 0⟩ :=
    decode_eq_error_iff.mpr (by decide +kernel)
  exact ⟨hfault, accuses_of_decode hfault⟩

end ClassFile

end ClassFormat
