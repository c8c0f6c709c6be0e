import ClassFormat.Proofs.Attribute.Framing

/-!
# How deep attributes are nested

The bytes of the input decide how deep bodies are nested in one another. But each body takes
eighteen bytes before the first attribute inside it: six for its frame, ten for its head, and two
for the count of its attributes. So the nesting comes to an end on every input, after as many levels
as the input has room for.

## Main definitions

* `ClassFormat.Attribute.readerWithin` — an attribute, with a limit on the depth.
* `ClassFormat.Attribute.Encloses` — an attribute somewhere inside a body.
* `ClassFormat.Attribute.IsNest` — bodies inside one another.

## Main results

* `ClassFormat.Attribute.agrees_readerWithin` — a limit of one level for eighteen bytes is never
  reached.
* `ClassFormat.Attribute.fitsIn_readers` — the bodies inside one another in an attribute that was
  read.
* `ClassFormat.ClassFile.nesting_bounded` — both, for attributes and for class files.
-/

namespace ClassFormat

open Decoder hiding word split split_ok
open Record

/-! ## How many bytes a body takes -/

/-- A count takes two bytes. -/
lemma Record.remaining_of_count {start : Cursor} {count : UInt16}
    (h : (word start).result = .ok count) :
    start.remaining = 2 + (word (α := UInt16) start).cursor.remaining :=
  (ensures_word count h).remaining_eq

/-- A table takes two bytes before its first record. -/
lemma Record.ensures_table_room {α : Type} (record : Decoder Fault α) (start : Cursor) :
    Ensures (table record) start fun _ c => c.remaining + 2 ≤ start.remaining := by
  refine ensures_bind fun count hcount values _ => ?_
  have hroom := remaining_of_count hcount
  have hle := Cursor.remaining_le_of_le
    (seq count.toNat (located record) (word (α := UInt16) start).cursor).ahead
  omega

/-- A body takes ten bytes before its attributes. -/
lemma Code.ensures_headReader_room (pool : Pool) (start : Cursor) :
    Ensures (Code.headReader pool) start fun _ c => c.remaining + 10 ≤ start.remaining := by
  unfold Code.headReader
  refine ensures_word.bind fun (maxStack : UInt16) c _ hstack => ?_
  refine ensures_word.bind fun (maxLocals : UInt16) d _ hlocals => ?_
  refine ensures_word.bind fun (codeLength : UInt32) e _ hlength => ?_
  refine ensures_bind_ahead e.le_refl fun window f hf =>
    ensures_bind_ahead hf fun instructions g hg => ?_
  refine (ensures_table_room _ g).bind fun handlers k _ hhandlers => ensures_pure ?_
  have hwords : start.remaining = 2 + (2 + (4 + e.remaining)) := by
    rw [hstack.remaining_eq, hlocals.remaining_eq, hlength.remaining_eq]
    rfl
  have hle := Cursor.remaining_le_of_le hg
  omega

/-- A frame takes six bytes before its payload. -/
lemma Attribute.ensures_frameReader_room (pool : Pool) (start : Cursor) :
    Ensures (frameReader pool) start fun frame c =>
      frame.payload.remaining + 6 ≤ start.remaining ∧
        c.offset = start.offset + (6 + frame.payload.window.length) := by
  refine (RawFrame.ensures_frameReader pool start).imp ?_
  rintro frame c _ ⟨raw, -, hframe, hpasses⟩
  have hremaining := hpasses.remaining_eq
  have hoffset := hpasses.offset_eq
  rw [RawFrame.length_bytes, RawFrame.size, ← raw.length_payload] at hremaining hoffset
  rw [hframe]
  constructor
  · show raw.payload.length + 6 ≤ start.remaining
    omega
  · exact hoffset

/-! ## Decodes with a limited depth -/

/-- Why a decode with a limited depth failed. -/
inductive DepthFault where
  /-- There were more levels than the limit. -/
  | tooDeep
  /-- A fault that was found within the limit. -/
  | found (fault : Fault)

/-- The fault, at the record that begins at `offset` if it knows no other place. -/
def DepthFault.pinnedAt (offset : Nat) : DepthFault → DepthFault
  | tooDeep => tooDeep
  | found fault => found (fault.pinnedAt offset)

/-- A list of attributes, each read by `item`. -/
def Attribute.listReaderWith (item : Decoder DepthFault Attribute) :
    Decoder DepthFault (List Attribute) := do
  let count : UInt16 ← word.mapFault .found
  seq count.toNat fun start => item.mapFault (fun fault => fault.pinnedAt start.position) start

/-- The body of a method whose attributes are read by `item`. -/
def Code.readerWith (pool : Pool) (item : Decoder DepthFault Attribute) :
    Decoder DepthFault Code := do
  let head ← (Code.headReader pool).mapFault .found
  let attributes ← Attribute.listReaderWith item
  (Code.finish head attributes).mapFault .found

/-- An attribute, with at most `depth` attributes inside one another, itself among them. -/
def Attribute.readerWithin (pool : Pool) : Nat → Decoder DepthFault Attribute
  | 0 => fail .tooDeep
  | depth + 1 => do
    let frame ← (frameReader pool).mapFault .found
    if isCodeName frame.name then
      let (body, stop) ← inside frame.payload (Code.readerWith pool (readerWithin pool depth))
      (finishCode frame body stop).mapFault .found
    else
      return .raw frame.nameIndex frame.name frame.payload.rest

namespace Decoder

variable {α β : Type} {start : Cursor}

/-- From `start`, the decoder with a limit ends as the one without, and never finds that it is too
deep. -/
def Agrees (limited : Decoder DepthFault α) (decoder : Decoder Fault α) (start : Cursor) : Prop :=
  limited start = decoder.mapFault .found start

/-- A decoder that has no limit of its own agrees with itself. -/
lemma agrees_mapFault (decoder : Decoder Fault α) :
    Agrees (decoder.mapFault .found) decoder start :=
  rfl

/-- Giving a value needs no depth. -/
lemma agrees_pure (value : α) : Agrees (pure value) (pure value) start :=
  rfl

/-- Two steps agree if both do, the second one from where the first one stops. -/
lemma Agrees.bind {limited : Decoder DepthFault α} {decoder : Decoder Fault α}
    {next : α → Decoder DepthFault β} {next' : α → Decoder Fault β}
    (h : Agrees limited decoder start)
    (hnext : ∀ value, (decoder start).result = .ok value →
      Agrees (next value) (next' value) (decoder start).cursor) :
    Agrees (limited >>= next) (decoder >>= next') start := by
  show (limited start).andThen next = ((decoder start).andThen next').mapFault .found
  rw [show limited start = (decoder start).mapFault .found from h]
  cases hresult : (decoder start).result with
  | error fault => simp only [Outcome.andThen, Outcome.mapFault, hresult, Except.mapError]
  | ok value =>
    have hvalue :
        next value (decoder start).cursor = (next' value (decoder start).cursor).mapFault .found :=
      hnext value hresult
    simp only [Outcome.andThen, Outcome.mapFault, hresult, Except.mapError, hvalue]

/-- Decoders that agree in a window agree on it from outside. -/
lemma Agrees.inside {limited : Decoder DepthFault α} {decoder : Decoder Fault α} {window : Cursor}
    (h : Agrees limited decoder window) :
    Agrees (inside window limited) (inside window decoder) start := by
  show (limited window).enclosed start = ((decoder window).enclosed start).mapFault .found
  rw [show limited window = (decoder window).mapFault .found from h]
  cases hresult : (decoder window).result with
  | error fault =>
    simp only [Outcome.enclosed, Outcome.mapFault, hresult, Except.mapError, Except.map]
  | ok value => simp only [Outcome.enclosed, Outcome.mapFault, hresult, Except.mapError, Except.map]

/-- Locating faults keeps two decoders in agreement. -/
lemma Agrees.located {limited : Decoder DepthFault α} {decoder : Decoder Fault α}
    (h : Agrees limited decoder start) :
    Agrees (fun c => limited.mapFault (fun fault => fault.pinnedAt c.position) c)
      (located decoder) start := by
  show (limited start).mapFault _ = ((decoder start).mapFault _).mapFault _
  rw [show limited start = (decoder start).mapFault .found from h]
  cases hresult : (decoder start).result with
  | error fault => simp only [Outcome.mapFault, hresult, Except.mapError, DepthFault.pinnedAt]
  | ok value => simp only [Outcome.mapFault, hresult, Except.mapError]

/-- Items that agree wherever they may begin agree one after the other. -/
lemma Agrees.seq {limited : Decoder DepthFault α} {decoder : Decoder Fault α}
    (h : ∀ c, start ≤ c → Agrees limited decoder c) (count : Nat) :
    Agrees (seq count limited) (seq count decoder) start := by
  induction count generalizing start with
  | zero => exact agrees_pure []
  | succ count ih =>
    rw [seq_succ, seq_succ]
    refine (h start start.le_refl).bind fun first _ => ?_
    have hahead := (decoder start).ahead
    exact (ih fun c hc => h c (Cursor.le_trans hahead hc)).bind fun rest _ => agrees_pure _

end Decoder

namespace Attribute

variable {pool : Pool} {start : Cursor} {item : Decoder DepthFault Attribute} {limit : Nat}

/-- Attributes in a list have at least two bytes fewer before them than the list. -/
lemma agrees_listReaderWith
    (hitem : ∀ c, c.remaining < limit → Agrees item (Attribute.reader pool) c)
    (h : start.remaining < limit + 2) : Agrees (listReaderWith item) (listReader pool) start := by
  rw [listReader_eq]
  refine (agrees_mapFault word).bind fun count hcount => Agrees.seq (fun c hc => ?_) count.toNat
  have hroom := remaining_of_count hcount
  have hle := Cursor.remaining_le_of_le hc
  exact (hitem c (by omega)).located

/-- Attributes in a body have at least twelve bytes fewer before them than the body. -/
lemma agrees_codeReaderWith
    (hitem : ∀ c, c.remaining < limit → Agrees item (Attribute.reader pool) c)
    (h : start.remaining < limit + 12) :
    Agrees (Code.readerWith pool item) (Code.reader pool) start := by
  rw [Code.reader_eq]
  refine (agrees_mapFault (Code.headReader pool)).bind fun head hhead => ?_
  have hroom := Code.ensures_headReader_room pool start head hhead
  exact (agrees_listReaderWith hitem (by omega)).bind fun attributes _ => agrees_mapFault _

/-- **One level for eighteen bytes is enough**, and one for what is left of them.

**Proof sketch.** Induction on the limit. An attribute inside a body has at least eighteen bytes
fewer before it than the body has, and with no level left there would have to be fewer than no
bytes. -/
theorem agrees_readerWithin (pool : Pool) (depth : Nat) (start : Cursor)
    (h : start.remaining < 18 * depth) :
    Agrees (readerWithin pool depth) (Attribute.reader pool) start := by
  induction depth generalizing start with
  | zero => omega
  | succ depth ih =>
    rw [Attribute.reader_eq]
    refine (agrees_mapFault (frameReader pool)).bind fun frame hframe => ?_
    have hroom := (ensures_frameReader_room pool start frame hframe).1
    split
    · refine (agrees_codeReaderWith ih (by omega)).inside.bind ?_
      rintro ⟨body, stop⟩ _
      exact agrees_mapFault _
    · exact agrees_pure _

/-! ## The attributes of a body -/

/-- A body has just the attributes of the list behind its head, or else the fault in that list. -/
lemma map_result_codeReader {head : CodeHead}
    (hhead : (Code.headReader pool start).result = .ok head) :
    CodeOf.attributes <$> (Code.reader pool start).result =
      (listReader pool (Code.headReader pool start).cursor).result := by
  rw [Code.reader_eq, result_bind_of_ok hhead]
  cases hlist : (listReader pool (Code.headReader pool start).cursor).result with
  | error fault =>
    rw [result_bind_of_error hlist]
    rfl
  | ok attributes =>
    rw [result_bind_of_ok hlist]
    rfl

/-- An attribute that is called a body has just the body in its payload, or else the fault in it. -/
lemma map_result_reader {frame : Frame} (hframe : (frameReader pool start).result = .ok frame)
    (hcode : isCodeName frame.name) :
    code? <$> (Attribute.reader pool start).result =
      some <$> (Code.reader pool frame.payload).result := by
  rw [Attribute.reader_eq, result_bind_of_ok hframe, if_pos hcode]
  generalize (frameReader pool start).cursor = c
  have hinside : (inside frame.payload (Code.reader pool) c).result =
      (Code.reader pool frame.payload).result.map (·, (Code.reader pool frame.payload).cursor) :=
    rfl
  cases hbody : (Code.reader pool frame.payload).result with
  | error fault =>
    rw [hbody] at hinside
    rw [result_bind_of_error hinside]
    rfl
  | ok body =>
    rw [hbody] at hinside
    rw [result_bind_of_ok hinside]
    dsimp only [finishCode]
    split <;> rfl

/-- An attribute that is called a body has just the attributes of the list behind the head of the
body. -/
lemma map_result_attributes {frame : Frame} {head : CodeHead}
    (hframe : (frameReader pool start).result = .ok frame) (hcode : isCodeName frame.name)
    (hhead : (Code.headReader pool frame.payload).result = .ok head) :
    (fun attr => attr.code?.map CodeOf.attributes) <$> (Attribute.reader pool start).result =
      some <$> (listReader pool (Code.headReader pool frame.payload).cursor).result := by
  calc (fun attr => attr.code?.map CodeOf.attributes) <$> (Attribute.reader pool start).result
    _ = Option.map CodeOf.attributes <$> code? <$> (Attribute.reader pool start).result :=
        (Functor.map_map _ _ _).symm
    _ = Option.map CodeOf.attributes <$> some <$> (Code.reader pool frame.payload).result := by
        rw [map_result_reader hframe hcode]
    _ = some <$> CodeOf.attributes <$> (Code.reader pool frame.payload).result := by
        rw [Functor.map_map, Functor.map_map]
        rfl
    _ = some <$> (listReader pool (Code.headReader pool frame.payload).cursor).result := by
        rw [map_result_codeReader hhead]

/-! ## Bodies inside one another -/

/-- The body `outer` has `inner` in it, at any depth. -/
def Encloses (outer inner : Attribute) : Prop :=
  ∃ body, outer.code? = some body ∧ ∃ attr ∈ body.attributes, inner.Occurs attr

/-- Bodies of which each one has the next in it. -/
structure IsNest (bodies : List Attribute) : Prop where
  isBody : ∀ attr ∈ bodies, attr.code?.isSome
  chain : bodies.IsChain Encloses

/-- The nest of bodies is in an attribute. -/
def NestedIn (bodies : List Attribute) (attr : Attribute) : Prop :=
  IsNest bodies ∧ ∀ outermost ∈ bodies.head?, outermost.Occurs attr

/-- For each body of a nest in the attribute there are eighteen of `size` bytes. -/
def FitsIn (attr : Attribute) (size : Nat) : Prop :=
  ∀ bodies, NestedIn bodies attr → 18 * bodies.length ≤ size

/-- What fits in some bytes fits in more of them. -/
lemma FitsIn.mono {attr : Attribute} {size size' : Nat} (h : attr.FitsIn size)
    (hle : size ≤ size') : attr.FitsIn size' :=
  fun bodies hbodies => Nat.le_trans (h bodies hbodies) hle

/-- There is no body in an attribute that is kept as it is. -/
lemma fitsIn_raw (nameIndex : Index) (name : String) (data : Bytes) (size : Nat) :
    FitsIn (.raw nameIndex name data) size := by
  rintro (_ | ⟨outermost, inner⟩) ⟨hnest, hoccurs⟩
  · exact Nat.zero_le _
  · cases hoccurs outermost rfl
    cases hnest.isBody _ List.mem_cons_self

/-- The nests in a body are those in its attributes, with the body around them or without it. -/
lemma fitsIn_code {nameIndex : Index} {name : String} {body : Code} {size : Nat}
    (h : ∀ attr ∈ body.attributes, attr.FitsIn size) :
    FitsIn (.code nameIndex name body) (size + 18) := by
  rintro (_ | ⟨outermost, inner⟩) ⟨hnest, hoccurs⟩
  · exact Nat.zero_le _
  · cases hoccurs outermost rfl with
    | inBody hmem hinBody =>
      refine ((h _ hmem).mono (Nat.le_add_right size 18)) _ ⟨hnest, ?_⟩
      rintro _ ⟨⟩
      exact hinBody
    | self =>
      have hinner : 18 * inner.length ≤ size := by
        rcases inner with _ | ⟨second, others⟩
        · exact Nat.zero_le _
        · obtain ⟨⟨_, ⟨⟩, attr, hattr, hsecond⟩, hchain⟩ := List.isChain_cons_cons.mp hnest.chain
          refine h attr hattr _ ⟨⟨(List.forall_mem_cons.mp hnest.isBody).2, hchain⟩, ?_⟩
          rintro _ ⟨⟩
          exact hsecond
      rw [List.length_cons]
      omega

/-- **There are eighteen bytes for each body of a nest** in an attribute that was read; a list has
two bytes more, and a body has twelve bytes more than the nests in its attributes.

**Proof sketch.** Induction along the nesting. What an attribute of a list has before it is less by
two bytes than what the list has; the head of the body around the list takes ten more, and the frame
around the body six. -/
theorem fitsIn_readers (pool : Pool) (start : Cursor) :
    Ensures (Attribute.reader pool) start (fun attr _ => attr.FitsIn start.remaining) ∧
    Ensures (Code.reader pool) start (fun body _ =>
      ∃ size, size + 12 ≤ start.remaining ∧ ∀ attr ∈ body.attributes, attr.FitsIn size) ∧
    Ensures (Attribute.listReader pool) start fun attributes _ =>
      ∃ size, size + 2 ≤ start.remaining ∧ ∀ attr ∈ attributes, attr.FitsIn size := by
  apply readers_induction pool _ _ _ start
  · intro start hpayload
    rw [Attribute.reader_eq]
    refine ensures_bind fun frame hframe => ?_
    have hroom := (ensures_frameReader_room pool start frame hframe).1
    split
    · refine (ensures_inside (hpayload frame hframe)).bind ?_
      rintro ⟨body, stop⟩ c _ ⟨size, hsize, hattributes⟩
      refine (ensures_finishCode frame body stop c).imp ?_
      rintro _ _ _ rfl
      exact (fitsIn_code hattributes).mono (by omega)
    · exact ensures_pure (fitsIn_raw _ _ _ _)
  · intro start hlist
    rw [Code.reader_eq]
    refine ensures_bind fun head hhead => ?_
    have hroom := Code.ensures_headReader_room pool start head hhead
    refine (hlist head hhead).bind ?_
    rintro attributes c _ ⟨size, hsize, hattributes⟩
    exact ensures_bind fun _ _ => ensures_pure ⟨size, by omega, hattributes⟩
  · intro start hitem
    rw [Attribute.listReader_eq]
    refine ensures_bind fun count hcount => ?_
    have hroom := remaining_of_count hcount
    refine (Ensures.seq (fun c hc => ?_) count.toNat).imp fun attributes _ _ hattributes =>
      ⟨(word (α := UInt16) start).cursor.remaining, by omega, hattributes⟩
    refine (ensures_located (hitem count hcount c hc)).imp fun attr _ _ hattr => ?_
    exact hattr.mono (Cursor.remaining_le_of_le hc)

/-- Every attribute of a list fits in the bytes that were left at any place before it. -/
lemma fitsIn_listReader (pool : Pool) {outer start : Cursor} (hle : outer ≤ start) :
    Ensures (Attribute.listReader pool) start fun attributes _ =>
      ∀ attr ∈ attributes, attr.FitsIn outer.remaining := by
  refine (fitsIn_readers pool start).2.2.imp ?_
  rintro attributes _ _ ⟨size, hsize, hattributes⟩ attr hattr
  have := Cursor.remaining_le_of_le hle
  exact (hattributes attr hattr).mono (by omega)

end Attribute

/-! ## Members and class files -/

/-- Every attribute of a field fits in the bytes that were left at any place before it. -/
lemma Field.fitsIn_reader (pool : Pool) (options : Options) {outer start : Cursor}
    (hle : outer ≤ start) :
    Ensures (Field.reader pool options) start fun field _ =>
      ∀ attr ∈ field.attributes, attr.FitsIn outer.remaining := by
  unfold Field.reader
  refine ensures_bind_ahead hle fun access c hc => ensures_bind_ahead hc fun nameIndex c hc => ?_
  refine ensures_bind_ahead hc fun name c hc => ensures_bind_ahead hc fun index c hc => ?_
  refine ensures_bind_ahead hc fun descriptor c hc => ensures_bind_ahead hc fun type c hc => ?_
  split
  · exact ensures_fail _
  · exact (Attribute.fitsIn_listReader pool hc).bind fun attributes c _ hattributes =>
      ensures_pure hattributes

/-- Every attribute of a method fits in the bytes that were left at any place before it. -/
lemma Method.fitsIn_reader (pool : Pool) (options : Options) {outer start : Cursor}
    (hle : outer ≤ start) :
    Ensures (Method.reader pool options) start fun method _ =>
      ∀ attr ∈ method.attributes, attr.FitsIn outer.remaining := by
  unfold Method.reader
  refine ensures_bind_ahead hle fun access c hc => ensures_bind_ahead hc fun nameIndex c hc => ?_
  refine ensures_bind_ahead hc fun name c hc => ensures_bind_ahead hc fun index c hc => ?_
  refine ensures_bind_ahead hc fun descriptor c hc => ensures_bind_ahead hc fun signature c hc => ?_
  exact (Attribute.fitsIn_listReader pool hc).bind fun attributes c _ hattributes =>
    ensures_pure hattributes

namespace ClassFile

/-- The nests of a class file have room in the bytes behind the cursor that its sections were read
from. -/
theorem fitsIn_sectionsReader (raw : Bytes) (options : Options) (start : Cursor) :
    Ensures (sectionsReader raw options) start fun file _ =>
      ∀ attr, file.Carries attr → attr.FitsIn start.remaining := by
  unfold sectionsReader
  refine ensures_bind_ahead start.le_refl fun version c hc =>
    ensures_bind_ahead hc fun pool c hc => ?_
  refine ensures_bind_ahead hc fun access c hc => ensures_bind_ahead hc ?_
  rintro ⟨name, superName⟩ c hc
  refine ensures_bind_ahead hc fun interfaces c hc => ?_
  refine (ensures_inSection _ (ensures_table_ahead fun d hd =>
    Field.fitsIn_reader pool options (Cursor.le_trans hc hd))).bind fun fields d hd hfields => ?_
  have hstart := Cursor.le_trans hc hd
  refine (ensures_inSection _ (ensures_table_ahead fun e he =>
    Method.fitsIn_reader pool options
      (Cursor.le_trans hstart he))).bind fun methods e he hmethods => ?_
  refine (ensures_inSection _
    (Attribute.fitsIn_listReader pool (Cursor.le_trans hstart he))).bind ?_
  intro attributes f _ hattributes file hfile
  rw [(finish_apply _ f).1] at hfile
  cases hfile
  rintro attr (hattr | ⟨field, hfield, hattr⟩ | ⟨method, hmethod, hattr⟩)
  · exact hattributes attr hattr
  · exact hfields field hfield attr hattr
  · exact hmethods method hmethod attr hattr

/-- **The nesting of attributes comes to an end on every input.** Attributes, bodies and lists of
attributes are decoded in the same way, faults included, with one level for each eighteen bytes; the
attributes of a body are decoded in a window that is smaller than the attribute with the body, by
its frame; and a class file with bodies nested in one another has eighteen bytes for each of them.
-/
theorem nesting_bounded :
    (∀ (pool : Pool) (depth : Nat) (start : Cursor),
      (start.remaining < 18 * depth →
        Agrees (Attribute.readerWithin pool depth) (Attribute.reader pool) start) ∧
      (start.remaining < 18 * depth + 12 →
        Agrees (Code.readerWith pool (Attribute.readerWithin pool depth))
          (Code.reader pool) start) ∧
      (start.remaining < 18 * depth + 2 →
        Agrees (Attribute.listReaderWith (Attribute.readerWithin pool depth))
          (Attribute.listReader pool) start)) ∧
    (∀ (pool : Pool) (start inner : Cursor) (frame : Frame) (head : CodeHead),
      (Attribute.frameReader pool start).result = .ok frame → Attribute.isCodeName frame.name →
      (Code.headReader pool frame.payload).result = .ok head →
      (Code.headReader pool frame.payload).cursor = inner →
      (fun attr => attr.code?.map CodeOf.attributes) <$> (Attribute.reader pool start).result =
          some <$> (Attribute.listReader pool inner).result ∧
        start.offset + (6 + inner.window.length) = (Attribute.reader pool start).cursor.offset ∧
        inner.remaining + 16 ≤ start.remaining) ∧
    ∀ (bytes : Bytes) (options : Options) (file : ClassFile) (outer : Attribute)
      (bodies : List Attribute),
      decode bytes options = .ok file → file.Carries outer → Attribute.NestedIn bodies outer →
      18 * bodies.length ≤ bytes.length := by
  refine ⟨fun pool depth start => ⟨?_, ?_, ?_⟩, ?_, ?_⟩
  · exact Attribute.agrees_readerWithin pool depth start
  · exact Attribute.agrees_codeReaderWith (Attribute.agrees_readerWithin pool depth)
  · exact Attribute.agrees_listReaderWith (Attribute.agrees_readerWithin pool depth)
  · rintro pool start _ frame head hframe hcode hhead rfl
    obtain ⟨hroom, hoffset⟩ := Attribute.ensures_frameReader_room pool start frame hframe
    have hhead_room := Code.ensures_headReader_room pool _ head hhead
    refine ⟨?_, ?_, by omega⟩
    · exact Attribute.map_result_attributes hframe hcode hhead
    · rw [Attribute.reader_eq_bind, cursor_bind_of_ok hframe,
        (Attribute.still_ofFrame pool frame).cursor,
        hoffset, (Code.headReader pool frame.payload).ahead.1]
  · intro bytes options file outer bodies hdecode hcarries hnested
    exact fitsIn_sectionsReader bytes options
      (.ofBytes bytes) file hdecode outer hcarries bodies hnested

/-- Whether a method has a body with a body in it. -/
def hasBodyInBody (file : ClassFile) : Bool :=
  file.methods.any fun method => method.attributes.any fun outer =>
    outer.code?.any fun body => body.attributes.any fun inner => inner.code?.isSome

/-- A body with a body in it is a nest of two. -/
lemma exists_nestedIn_of_hasBodyInBody {file : ClassFile} (h : file.hasBodyInBody) :
    ∃ outer inner, file.Carries outer ∧ Attribute.NestedIn [outer, inner] outer := by
  simp only [hasBodyInBody, List.any_eq_true, Option.any_eq_true] at h
  obtain ⟨method, hmethod, outer, houter, body, hbody, inner, hinner, hinnerBody⟩ := h
  refine ⟨outer, inner, .inr (.inr ⟨method, hmethod, houter⟩), ⟨?_, ?_⟩, ?_⟩
  · simp [hbody, hinnerBody]
  · exact .cons_cons ⟨body, hbody, inner, hinner, .self inner⟩ (.singleton inner)
  · rintro _ ⟨⟩
    exact .self outer

/-- An attribute with a limit of two levels, the window of its own attributes, and a class file with
a body inside a body. -/
theorem nesting_bounded_nestedBodies :
    Agrees (Attribute.readerWithin Attribute.twoNames 2) (Attribute.reader Attribute.twoNames)
      (.ofBytes Attribute.bodyWithTrailing.bytes) ∧
    (∃ inner : Cursor,
      (Code.headReader Attribute.twoNames (Attribute.bodyWithTrailing.window 0)).cursor = inner ∧
      0 + (6 + inner.window.length) =
        (Attribute.reader Attribute.twoNames
          (.ofBytes Attribute.bodyWithTrailing.bytes)).cursor.offset) ∧
    ∃ file outer inner, decode (nestedBodies [0, 0, 0xB1]) {} = .ok file ∧ file.Carries outer ∧
      Attribute.NestedIn [outer, inner] outer ∧ 18 * 2 ≤ (nestedBodies [0, 0, 0xB1]).length := by
  obtain ⟨hagrees, hwindow, hnests⟩ := nesting_bounded
  have hruns :
      (Code.headReader Attribute.twoNames (Attribute.bodyWithTrailing.window 0)).result.isOk ∧
      (decode (nestedBodies [0, 0, 0xB1]) {}).toOption.any hasBodyInBody := by
    decide +kernel
  refine ⟨?_, ⟨_, rfl, ?_⟩, ?_⟩
  · exact (hagrees Attribute.twoNames 2 _).1 (by decide)
  · obtain ⟨head, hhead⟩ := Attribute.exists_of_isOk hruns.1
    have hframe : Reads (Attribute.frameReader Attribute.twoNames)
        (.ofBytes Attribute.bodyWithTrailing.bytes)
        Attribute.bodyWithTrailing.bytes ⟨2, "cODE", Attribute.bodyWithTrailing.window 0⟩ :=
      Attribute.bodyWithTrailing.reads_frameReader rfl
    exact (hwindow _ _ _ _ head (hframe List.prefix_rfl).1 (by decide) hhead rfl).2.1
  · cases hfile : decode (nestedBodies [0, 0, 0xB1]) {} with
    | error fault =>
      rw [hfile] at hruns
      cases hruns.2
    | ok file =>
      rw [hfile] at hruns
      obtain ⟨outer, inner, hcarries, hnested⟩ := exists_nestedIn_of_hasBodyInBody hruns.2
      exact ⟨file, outer, inner, rfl, hcarries, hnested,
        hnests _ _ file outer _ hfile hcarries hnested⟩

end ClassFile

end ClassFormat
