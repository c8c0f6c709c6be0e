import ClassFormat.Proofs.ClassFile.Consistency
import ClassFormat.Proofs.ClassFile.Displacement

/-!
# The frames of attributes

An attribute says in front how many bytes its payload has, and is decoded from these bytes alone. So
nothing that follows an attribute can change it or the fault that is found in it, and nothing that
is found in it can change where the next one begins.

## Main definitions

* `ClassFormat.RawFrame` — the frame of an attribute as it is stored.
* `ClassFormat.RawFrame.Holds` — the attribute that was decoded from a frame.
* `ClassFormat.Decoder.Still` — a decoder that neither moves nor looks at its window.

## Main results

* `ClassFormat.RawFrame.reads_frameReader`, `ClassFormat.RawFrame.ensures_frameReader` — a frame is
  read exactly where it stands.
* `ClassFormat.Attribute.framed` — attributes and lists of attributes keep to their frames.
-/

namespace ClassFormat

open Decoder hiding word split split_ok
open Record

/-! ## Decoders that stay where they are -/

namespace Decoder

variable {ε α β : Type}

/-- A decoder that stays where it is and finds the same from everywhere. -/
structure Still (decoder : Decoder ε α) : Prop where
  cursor : ∀ c, (decoder c).cursor = c
  result : ∀ c d, (decoder c).result = (decoder d).result

/-- A decoder that only gives a value stays where it is. -/
lemma still_pure (value : α) : Still (pure value : Decoder ε α) :=
  ⟨fun _ => rfl, fun _ _ => rfl⟩

/-- A note in the journal does not move the cursor. -/
lemma still_note (event : Event) : Still (note event : Decoder ε Unit) :=
  ⟨fun _ => rfl, fun _ _ => rfl⟩

/-- What is decoded in a window does not depend on the cursor outside. -/
lemma still_inside (window : Cursor) (decoder : Decoder ε α) : Still (inside window decoder) :=
  ⟨fun _ => rfl, fun _ _ => rfl⟩

/-- Two steps stay where they are if both do. -/
lemma Still.bind {first : Decoder ε α} {next : α → Decoder ε β} (hfirst : Still first)
    (hnext : ∀ value, Still (next value)) : Still (first >>= next) := by
  refine ⟨fun c => ?_, fun c d => ?_⟩
  · cases hc : (first c).result with
    | error fault => rw [cursor_bind_of_error hc, hfirst.cursor]
    | ok value => rw [cursor_bind_of_ok hc, (hnext value).cursor, hfirst.cursor]
  · cases hc : (first c).result with
    | error fault => rw [result_bind_of_error hc, result_bind_of_error (hfirst.result d c ▸ hc)]
    | ok value =>
      rw [result_bind_of_ok hc, result_bind_of_ok (hfirst.result d c ▸ hc)]
      exact (hnext value).result _ _

end Decoder

/-! ## Frames as they are stored -/

/-- The frame of an attribute as it is stored: the index of its name, the length of its payload, and
as many bytes. -/
structure RawFrame where
  nameIndex : Index
  length : UInt32
  payload : Bytes
  length_payload : payload.length = length.toNat

namespace RawFrame

/-- The bytes of a frame. -/
def bytes (raw : RawFrame) : Bytes :=
  Word.toBytes raw.nameIndex ++ Word.toBytes raw.length ++ raw.payload

/-- Six bytes and the declared length. -/
def size (raw : RawFrame) : Nat :=
  6 + raw.length.toNat

/-- The sum of the sizes of frames. -/
def totalSize : List RawFrame → Nat
  | [] => 0
  | raw :: raws => raw.size + totalSize raws

/-- The payload of a frame at a position of the input, in a window of its own. -/
def window (raw : RawFrame) (position : Nat) : Cursor where
  window := raw.payload
  base := position + 6
  offset := 0
  rest := raw.payload
  rest_eq := rfl
  offset_le := Nat.zero_le _

/-- A stored frame takes up as many bytes as its size says. -/
@[simp] lemma length_bytes (raw : RawFrame) : raw.bytes.length = raw.size := by
  simp only [bytes, size, List.length_append, Word.length_toBytes, raw.length_payload]
  rfl

/-- Behind the six bytes of name and length stands the payload. -/
lemma drop_bytes (raw : RawFrame) : raw.bytes.drop 6 = raw.payload := by
  have hhead : (Word.toBytes raw.nameIndex ++ Word.toBytes raw.length).length = 6 := by
    rw [List.length_append, Word.length_toBytes, Word.length_toBytes]
    rfl
  rw [bytes, ← hhead, List.drop_left]

/-- Frames one behind the other take up the sum of their sizes. -/
lemma length_flatMap_bytes (raws : List RawFrame) :
    (raws.flatMap bytes).length = totalSize raws := by
  induction raws with
  | nil => rfl
  | cons raw raws ih => rw [List.flatMap_cons, List.length_append, length_bytes, ih, totalSize]

/-- The attribute was decoded from the frame: it has the name of the frame, and if it is kept as it
is, it has all bytes of the payload. -/
structure Holds (pool : Pool) (raw : RawFrame) (attr : Attribute) : Prop where
  nameIndex : attr.nameIndex = raw.nameIndex
  name : pool.utf8 raw.nameIndex = .ok attr.name
  data : ∀ data, attr.data? = some data → data = raw.payload

variable {pool : Pool} {start : Cursor}

/-- The window of a payload is opened six bytes behind the beginning of its frame. -/
lemma inner_eq_window (raw : RawFrame) {c : Cursor} (hpayload : raw.payload <+: c.rest)
    (hposition : c.position = start.position + 6) :
    c.inner raw.length.toNat = raw.window start.position := by
  refine Cursor.ext ?_ hposition rfl
  show c.rest.take _ = raw.payload
  rw [← raw.length_payload]
  exact (List.prefix_iff_eq_take.mp hpayload).symm

/-- A frame that was read stands at the cursor. -/
lemma ensures_frameReader (pool : Pool) (start : Cursor) :
    Ensures (Attribute.frameReader pool) start fun frame c =>
      ∃ raw : RawFrame, pool.utf8 raw.nameIndex = .ok frame.name ∧
        frame = ⟨raw.nameIndex, frame.name, raw.window start.position⟩ ∧
        start.Passes raw.bytes c := by
  unfold Attribute.frameReader
  refine ensures_word.bind fun nameIndex c _ hindex => ?_
  refine (ensures_given _).bind ?_
  rintro name c _ ⟨hname, rfl⟩
  refine ensures_word.bind fun length d _ hlength => ?_
  refine ensures_bind fun payload hpayload => ?_
  have hinner := split_ok hpayload
  obtain ⟨-, hcount, hpasses⟩ := ensures_split _ payload hpayload
  have hhead := hindex.trans hlength
  have hposition : d.position = start.position + 6 := by
    have hbase := hhead.ahead.2.1
    have hoffset : d.offset = start.offset + 6 := hhead.offset_eq
    unfold Cursor.position
    omega
  let raw : RawFrame := ⟨nameIndex, length, payload.rest, hcount⟩
  have hwindow : payload = raw.window start.position := by
    rw [hinner]
    exact raw.inner_eq_window ⟨_, hpasses.rest_eq.symm⟩ hposition
  exact ensures_pure ⟨raw, hname, by rw [← hwindow], hhead.trans hpasses⟩

/-- A frame that stands at the cursor is read, with its payload in a window.

**Proof sketch.** Its words and as many bytes as they declare are read, into some window. The frame
that was read stands at the cursor too and is as long, so it is the same one. -/
lemma reads_frameReader (raw : RawFrame) {name : String}
    (hname : pool.utf8 raw.nameIndex = .ok name) :
    Reads (Attribute.frameReader pool) start raw.bytes
      ⟨raw.nameIndex, name, raw.window start.position⟩ := by
  obtain ⟨payload, hreads⟩ : ∃ payload,
      Reads (Attribute.frameReader pool) start raw.bytes ⟨raw.nameIndex, name, payload⟩ := by
    refine ⟨_, ((reads_word raw.nameIndex).bind ((reads_given hname).bind_of_nil
      ((reads_word raw.length).bind ((reads_split raw.length_payload).map _)))).of_eq ?_⟩
    exact (List.append_assoc _ _ _).symm
  intro hbytes
  obtain ⟨hresult, hoffset⟩ := hreads hbytes
  refine ⟨?_, hoffset⟩
  obtain ⟨other, -, hframe, hpasses⟩ := ensures_frameReader pool start _ hresult
  have hlength : other.bytes.length = raw.bytes.length := by
    have := hpasses.offset_eq
    omega
  have hsame : other.bytes = raw.bytes :=
    (List.prefix_of_prefix_length_le ⟨_, hpasses.rest_eq.symm⟩ hbytes hlength.le).eq_of_length
      hlength
  have hpayload : other.payload = raw.payload := by
    rw [← drop_bytes, hsame, drop_bytes]
  have hwindow : payload = raw.window start.position := by
    rw [(Frame.mk.inj hframe).2.2]
    exact Cursor.ext hpayload rfl rfl
  rw [hresult, hwindow]

end RawFrame

/-! ## Attributes keep to their frames -/

namespace Attribute

variable {pool : Pool} {start : Cursor}

/-- The attribute in a frame: its payload as it is, or decoded as a body. -/
def ofFrame (pool : Pool) (frame : Frame) : Decoder Fault Attribute := do
  if isCodeName frame.name then
    let (body, stop) ← inside frame.payload (Code.reader pool)
    finishCode frame body stop
  else
    return .raw frame.nameIndex frame.name frame.payload.rest

/-- Reading an attribute is reading its frame and then making sense of the payload. -/
lemma reader_eq_bind (pool : Pool) : Attribute.reader pool = frameReader pool >>= ofFrame pool :=
  Attribute.reader_eq pool

/-- A body that has been read is completed without a further move. -/
lemma still_finishCode (frame : Frame) (body : Code) (stop : Cursor) :
    Still (finishCode frame body stop) := by
  unfold finishCode
  split
  · exact still_pure _
  · exact (still_note _).bind fun _ => still_pure _

/-- Behind its frame, an attribute takes nothing more from the outer window. -/
lemma still_ofFrame (pool : Pool) (frame : Frame) : Still (ofFrame pool frame) := by
  unfold ofFrame
  split
  · exact (still_inside _ _).bind fun found => still_finishCode frame found.1 found.2
  · exact still_pure _

/-- What is decoded from a frame has its name, and its payload if that is kept as it is. -/
lemma holds_of_ofFrame {raw : RawFrame} {name : String} {position : Nat} {attr : Attribute}
    {c : Cursor} (hname : pool.utf8 raw.nameIndex = .ok name)
    (h : (ofFrame pool ⟨raw.nameIndex, name, raw.window position⟩ c).result = .ok attr) :
    raw.Holds pool attr := by
  unfold ofFrame at h
  split at h
  · obtain ⟨⟨body, stop⟩, -, hfinish, -⟩ := exists_of_bind_ok h
    rw [ensures_finishCode _ body stop _ attr hfinish]
    exact ⟨rfl, hname, nofun⟩
  · cases h
    refine ⟨rfl, hname, ?_⟩
    rintro _ ⟨⟩
    rfl

/-- An attribute whose frame stands at the cursor is what is decoded from this frame, and ends where
the frame does. -/
lemma reader_of_isPrefix {raw : RawFrame} {name : String}
    (hname : pool.utf8 raw.nameIndex = .ok name) (hframe : raw.bytes <+: start.rest) (c : Cursor) :
    (Attribute.reader pool start).result =
        (ofFrame pool ⟨raw.nameIndex, name, raw.window start.position⟩ c).result ∧
      (Attribute.reader pool start).cursor.offset = start.offset + raw.size := by
  obtain ⟨hresult, hoffset⟩ := raw.reads_frameReader hname hframe
  have hstill := still_ofFrame pool ⟨raw.nameIndex, name, raw.window start.position⟩
  rw [reader_eq_bind, result_bind_of_ok hresult, cursor_bind_of_ok hresult, hstill.cursor, hoffset,
    RawFrame.length_bytes]
  exact ⟨hstill.result _ _, rfl⟩

/-- At the same position, an attribute is the same whatever follows its frame. -/
lemma result_reader_congr {raw : RawFrame} {name : String} {other : Cursor}
    (hname : pool.utf8 raw.nameIndex = .ok name) (hframe : raw.bytes <+: start.rest)
    (hother : raw.bytes <+: other.rest) (hposition : other.position = start.position) :
    (Attribute.reader pool other).result = (Attribute.reader pool start).result := by
  rw [(reader_of_isPrefix hname hother start).1, (reader_of_isPrefix hname hframe start).1,
    hposition]

/-- Further on, an attribute that is read is the same whatever follows its frame. -/
lemma result_reader_displaced {raw : RawFrame} {name : String} {other : Cursor} {shift : Nat}
    (hname : pool.utf8 raw.nameIndex = .ok name) (hframe : raw.bytes <+: start.rest)
    (hother : raw.bytes <+: other.rest) (hposition : other.position = start.position + shift) :
    (Attribute.reader pool other).result =
      (Attribute.reader pool start).result.mapError (Fault.displaced shift) := by
  -- both decodes are compared in windows that hold the frame alone
  have halone : ∀ c : Cursor, raw.bytes <+: c.rest → (c.inner raw.size).rest = raw.bytes := by
    intro c hc
    rw [← raw.length_bytes]
    exact (List.prefix_iff_eq_take.mp hc).symm
  have hwindow : ∀ c : Cursor, raw.bytes <+: c.rest →
      (Attribute.reader pool c).result = (Attribute.reader pool (c.inner raw.size)).result := by
    intro c hc
    exact result_reader_congr hname (halone c hc ▸ List.prefix_rfl) hc rfl
  have hdisplaced : (start.inner raw.size).Displaced shift (other.inner raw.size) :=
    ⟨by rw [halone other hother, halone start hframe], hposition⟩
  rw [hwindow other hother, hwindow start hframe]
  exact ((same_readers pool _).1 shift _ hdisplaced).result_eq

/-- An attribute that is read is the same wherever its frame stands. -/
lemma result_reader_eq_ok {raw : RawFrame} {name : String} {other : Cursor} {attr : Attribute}
    (hname : pool.utf8 raw.nameIndex = .ok name) (hframe : raw.bytes <+: start.rest)
    (hother : raw.bytes <+: other.rest) (hattr : (Attribute.reader pool start).result = .ok attr) :
    (Attribute.reader pool other).result = .ok attr := by
  rcases Nat.le_total start.position other.position with hle | hle
  · rw [result_reader_displaced hname hframe hother (Nat.add_sub_of_le hle).symm, hattr]
    rfl
  · have hback := result_reader_displaced hname hother hframe (Nat.add_sub_of_le hle).symm
    cases hresult : (Attribute.reader pool other).result with
    | ok found =>
      rw [hattr, hresult] at hback
      exact hback.symm
    | error fault =>
      rw [hattr, hresult] at hback
      cases hback

/-- An attribute that was read passes its frame. -/
lemma ensures_frame (pool : Pool) (start : Cursor) :
    Ensures (Attribute.reader pool) start fun attr c =>
      ∃ bytes, (∃ raw : RawFrame, raw.Holds pool attr ∧ raw.bytes = bytes) ∧
        start.Passes bytes c := by
  rw [reader_eq_bind]
  refine (RawFrame.ensures_frameReader pool start).bind ?_
  rintro ⟨nameIndex, name, payload⟩ c _ ⟨raw, hname, hframe, hpasses⟩ attr hattr
  rw [hframe] at hattr
  rw [(still_ofFrame pool _).cursor]
  exact ⟨raw.bytes, ⟨raw, holds_of_ofFrame hname hattr, rfl⟩, hpasses⟩

/-- Blocks of bytes that are frames are the frames of some list. -/
lemma exists_rawFrames {attributes : List Attribute} {blocks : List Bytes}
    (h : List.Forall₂ (fun attr bytes => ∃ raw : RawFrame, raw.Holds pool attr ∧ raw.bytes = bytes)
      attributes blocks) :
    ∃ raws : List RawFrame, List.Forall₂ (RawFrame.Holds pool) raws attributes ∧
      blocks.flatten = raws.flatMap RawFrame.bytes := by
  induction h with
  | nil => exact ⟨[], .nil, rfl⟩
  | cons hfirst _ ih =>
    obtain ⟨raw, hholds, rfl⟩ := hfirst
    obtain ⟨raws, hraws, hflatten⟩ := ih
    exact ⟨raw :: raws, .cons hholds hraws, by rw [List.flatten_cons, hflatten, List.flatMap_cons]⟩

/-- A list of attributes passes their count and their frames. -/
lemma ensures_frames (pool : Pool) (start : Cursor) :
    Ensures (Attribute.listReader pool) start fun attributes c =>
      ∃ raws : List RawFrame, List.Forall₂ (RawFrame.Holds pool) raws attributes ∧
        start.Passes (tableBytes RawFrame.bytes raws) c := by
  rw [Attribute.listReader_eq]
  refine ensures_word.bind fun count c _ hcount => ?_
  refine (Ensures.seq_passes (fun d _ => ensures_located (ensures_frame pool d)) count.toNat).imp ?_
  rintro attributes d _ ⟨hlength, blocks, hblocks, hpasses⟩
  obtain ⟨raws, hraws, hflatten⟩ := exists_rawFrames hblocks
  have hraws_length : UInt16.ofNat raws.length = count := by
    rw [hraws.length_eq, hlength, UInt16.ofNat_toNat]
  refine ⟨raws, hraws, ?_⟩
  rw [tableBytes, hraws_length, ← hflatten]
  exact hcount.trans hpasses

/-- **Attributes keep to their frames.** If a frame stands at the cursor and its name can be
followed, the attribute is the same whatever follows the frame and wherever that is, and so is the
fault at the same position. An attribute that is read ends where its frame does, and one that is not
called a body is always read, with all bytes of the payload and no others. So a list of attributes
takes two bytes for the count, and for each attribute six bytes and the declared length.

**Proof sketch.** The frame is read in the same way wherever it stands, and opens a window on its
payload. The rest of the attribute is decoded in that window, by a decoder that stays where it is
outside. -/
theorem framed (pool : Pool) (start : Cursor) :
    (∀ (raw : RawFrame) (name : String), pool.utf8 raw.nameIndex = .ok name →
      raw.bytes <+: start.rest →
      (∀ other : Cursor, other.position = start.position → raw.bytes <+: other.rest →
        (Attribute.reader pool other).result = (Attribute.reader pool start).result) ∧
      (∀ attr, (Attribute.reader pool start).result = .ok attr →
        (∀ other : Cursor, raw.bytes <+: other.rest →
          (Attribute.reader pool other).result = .ok attr) ∧
        (Attribute.reader pool start).cursor.offset = start.offset + (6 + raw.length.toNat)) ∧
      (isCodeName name = false →
        ∃ attr, (Attribute.reader pool start).result = .ok attr ∧ attr.data? = some raw.payload)) ∧
    ∀ attributes, (Attribute.listReader pool start).result = .ok attributes →
      ∃ raws : List RawFrame, List.Forall₂ (RawFrame.Holds pool) raws attributes ∧
        tableBytes RawFrame.bytes raws <+: start.rest ∧
        (Attribute.listReader pool start).cursor.offset =
          start.offset + (2 + RawFrame.totalSize raws) := by
  constructor
  · intro raw name hname hframe
    refine ⟨fun other hposition hother => ?_,
      fun attr hattr => ⟨fun other hother => ?_, ?_⟩, fun hplain => ?_⟩
    · exact result_reader_congr hname hframe hother hposition
    · exact result_reader_eq_ok hname hframe hother hattr
    · exact (reader_of_isPrefix hname hframe start).2
    · refine ⟨.raw raw.nameIndex name raw.payload, ?_, rfl⟩
      rw [(reader_of_isPrefix hname hframe start).1, ofFrame, hplain]
      rfl
  · intro attributes hattributes
    obtain ⟨raws, hraws, hpasses⟩ := ensures_frames pool start attributes hattributes
    refine ⟨raws, hraws, ⟨_, hpasses.rest_eq.symm⟩, ?_⟩
    rw [hpasses.offset_eq, tableBytes, List.length_append, Word.length_toBytes,
      RawFrame.length_flatMap_bytes]
    rfl

/-- A success has a value. -/
lemma exists_of_isOk {ε α : Type} {found : Except ε α} (h : found.isOk) :
    ∃ value, found = .ok value := by
  cases found with
  | ok value => exact ⟨value, rfl⟩
  | error fault => cases h

/-- A pool with a name of a body and another name. -/
def twoNames : Pool :=
  ⟨#[.entry (.utf8 "SourceFile"), .entry (.utf8 "cODE")], 22⟩

/-- The frame of a body with two bytes behind it. -/
def bodyWithTrailing : RawFrame :=
  ⟨2, 15, [0, 1, 0, 1, 0, 0, 0, 1, 0xB1, 0, 0, 0, 0, 0xAA, 0xBB], rfl⟩

/-- A body with bytes behind it in its payload, alone in a list and before other bytes. -/
theorem framed_bodyWithTrailing :
    twoNames.utf8 2 = .ok "cODE" ∧
    (∃ attr,
      (Attribute.reader twoNames (.ofBytes (bodyWithTrailing.bytes ++ [0x99]))).result = .ok attr ∧
      (Attribute.reader twoNames (.ofBytes bodyWithTrailing.bytes)).result = .ok attr ∧
      (Attribute.reader twoNames (.ofBytes (bodyWithTrailing.bytes ++ [0x99]))).cursor.offset =
        21) ∧
    ∃ attributes raws, (Attribute.listReader twoNames
        (.ofBytes ([0, 1] ++ bodyWithTrailing.bytes ++ [0x99]))).result = .ok attributes ∧
      List.Forall₂ (RawFrame.Holds twoNames) raws attributes ∧
      (Attribute.listReader twoNames
        (.ofBytes ([0, 1] ++ bodyWithTrailing.bytes ++ [0x99]))).cursor.offset =
        2 + RawFrame.totalSize raws := by
  have hname : twoNames.utf8 2 = .ok "cODE" := rfl
  have hok : (Attribute.reader twoNames (.ofBytes (bodyWithTrailing.bytes ++ [0x99]))).result.isOk ∧
      (Attribute.listReader twoNames
        (.ofBytes ([0, 1] ++ bodyWithTrailing.bytes ++ [0x99]))).result.isOk := by
    decide +kernel
  obtain ⟨attr, hattr⟩ := exists_of_isOk hok.1
  obtain ⟨attributes, hattributes⟩ := exists_of_isOk hok.2
  have hframed :=
    (framed twoNames (.ofBytes (bodyWithTrailing.bytes ++ [0x99]))).1 bodyWithTrailing "cODE" hname
    (List.prefix_append _ _)
  obtain ⟨raws, hraws, -, hoffset⟩ := (framed twoNames _).2 attributes hattributes
  refine ⟨hname, ⟨attr, hattr, ?_, (hframed.2.1 attr hattr).2⟩, attributes, raws, hattributes,
    hraws, ?_⟩
  · rw [hframed.1 (.ofBytes bodyWithTrailing.bytes) rfl List.prefix_rfl, hattr]
  · rw [hoffset]
    exact Nat.zero_add _

end Attribute

end ClassFormat
