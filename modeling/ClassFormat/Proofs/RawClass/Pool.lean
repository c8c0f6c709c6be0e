import ClassFormat.Pool.Reader
import ClassFormat.Proofs.RawClass.Basic
import ClassFormat.Proofs.Text.RoundTrip
import Mathlib.Tactic.Set

/-!
# Reading a stored pool

Constants follow one another without gaps, and a wide one fills a second slot without any bytes of
its own. So the slots of a pool are those of its constants in a row, and the pool is read back from
its bytes.

## Main results

* `ClassFormat.Constant.reads_reader` — a constant is read back from its bytes.
* `ClassFormat.Pool.reads_growOnto` — so are constants in a row, each with its slots.
* `ClassFormat.Pool.reads_reader` — a pool is read back from its bytes.
-/

namespace ClassFormat

open Decoder hiding word split
open Record

namespace Constant

variable {start : Cursor}

/-- The text that fills a window is read back. -/
lemma result_textReader {text : String} (h : start.rest = Modified.encode text) :
    (textReader start).result = .ok text := by
  have htext := Modified.text_decode_encode start.position text
  unfold textReader
  rw [h]
  split
  · next reading hreading =>
    rw [hreading] at htext
    cases htext
    rfl
  · next fault hfault =>
    rw [hfault] at htext
    cases htext

/-- Whether a constant is a text. -/
def IsText : Constant → Prop
  | utf8 _ => True
  | _ => False

/-- The content of any constant but a text is read back. -/
lemma reads_contentReader (index : Index) {constant : Constant} (h : ¬constant.IsText) :
    Reads (contentReader index constant.kind) start constant.content constant := by
  cases constant with
  | utf8 text => exact absurd trivial h
  | integer value | float value | long value | double value | label kind value =>
    exact (reads_word value).map _
  | member kind first second | nameAndType first second | dynamic kind first second =>
    exact (reads_word first).bind ((reads_word second).map _)
  | methodHandle kind reference =>
    refine (reads_byte kind.code).bind ?_
    rw [HandleKind.ofCode?_eq_some_iff.mpr rfl]
    exact (reads_word reference).map _

/-- The length of a constant that is no text is known from its kind. -/
lemma reads_lengthReader {constant : Constant} (h : ¬constant.IsText) :
    Reads (lengthReader constant.kind) start [] constant.content.length := by
  have hlength : constant.kind.contentLength? = some constant.content.length := by
    cases constant with
    | utf8 text => exact absurd trivial h
    | _ => rfl
  unfold lengthReader
  rw [hlength]
  exact reads_pure _

/-- A text begins with its length. -/
lemma reads_lengthReader_of_text {text : Bytes} (h : text.length < UInt16.size) :
    Reads (lengthReader .utf8) start (Word.toBytes (UInt16.ofNat text.length)) text.length := by
  have hword : Reads (lengthReader .utf8) start (Word.toBytes (UInt16.ofNat text.length))
      (UInt16.ofNat text.length).toNat := (reads_word _).map UInt16.toNat
  rwa [UInt16.toNat_ofNat_of_lt' h] at hword

/-- What was found in the window of a constant is the constant. -/
lemma reads_content (index : Index) {kind : Kind} {constant : Constant} {content : Bytes}
    (h : ∀ window : Cursor, window.rest = content →
      (contentReader index kind window).result = .ok constant) :
    Reads (do
      let window ← split content.length
      let (constant, _) ← inside window (contentReader index kind)
      return constant) start content constant := by
  refine (reads_window rfl fun window c hwindow _ => ?_).of_eq (List.append_nil content)
  exact (reads_inside (h window hwindow)).bind_of_nil (reads_pure constant)

/-- A constant is read back from its bytes, in whatever slot.

**Proof sketch.** The tag announces the kind. A text begins with its length and is then read as a
whole; of all others the kind decides the length, and their content is a few words. -/
theorem reads_reader (index : Index) {constant : Constant} (h : constant.WellFormed) :
    Reads (Constant.reader index) start constant.bytes constant := by
  unfold Constant.reader
  refine (reads_byte constant.kind.tag).bind ?_
  rw [Kind.ofTag?_eq_some_iff.mpr rfl]
  by_cases htext : constant.IsText
  · cases constant with
    | utf8 text =>
      refine (reads_lengthReader_of_text h).bind (reads_content index fun window hwindow => ?_)
      exact result_bind_of_ok (result_textReader hwindow)
    | _ => exact htext.elim
  · refine (reads_lengthReader htext).bind_of_nil (reads_content index fun window hwindow => ?_)
    exact (reads_contentReader index htext (by rw [hwindow])).1

end Constant

/-! ## Slots -/

namespace Pool

variable {start : Cursor}

/-- Slots end in the one that was added last. -/
lemma endsWide_push (slots : Array Slot) (slot : Slot) :
    endsWide (slots.push slot) = slot.isWide := by
  simp [endsWide]

/-- Behind a slot that takes no second one, a constant is read. -/
lemma reads_slotReader {slots : Array Slot} (hslots : endsWide slots = false) {constant : Constant}
    (h : constant.WellFormed) :
    Reads (slotReader slots) start constant.bytes (.entry constant) := by
  unfold slotReader
  rw [if_neg (by simp [hslots])]
  refine ((reads_located (Constant.reads_reader _ h)).bind ?_).of_eq (List.append_nil _)
  exact (reads_note _).bind_of_nil (reads_pure _)

/-- Behind a wide constant, its second slot is filled without reading. -/
lemma reads_slotReader_of_endsWide {slots : Array Slot} (hslots : endsWide slots = true) :
    Reads (slotReader slots) start [] .upperHalf := by
  unfold slotReader
  rw [if_pos hslots]
  exact reads_pure _

/-- Behind all slots of a constant, the slots are complete. -/
lemma endsWide_append_slots (slots : Array Slot) (constant : Constant) :
    endsWide (slots ++ constant.slots) = false := by
  unfold Constant.slots
  by_cases hwide : constant.isWide
  · rw [if_pos hwide]
    exact endsWide_push _ _
  · rw [if_neg hwide]
    exact (endsWide_push _ _).trans (Bool.eq_false_iff.mpr hwide)

/-- The slots of the first constant come before those of the others. -/
lemma append_flatMap_cons (slots : Array Slot) (constant : Constant) (constants : List Constant) :
    slots ++ (constant :: constants).flatMap Constant.slots =
      slots ++ constant.slots ++ constants.flatMap Constant.slots := by
  apply Array.toList_inj.mp
  simp

/-- The slots of whole constants never end in the middle of one. -/
lemma endsWide_append_flatMap {slots : Array Slot} (hslots : endsWide slots = false)
    (constants : List Constant) : endsWide (slots ++ constants.flatMap Constant.slots) = false := by
  induction constants generalizing slots with
  | nil => exact hslots
  | cons constant constants ih =>
    rw [append_flatMap_cons]
    exact ih (endsWide_append_slots slots constant)

/-- The slots of one constant are read with its bytes, behind slots that are complete. -/
lemma reads_growOnto_slots {constant : Constant} (h : constant.WellFormed)
    {slots items : Array Slot} (hslots : endsWide slots = false) {count : Nat} {bytes : Bytes}
    (hnext : ∀ c, Reads (growOnto slotReader count (slots ++ constant.slots)) c bytes items) :
    Reads (growOnto slotReader (constant.slots.length + count) slots) start
      (constant.bytes ++ bytes)
      items := by
  have hentry : Reads (slotReader slots) start constant.bytes (.entry constant) :=
    reads_slotReader hslots h
  unfold Constant.slots at hnext ⊢
  by_cases hwide : constant.isWide
  · have hends : endsWide (slots.push (.entry constant)) = true := (endsWide_push _ _).trans hwide
    rw [if_pos hwide] at hnext ⊢
    rw [List.length_cons, List.length_singleton, Nat.add_comm, growOnto]
    refine hentry.bind ?_
    rw [growOnto]
    exact (reads_slotReader_of_endsWide hends).bind_of_nil (hnext _)
  · rw [if_neg hwide] at hnext ⊢
    rw [List.length_singleton, Nat.add_comm, growOnto]
    exact hentry.bind (hnext _)

/-- Constants in a row are read with their slots, behind slots that are complete.

**Proof sketch.** Induction on the constants. One that is not wide is one step; a wide one is two,
of which the second one reads nothing. Either way the slots are complete again. -/
theorem reads_growOnto {constants : List Constant} (h : ∀ constant ∈ constants, constant.WellFormed)
    {slots : Array Slot} (hslots : endsWide slots = false) :
    Reads (growOnto slotReader (constants.flatMap Constant.slots).length slots) start
        (constants.flatMap Constant.bytes) (slots ++ constants.flatMap Constant.slots) := by
  induction constants generalizing slots start with
  | nil => exact reads_pure slots
  | cons constant constants ih =>
    rw [append_flatMap_cons, List.flatMap_cons, List.flatMap_cons, List.length_append]
    refine reads_growOnto_slots (h constant List.mem_cons_self) hslots fun c => ?_
    exact ih (fun other hother => h other (List.mem_cons_of_mem _ hother))
      (endsWide_append_slots slots constant)

/-- A pool is read back from its bytes. -/
theorem reads_reader {constants : List Constant}
    (hcount : (constants.flatMap Constant.slots).length + 1 < UInt16.size)
    (h : ∀ constant ∈ constants, constant.WellFormed) :
    Reads Pool.reader start (bytesOf constants) (ofConstants constants) := by
  set count := (constants.flatMap Constant.slots).length
  have hdeclared : (UInt16.ofNat (count + 1)).toNat = count + 1 := UInt16.toNat_ofNat_of_lt' hcount
  have hword : Reads word start (Word.toBytes (UInt16.ofNat (count + 1)))
      (UInt16.ofNat (count + 1)) :=
    reads_word _
  have hempty : (#[] : Array Slot) ++ constants.flatMap Constant.slots =
      (constants.flatMap Constant.slots).toArray := by simp
  have hgrow : Reads (grow count slotReader) (word (α := UInt16) start).cursor
      (constants.flatMap Constant.bytes) (constants.flatMap Constant.slots).toArray := by
    rw [grow_eq_growOnto, ← hempty]
    exact reads_growOnto h rfl
  intro hbytes
  -- the bytes of the pool lie between the two positions that are compared
  have hlength : (grow count slotReader (word (α := UInt16) start).cursor).cursor.position -
      start.position = (bytesOf constants).length := by
    have hboth : Reads (word (α := UInt16) >>= fun _ => grow count slotReader) start
        (bytesOf constants) (constants.flatMap Constant.slots).toArray := hword.bind hgrow
    have hposition := hboth.position_eq hbytes
    rw [cursor_bind_of_ok (hword ((List.prefix_append _ _).trans hbytes)).1] at hposition
    omega
  revert hbytes
  unfold Pool.reader
  refine Reads.bind_of_nil (fun _ => ⟨rfl, rfl⟩) (hword.bind ?_)
  have hnonzero : UInt16.ofNat (count + 1) ≠ 0 := by
    intro hzero
    rw [hzero] at hdeclared
    cases hdeclared
  rw [if_neg hnonzero, hdeclared, Nat.add_sub_cancel]
  refine (hgrow.bind ?_).of_eq (List.append_nil _)
  have hends : endsWide (constants.flatMap Constant.slots).toArray = false := by
    rw [← hempty]
    exact endsWide_append_flatMap rfl constants
  rw [hends, if_neg Bool.false_ne_true]
  refine Reads.bind_of_nil (fun _ => ⟨rfl, rfl⟩) ((reads_note _).bind_of_nil ?_)
  rw [hlength]
  exact reads_pure _

end Pool

end ClassFormat
