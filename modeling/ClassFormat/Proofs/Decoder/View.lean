import ClassFormat.Proofs.Decoder.Steps
import Mathlib.Data.List.Infix

/-!
# What windows show of the input

However deeply windows are nested, each one shows a part of the same input, at the position where
its base says. So what a decoder finds in a window stands in the input at the position that it
computes.

## Main definitions

* `ClassFormat.StandsAt` — bytes that stand in the input from a position on.
* `ClassFormat.Cursor.Views` — a cursor in a window of the input.

## Main results

* `ClassFormat.Cursor.Views.mono`, `ClassFormat.Cursor.Views.inner` — moving on and opening a window
  lead to windows of the input.
* `ClassFormat.Record.standsAt_of_word` — a word that was read stands at the cursor's position.
-/

namespace ClassFormat

variable {input : Bytes} {offset : Nat}

/-- The bytes stand in the input from the position `offset` on. -/
def StandsAt (input : Bytes) (offset : Nat) (bytes : Bytes) : Prop :=
  bytes <+: input.drop offset

/-- Whether bytes stand at an offset can be looked up. -/
instance (input : Bytes) (offset : Nat) (bytes : Bytes) : Decidable (StandsAt input offset bytes) :=
  inferInstanceAs (Decidable (_ <+: _))

namespace StandsAt

/-- The first of the bytes stand where all of them do. -/
lemma of_isPrefix {bytes first : Bytes} (h : StandsAt input offset bytes)
    (hfirst : first <+: bytes) : StandsAt input offset first :=
  hfirst.trans h

/-- The later ones of bytes that stand somewhere stand further on. -/
lemma drop {bytes : Bytes} (h : StandsAt input offset bytes) (count : Nat) :
    StandsAt input (offset + count) (bytes.drop count) := by
  show _ <+: input.drop (offset + count)
  rw [← List.drop_drop]
  exact List.IsPrefix.drop h count

/-- Each of the bytes stands at its place. -/
lemma byte {bytes rest : Bytes} {byte : UInt8} (h : StandsAt input offset bytes) (count : Nat)
    (hdrop : bytes.drop count = byte :: rest) : StandsAt input (offset + count) [byte] :=
  (h.drop count).of_isPrefix ⟨rest, hdrop.symm⟩

/-- Bytes that stand behind others stand together with them. -/
lemma append {first second : Bytes} (hfirst : StandsAt input offset first)
    (hsecond : StandsAt input (offset + first.length) second) :
    StandsAt input offset (first ++ second) := by
  obtain ⟨rest, hrest⟩ := hfirst
  have hdrop : input.drop (offset + first.length) = rest := by
    rw [← List.drop_drop, ← hrest, List.drop_left]
  unfold StandsAt at hsecond ⊢
  rw [hdrop] at hsecond
  rw [← hrest]
  exact (List.prefix_append_right_inj first).mpr hsecond

end StandsAt

namespace Cursor

/-- The window of the cursor is a part of the input. -/
def Views (c : Cursor) (input : Bytes) : Prop :=
  StandsAt input c.base c.window

/-- A whole input is a window on itself. -/
lemma views_ofBytes (input : Bytes) : (ofBytes input).Views input :=
  List.prefix_rfl

namespace Views

variable {c d : Cursor}

/-- A cursor further on in a window still looks at the same input. -/
lemma mono (h : c.Views input) (hle : c ≤ d) : d.Views input := by
  unfold Views
  rw [hle.1, hle.2.1]
  exact h

/-- The unread bytes stand at the cursor's position. -/
lemma rest (h : c.Views input) : StandsAt input c.position c.rest := by
  rw [c.rest_eq]
  exact StandsAt.drop h c.offset

/-- The window of the next bytes is a window of the input again. -/
lemma inner (h : c.Views input) (count : Nat) : (c.inner count).Views input :=
  h.rest.of_isPrefix (List.take_prefix count c.rest)

end Views

/-- A word that was looked at stands at its offset in the window. -/
lemma isPrefix_of_wordAt {α : Type} [Word α] {c : Cursor} {value : α}
    (hword : c.wordAt offset = .ok value) : Word.toBytes value <+: c.window.drop offset := by
  unfold wordAt bytesAt at hword
  dsimp only at hword
  rw [bytesFrom_eq_drop] at hword
  split at hword
  · next hlength =>
    cases hword
    rw [Word.toBytes_ofBytes hlength]
    exact List.take_prefix _ _
  · cases hword

/-- A word that is found at an offset of a window stands in the input behind the window's base. -/
lemma Views.standsAt_of_wordAt {α : Type} [Word α] {c : Cursor} {value : α} (h : c.Views input)
    (hword : c.wordAt offset = .ok value) : StandsAt input (c.base + offset) (Word.toBytes value) :=
  (StandsAt.drop h offset).of_isPrefix (isPrefix_of_wordAt hword)

end Cursor

namespace Record

open Decoder hiding word split

variable {α : Type} {start : Cursor}

/-- A word that was read stands at the front of the unread bytes, and the cursor moves behind it. -/
lemma word_ok [Word α] {value : α} (h : (word start).result = .ok value) :
    Word.toBytes value <+: start.rest ∧
      (word (α := α) start).cursor.position = start.position + Word.size α := by
  have hword : (Decoder.word start).result = .ok value := mapFault_ok_iff.mp h
  by_cases hle : Word.size α ≤ start.remaining
  · rw [word_apply_of_le hle] at hword
    cases hword
    constructor
    · rw [Word.toBytes_ofBytes (by rw [List.length_take]; exact Nat.min_eq_left hle)]
      exact List.take_prefix _ _
    · show ((Decoder.word : Decoder ReadFault α) start).cursor.position = _
      rw [word_apply_of_le hle]
      exact (Nat.add_assoc _ _ _).symm
  · rw [word_apply_of_lt (Nat.lt_of_not_le hle)] at hword
    cases hword

/-- A word that is read stands in the input at the position where it was read. -/
lemma standsAt_of_word [Word α] {value : α} (hviews : start.Views input)
    (h : (word start).result = .ok value) : StandsAt input start.position (Word.toBytes value) :=
  hviews.rest.of_isPrefix (word_ok h).1

/-- A byte that is read stands in the input at the position where it was read. -/
lemma standsAt_of_byte {byte : UInt8} (hviews : start.Views input)
    (h : (word start).result = .ok byte) : StandsAt input start.position [byte] := by
  rw [← Word.toBytes_byte]
  exact standsAt_of_word hviews h

/-- A window that is opened is one of the next bytes. -/
lemma split_ok {count : Nat} {window : Cursor} (h : (split count start).result = .ok window) :
    window = start.inner count :=
  Decoder.split_ok (mapFault_ok_iff.mp h)

end Record

end ClassFormat
