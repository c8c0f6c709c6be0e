import ClassFormat.Listing.Palette
import Mathlib.Tactic.Lemma

/-!
# Listings without colour

Without colour, a listing is the texts of its pieces in a row, with an end behind each line. So its
lines can be told apart again, if none of them holds the end of a line itself.

## Main definitions

* `ClassFormat.Line.chars` — the characters of a line.
* `ClassFormat.linesOf` — the lines of a text.

## Main results

* `ClassFormat.linesOf_render` — a listing has the lines that it was made of.
* `ClassFormat.render_eq_iff` — listings are the same text exactly if they have the same lines.
-/

namespace ClassFormat

/-- The characters of a line, without its end. -/
def Line.chars (line : Line) : List Char :=
  line.flatMap fun piece => piece.text.toList

/-- The lines of a text in which each line has its end. -/
def linesOf (text : String) : List (List Char) :=
  (text.toList.splitOn '\n').dropLast

/-- A number is written with digits only. -/
lemma not_mem_toString {c : Char} (hc : c.isDigit = false) (number : Nat) :
    c ∉ (toString number).toList := by
  intro hmem
  rw [Nat.toString_eq_repr, Nat.toList_repr] at hmem
  rw [Nat.isDigit_of_mem_toDigits (by decide) (by decide) hmem] at hc
  cases hc

namespace Palette

/-- Without colour, a piece is its text. -/
lemma paint_plain (piece : Piece) : plain.paint piece = piece.text := by
  cases piece with
  | mk role text => cases role <;> rfl

/-- Without colour, a line is its characters and its end. -/
lemma toList_renderLine (line : Line) : (plain.renderLine line).toList = line.chars ++ ['\n'] := by
  have hpaint : plain.paint = Piece.text := funext paint_plain
  rw [renderLine, String.toList_append, String.toList_join, List.flatMap_map, hpaint]
  rfl

end Palette

/-- A listing is its lines, with ends between them and an empty text behind the last end. -/
lemma toList_render (lines : List Line) :
    (Palette.plain.render lines).toList = ['\n'].intercalate (lines.map Line.chars ++ [[]]) := by
  rw [Palette.render, String.toList_join, List.flatMap_map]
  induction lines with
  | nil => rfl
  | cons line lines ih =>
    have hne : lines.map Line.chars ++ [[]] ≠ [] :=
      List.append_ne_nil_of_right_ne_nil _ (List.cons_ne_nil _ _)
    rw [List.flatMap_cons, ih, Palette.toList_renderLine, List.map_cons, List.cons_append,
      List.intercalate_cons_of_ne_nil hne]

/-- A listing has the lines that it was made of, if no line breaks in its middle. -/
theorem linesOf_render {lines : List Line} (h : ∀ line ∈ lines, '\n' ∉ Line.chars line) :
    linesOf (Palette.plain.render lines) = lines.map Line.chars := by
  rw [linesOf, toList_render, List.splitOn_intercalate]
  · exact List.dropLast_concat
  · intro chars hchars
    rcases List.mem_append.mp hchars with hmem | hmem
    · obtain ⟨line, hline, rfl⟩ := List.mem_map.mp hmem
      exact h line hline
    · rw [List.mem_singleton.mp hmem]
      exact List.not_mem_nil
  · exact List.append_ne_nil_of_right_ne_nil _ (List.cons_ne_nil _ _)

/-- Listings are the same text exactly if they have the same lines, if no line breaks in its middle.
-/
theorem render_eq_iff {lines lines' : List Line} (h : ∀ line ∈ lines, '\n' ∉ Line.chars line)
    (h' : ∀ line ∈ lines', '\n' ∉ Line.chars line) :
    Palette.plain.render lines = Palette.plain.render lines' ↔
    lines.map Line.chars = lines'.map Line.chars := by
  constructor
  · intro heq
    rw [← linesOf_render h, heq, linesOf_render h']
  · intro heq
    rw [← String.toList_inj, toList_render, toList_render, heq]

end ClassFormat
