import ClassFormat.Bytes.BigEndian

/-!
# Cursors

A cursor stands in a window of the input. The window knows where it begins in the whole input, so
that a failing read can name the absolute position it was about, however deeply windows are nested.

## Main definitions

* `ClassFormat.Cursor` — a window, the offset reached in it, and the bytes still to be read.
* `ClassFormat.ReadFault` — a read past the end of the window, or a byte that is not the expected
  one.
* `ClassFormat.Cursor.bytesAt`, `ClassFormat.Cursor.wordAt` — reads at an offset of the window,
  which leave the cursor where it is.
* `ClassFormat.Cursor.advance`, `ClassFormat.Cursor.inner` — the cursor behind the next bytes, and a
  cursor over a window of just these bytes.
* The order on cursors: `c ≤ d` when `d` stands in the same window, at the same offset or behind it.

## Design

The unread bytes are kept beside the window, so that a read costs no more than the bytes it reads.

Offsets, lengths and counts are natural numbers. A program keeps them in words as wide as its
addresses, and these are taken to be wide enough, as they are for every position of an input that
fits in memory. Two calls can ask for more, and a program with such words panics there instead of
giving an answer:

* a look at an offset near the greatest word from within an inner window: the absolute position that
  `Cursor.shortage` names, the sum of the window's base and the offset, overflows (and wraps around,
  if overflow is not checked);
* a repetition with a count for whose items there is no memory: room for all of them is made before
  the first one is read.

A cursor past the end of its window, on which the count of the bytes left underflows and even a look
at no bytes panics, cannot be built here: that is `Cursor.offset_le`.
-/

namespace ClassFormat

/-- Why a read of bytes failed. -/
inductive ReadFault where
  /-- `wanted` bytes were asked for at the absolute position `offset`, but the window holds only
  `available` from there on. -/
  | outOfBounds (offset wanted available : Nat)
  /-- The byte at the absolute position `offset` is not the expected one. -/
  | mismatch (offset : Nat)
  deriving DecidableEq, Repr

/-- The absolute position that a failed read is about. -/
def ReadFault.offset : ReadFault → Nat
  | outOfBounds offset _ _ => offset
  | mismatch offset => offset

/-- A place in a window of the input. -/
structure Cursor where
  /-- The bytes of the window. -/
  window : Bytes
  /-- The absolute position of the window's first byte. -/
  base : Nat
  /-- How many bytes of the window lie behind the cursor. -/
  offset : Nat
  /-- The bytes in front of the cursor. -/
  rest : Bytes
  rest_eq : rest = window.drop offset
  offset_le : offset ≤ window.length

namespace Cursor

/-- A cursor at the start of a whole input. -/
def ofBytes (bytes : Bytes) : Cursor where
  window := bytes
  base := 0
  offset := 0
  rest := bytes
  rest_eq := rfl
  offset_le := Nat.zero_le _

/-- The absolute position of the cursor. -/
def position (c : Cursor) : Nat :=
  c.base + c.offset

/-- How many bytes are left to read. -/
def remaining (c : Cursor) : Nat :=
  c.rest.length

/-- Whether the window has been read to its end. -/
def isEmpty (c : Cursor) : Bool :=
  c.rest.isEmpty

/-- What is left to read is as long as the window less the offset. -/
theorem length_rest (c : Cursor) : c.rest.length = c.window.length - c.offset := by
  rw [c.rest_eq, List.length_drop]

/-- As many bytes as can be taken are left. -/
theorem le_remaining_of_length_take (c : Cursor) {count : Nat}
    (h : (c.rest.take count).length = count) : count ≤ c.remaining := by
  rw [List.length_take] at h
  rw [remaining]
  omega

/-- The bytes that were passed and those that are left make up the window. -/
theorem offset_add_remaining (c : Cursor) : c.offset + c.remaining = c.window.length := by
  have h := c.offset_le
  rw [remaining, length_rest]
  omega

/-- Cursors in the same window at the same offset are equal: the unread bytes are determined. -/
theorem ext {c d : Cursor} (hwindow : c.window = d.window) (hbase : c.base = d.base)
    (hoffset : c.offset = d.offset) : c = d := by
  cases c with
  | mk _ _ _ rest rest_eq _ =>
    cases d with
    | mk _ _ _ rest' rest_eq' _ =>
      simp only at hwindow hbase hoffset
      subst hwindow hbase hoffset
      subst rest_eq rest_eq'
      rfl

/-! ## Reads that do not move -/

/-- The bytes of the window from `offset` on, counted from the window's start. -/
def bytesFrom (c : Cursor) (offset : Nat) : Bytes :=
  if c.offset ≤ offset then c.rest.drop (offset - c.offset) else c.window.drop offset

/-- Whichever of the two byte strings is used, the bytes from an offset on are those of the window.
-/
theorem bytesFrom_eq_drop (c : Cursor) (offset : Nat) :
    c.bytesFrom offset = c.window.drop offset := by
  unfold bytesFrom
  split
  · next h => rw [c.rest_eq, List.drop_drop, Nat.add_sub_cancel' h]
  · rfl

/-- The fault of a read of `wanted` bytes at `offset` in the window. -/
def shortage (c : Cursor) (offset wanted : Nat) : ReadFault :=
  .outOfBounds (c.base + offset) wanted (c.window.length - offset)

/-- The `count` bytes at `offset` in the window. -/
def bytesAt (c : Cursor) (offset count : Nat) : Except ReadFault Bytes :=
  let found := (c.bytesFrom offset).take count
  if found.length = count then .ok found else .error (c.shortage offset count)

/-- The word at `offset` in the window. -/
def wordAt {α : Type} [Word α] (c : Cursor) (offset : Nat) : Except ReadFault α :=
  (c.bytesAt offset (Word.size α)).map Word.ofBytes

/-- The next `count` bytes. -/
def peek (c : Cursor) (count : Nat) : Except ReadFault Bytes :=
  c.bytesAt c.offset count

/-! ## Moving on -/

/-- The cursor behind the next `count` bytes. -/
def advance (c : Cursor) (count : Nat) (h : count ≤ c.remaining) : Cursor where
  window := c.window
  base := c.base
  offset := c.offset + count
  rest := c.rest.drop count
  rest_eq := by rw [c.rest_eq, List.drop_drop]
  offset_le := by
    have := c.offset_add_remaining
    omega

/-- A cursor at the start of a window of the next `count` bytes. -/
def inner (c : Cursor) (count : Nat) : Cursor where
  window := c.rest.take count
  base := c.position
  offset := 0
  rest := c.rest.take count
  rest_eq := rfl
  offset_le := Nat.zero_le _

/-- Moving on takes away as many bytes as are passed. -/
@[simp] theorem remaining_advance (c : Cursor) (count : Nat) (h : count ≤ c.remaining) :
    (c.advance count h).remaining = c.remaining - count := by
  simp [advance, remaining]

/-- A window of the next bytes holds no more of them than there are. -/
@[simp] theorem remaining_inner (c : Cursor) (count : Nat) :
    (c.inner count).remaining = min count c.remaining := by
  simp [inner, remaining]

/-! ## The order of cursors -/

/-- Later cursors stand in the same window, at the same offset or behind it. -/
instance : LE Cursor where
  le c d := d.window = c.window ∧ d.base = c.base ∧ c.offset ≤ d.offset

/-- Staying in place counts as moving on. -/
theorem le_refl (c : Cursor) : c ≤ c :=
  ⟨rfl, rfl, Nat.le_refl _⟩

/-- Moving on twice is moving on. -/
theorem le_trans {c d e : Cursor} (hcd : c ≤ d) (hde : d ≤ e) : c ≤ e :=
  ⟨hde.1.trans hcd.1, hde.2.1.trans hcd.2.1, Nat.le_trans hcd.2.2 hde.2.2⟩

/-- Passing bytes is moving on. -/
theorem le_advance (c : Cursor) (count : Nat) (h : count ≤ c.remaining) : c ≤ c.advance count h :=
  ⟨rfl, rfl, Nat.le_add_right _ _⟩

/-- Moving on never lengthens what is left to read. -/
theorem remaining_le_of_le {c d : Cursor} (h : c ≤ d) : d.remaining ≤ c.remaining := by
  have hc := c.offset_add_remaining
  have hd := d.offset_add_remaining
  rw [h.1] at hd
  have := h.2.2
  omega

/-- Moving on strictly shortens what is left to read. -/
theorem remaining_lt_of_le {c d : Cursor} (h : c ≤ d) (hoffset : c.offset < d.offset) :
    d.remaining < c.remaining := by
  have hc := c.offset_add_remaining
  have hd := d.offset_add_remaining
  rw [h.1] at hd
  omega

end Cursor

end ClassFormat
