/-!
# 16-bit code units

The text of a class file is a string of 16-bit units. Two units of the surrogate ranges that stand
next to each other, a high one before a low one, spell one supplementary character.

## Main definitions

* `ClassFormat.CodeUnit.IsHigh`, `ClassFormat.CodeUnit.IsLow` — the two surrogate ranges.
* `ClassFormat.CodeUnit.pair`, `ClassFormat.CodeUnit.alone` — the character of a surrogate pair, and
  of a unit that is not part of one.
* `ClassFormat.CodeUnit.read` — the characters of a string of units.
* `ClassFormat.CodeUnit.ofChar` — the one or two units of a character.

## Main results

* `ClassFormat.CodeUnit.read_cons_cons_of_pair`, `ClassFormat.CodeUnit.read_cons_cons_of_not_pair`,
  `ClassFormat.CodeUnit.read_singleton` — the reading, one character at a time.
-/

namespace ClassFormat.CodeUnit

/-- The first half of a surrogate pair. -/
def IsHigh (unit : UInt16) : Prop :=
  0xD800 ≤ unit.toNat ∧ unit.toNat < 0xDC00

/-- The second half of a surrogate pair. -/
def IsLow (unit : UInt16) : Prop :=
  0xDC00 ≤ unit.toNat ∧ unit.toNat < 0xE000

/-- Being a high surrogate is a matter of two comparisons. -/
instance (unit : UInt16) : Decidable (IsHigh unit) :=
  inferInstanceAs (Decidable (_ ∧ _))

/-- Being a low surrogate is a matter of two comparisons. -/
instance (unit : UInt16) : Decidable (IsLow unit) :=
  inferInstanceAs (Decidable (_ ∧ _))

/-- The replacement character, which stands for a surrogate without its partner. -/
def replacement : Char :=
  '\uFFFD'

/-- The supplementary character that a high and a low surrogate spell together. -/
def pair (high low : UInt16) : Char :=
  Char.ofNat (0x10000 + (high.toNat - 0xD800) * 0x400 + (low.toNat - 0xDC00))

/-- The character of a unit that is not part of a surrogate pair. -/
def alone (unit : UInt16) : Char :=
  if IsHigh unit ∨ IsLow unit then replacement else Char.ofNat unit.toNat

/-- Reads the units behind the characters `done`, which are held in reverse. -/
def readOnto (done : List Char) : List UInt16 → List Char
  | [] => done.reverse
  | [unit] => (alone unit :: done).reverse
  | first :: second :: rest =>
    if IsHigh first ∧ IsLow second then
      readOnto (pair first second :: done) rest
    else
      readOnto (alone first :: done) (second :: rest)

/-- The characters that a string of units spells. -/
def read (units : List UInt16) : List Char :=
  readOnto [] units

/-- The units of a character: one, or a surrogate pair. -/
def ofChar (c : Char) : List UInt16 :=
  if c.toNat < 0x10000 then
    [UInt16.ofNat c.toNat]
  else
    [UInt16.ofNat (0xD800 + (c.toNat - 0x10000) / 0x400),
      UInt16.ofNat (0xDC00 + (c.toNat - 0x10000) % 0x400)]

/-! ## The reading, one character at a time -/

/-- Characters that were read before all others stand in front of the reading. -/
theorem readOnto_append (done earlier : List Char) (units : List UInt16) :
    readOnto (done ++ earlier) units = earlier.reverse ++ readOnto done units := by
  fun_induction readOnto done units with
  | case1 done => simp [readOnto]
  | case2 done unit => simp [readOnto]
  | case3 done first second rest hpair ih =>
    rw [readOnto, if_pos hpair, ← List.cons_append, ih]
  | case4 done first second rest hpair ih =>
    rw [readOnto, if_neg hpair, ← List.cons_append, ih]

/-- The characters read before are kept in front of the new ones. -/
theorem readOnto_eq_append_read (done : List Char) (units : List UInt16) :
    readOnto done units = done.reverse ++ read units :=
  readOnto_append [] done units

/-- No units spell no characters. -/
@[simp] theorem read_nil : read [] = [] := rfl

/-- The last unit stands alone. -/
@[simp] theorem read_singleton (unit : UInt16) : read [unit] = [alone unit] := rfl

/-- A high surrogate and the low one behind it spell one character together. -/
theorem read_cons_cons_of_pair {first second : UInt16} (rest : List UInt16)
    (h : IsHigh first ∧ IsLow second) :
    read (first :: second :: rest) = pair first second :: read rest := by
  simp [read, readOnto, h, readOnto_eq_append_read [_]]

/-- A unit that is no half of a pair stands alone, and the next one is looked at afresh. -/
theorem read_cons_cons_of_not_pair {first second : UInt16} (rest : List UInt16)
    (h : ¬(IsHigh first ∧ IsLow second)) :
    read (first :: second :: rest) = alone first :: read (second :: rest) := by
  simp [read, readOnto, h, readOnto_eq_append_read [_]]

end ClassFormat.CodeUnit
