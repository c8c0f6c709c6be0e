import ClassFormat.Bytes.Hex
import Mathlib.Tactic.Lemma

/-!
# Reading hexadecimal text

Bytes that are written as pairs of digits can be read back, since each digit stands for one number
only.

## Main definitions

* `ClassFormat.Hex.digit?`, `ClassFormat.Hex.ofPairs?` — the number of a digit, and the bytes of
  pairs of digits.

## Main results

* `ClassFormat.Hex.ofPairs?_pairs` — bytes are read back from their pairs.
* `ClassFormat.Hex.isAlphanum_of_mem_pairs` — pairs hold nothing but letters and digits.
-/

namespace ClassFormat.Hex

/-- The number that an upper-case digit stands for. -/
def digit? (c : Char) : Option Nat :=
  (List.range 16).find? fun number => upperDigit number == c

/-- The bytes that pairs of upper-case digits stand for. -/
def ofPairs? : List Char → Option Bytes
  | [] => some []
  | [_] => none
  | high :: low :: rest => do
    let high ← digit? high
    let low ← digit? low
    let bytes ← ofPairs? rest
    return UInt8.ofNat (16 * high + low) :: bytes

/-- A digit is read back as the number it was written for. -/
lemma digit?_upperDigit {number : Nat} (h : number < 16) :
    digit? (upperDigit number) = some number := by
  have hdigits : ∀ number : Fin 16, digit? (upperDigit number) = some number.val := by decide
  exact hdigits ⟨number, h⟩

/-- A digit is a letter or a decimal digit. -/
lemma isAlphanum_upperDigit {number : Nat} (h : number < 16) :
    (upperDigit number).isAlphanum = true := by
  have hdigits : ∀ number : Fin 16, (upperDigit number).isAlphanum = true := by decide
  exact hdigits ⟨number, h⟩

/-- Pairs of digits are read back as the bytes they were written for. -/
lemma ofPairs?_flatMap_pair (bytes : Bytes) : ofPairs? (bytes.flatMap pair) = some bytes := by
  induction bytes with
  | nil => rfl
  | cons byte bytes ih =>
    have hbyte := byte.toNat_lt
    have hvalue : 16 * (byte.toNat / 16) + byte.toNat % 16 = byte.toNat := Nat.div_add_mod _ 16
    show ofPairs? (upperDigit _ :: upperDigit _ :: bytes.flatMap pair) = _
    rw [ofPairs?, digit?_upperDigit (by omega), digit?_upperDigit (by omega), ih]
    show some (UInt8.ofNat _ :: bytes) = _
    rw [hvalue, UInt8.ofNat_toNat]

/-- Bytes are read back from their pairs of digits. -/
theorem ofPairs?_pairs (bytes : Bytes) : ofPairs? (pairs bytes).toList = some bytes := by
  rw [pairs, String.toList_ofList, ofPairs?_flatMap_pair]

/-- Only no bytes give no digits. -/
lemma eq_nil_of_pairs {bytes : Bytes} (h : (pairs bytes).toList = []) : bytes = [] := by
  have hbytes := ofPairs?_pairs bytes
  rw [h] at hbytes
  exact (Option.some.inj hbytes).symm

/-- Pairs of digits hold nothing but letters and digits. -/
lemma isAlphanum_of_mem_pairs {bytes : Bytes} {c : Char} (h : c ∈ (pairs bytes).toList) :
    c.isAlphanum = true := by
  rw [pairs, String.toList_ofList] at h
  obtain ⟨byte, _, hc⟩ := List.mem_flatMap.mp h
  have hbyte := byte.toNat_lt
  rcases List.mem_cons.mp hc with rfl | hc
  · exact isAlphanum_upperDigit (by omega)
  · rw [List.mem_singleton.mp hc]
    exact isAlphanum_upperDigit (by omega)

end ClassFormat.Hex
