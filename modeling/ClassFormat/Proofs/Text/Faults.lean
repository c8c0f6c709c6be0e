import ClassFormat.Proofs.Decoder.View
import ClassFormat.Proofs.Text.Grammar

/-!
# Where texts go wrong

A text in modified UTF-8 that cannot be decoded is blamed on one of its bytes, by the absolute
position of that byte.

## Main definitions

* `ClassFormat.TextFault.displaced` — the same fault further on in the input.

## Main results

* `ClassFormat.Modified.standsAt_of_decode_error` — the byte that is blamed stands where the fault
  says.
* `ClassFormat.Modified.decode_add` — texts further on are the same, and go wrong at the same bytes.
-/

namespace ClassFormat

variable {shift : Nat}

/-- A byte that has no place in a text, further on. -/
def TextFault.displaced (shift : Nat) (fault : TextFault) : TextFault :=
  { fault with offset := fault.offset + shift }

namespace Modified

variable {input : Bytes}

/-- The byte that is blamed is one of those that were read, at its position. -/
lemma standsAt_of_unitsOnto_error {offset : Nat} {done : List UInt16} {bytes : Bytes}
    {fault : TextFault} (hstands : StandsAt input offset bytes)
    (h : unitsOnto offset done bytes = .error fault) :
    StandsAt input fault.offset [fault.byte] := by
  fun_induction unitsOnto offset done bytes with
  | case1 => cases h
  | case2 _ _ _ _ _ ih => exact ih (hstands.drop 1) h
  | case3 _ _ _ _ _ _ _ ih => exact ih (hstands.drop 2) h
  | case7 _ _ _ _ _ _ _ _ _ ih => exact ih (hstands.drop 3) h
  -- the second byte of a unit is blamed, then the third one, then the first one
  | case4 | case6 | case9 =>
    cases h
    exact hstands.byte 1 rfl
  | case8 =>
    cases h
    exact hstands.byte 2 rfl
  | case5 | case10 =>
    cases h
    exact hstands.byte 0 rfl

/-- The byte that a text blames stands in the input where the fault says. -/
lemma standsAt_of_decode_error {base : Nat} {bytes : Bytes} {fault : TextFault}
    (hstands : StandsAt input base bytes) (h : decode base bytes = .error fault) :
    StandsAt input fault.offset [fault.byte] := by
  unfold decode at h
  split at h
  · cases h
  · unfold spell units at h
    cases hunits : unitsOnto base [] bytes with
    | ok units =>
      rw [hunits] at h
      cases h
    | error cause =>
      rw [hunits] at h
      cases h
      exact standsAt_of_unitsOnto_error hstands hunits

/-! ## Texts further on -/

/-- A fault is displaced by as much as the bytes are. -/
lemma error_displaced {α : Type} (offset count : Nat) (byte : UInt8) :
    (Except.error ⟨offset + count, byte⟩ : Except TextFault α).mapError
      (TextFault.displaced shift) =
      .error ⟨offset + shift + count, byte⟩ := by
  rw [Nat.add_right_comm]
  rfl

/-- Units that are read further on are the same, and a byte that is blamed stands further on. -/
lemma unitsOnto_add (offset : Nat) (done : List UInt16) (bytes : Bytes) :
    unitsOnto (offset + shift) done bytes =
      (unitsOnto offset done bytes).mapError (TextFault.displaced shift) := by
  fun_induction unitsOnto offset done bytes with
  | case1 => rfl
  | case2 offset _ _ _ hlead ih => rw [unitsOnto_of_one hlead, ← ih, Nat.add_right_comm]
  | case3 offset _ _ _ _ hlead hsecond ih =>
    rw [unitsOnto_of_two hlead hsecond, ← ih, Nat.add_right_comm]
  | case7 offset _ _ _ _ _ hlead hsecond hthird ih =>
    rw [unitsOnto_of_three hlead hsecond hthird, ← ih, Nat.add_right_comm]
  | case4 _ _ _ _ _ hlead hsecond | case6 _ _ _ _ hlead hsecond | case9 _ _ _ _ _ _ hlead hsecond =>
    rw [error_displaced]
    simp [unitsOnto, hlead, hsecond]
  | case8 _ _ _ _ _ _ hlead hsecond hthird =>
    rw [error_displaced]
    simp [unitsOnto, hlead, hsecond, hthird]
  | case5 _ _ _ _ hlead hsecond =>
    show _ = Except.error _
    simp [unitsOnto, hlead, hsecond, TextFault.displaced]
  | case10 =>
    show _ = Except.error _
    simp [unitsOnto, TextFault.displaced]

/-- A text that is read further on is the same, and a byte that is blamed stands further on. -/
lemma decode_add (base : Nat) (bytes : Bytes) :
    decode (base + shift) bytes = (decode base bytes).mapError (TextFault.displaced shift) := by
  unfold decode spell units
  split
  · rfl
  · rw [unitsOnto_add]
    cases unitsOnto base [] bytes <;> rfl

/-- The byte that is blamed does not stand before the text. -/
lemma le_of_decode_error {base : Nat} {bytes : Bytes} {fault : TextFault}
    (h : decode base bytes = .error fault) : base ≤ fault.offset := by
  have hshift : decode (0 + base) bytes = (decode 0 bytes).mapError (TextFault.displaced base) :=
    decode_add 0 bytes
  rw [Nat.zero_add, h] at hshift
  cases hdecode : decode 0 bytes with
  | ok reading =>
    rw [hdecode] at hshift
    cases hshift
  | error cause =>
    rw [hdecode] at hshift
    cases hshift
    exact Nat.le_add_left base cause.offset

end Modified

end ClassFormat
