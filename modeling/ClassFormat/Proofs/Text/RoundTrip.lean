import ClassFormat.Text.Modified
import Mathlib.Data.List.Basic
import Mathlib.Tactic.Lemma

/-!
# Texts that are written and read again

Every text can be stored in modified UTF-8, and reading the bytes gives the text back. Bytes that
are standard UTF-8 as well are taken over as they are; this makes no difference, since both
encodings agree on them.

## Main results

* `ClassFormat.Modified.unitsOnto_flatMap` — every string of units is read back from its bytes.
* `ClassFormat.CodeUnit.read_flatMap_ofChar` — every string of characters is read back from its
  units.
* `ClassFormat.Modified.isPlain_utf8EncodeChar_iff` — the characters whose standard bytes are plain.
* `ClassFormat.Modified.verbatim?_eq_some_iff` — which bytes are taken over as they are.
* `ClassFormat.Modified.text_decode` — taking them over gives the text that their units spell.
* `ClassFormat.Modified.text_decode_encode` — every text is read back from its bytes, whichever way
  the bytes are read.
-/

namespace ClassFormat

/-! ## Units and their bytes -/

namespace Modified

section Units

variable {offset : Nat} {done : List UInt16} {lead second third : UInt8} {rest : Bytes}

/-- A unit of one byte is scanned, and the scan goes on behind it. -/
lemma unitsOnto_of_one (hlead : unitLength? lead = some 1) :
    unitsOnto offset done (lead :: rest) =
      unitsOnto (offset + 1) (UInt16.ofNat lead.toNat :: done) rest := by
  simp [unitsOnto, hlead]

/-- A unit of two bytes is scanned, and the scan goes on behind it. -/
lemma unitsOnto_of_two (hlead : unitLength? lead = some 2) (hsecond : IsContinuation second) :
    unitsOnto offset done (lead :: second :: rest) =
      unitsOnto (offset + 2) (unitOfTwo lead second :: done) rest := by
  simp [unitsOnto, hlead, hsecond]

/-- A unit of three bytes is scanned, and the scan goes on behind it. -/
lemma unitsOnto_of_three (hlead : unitLength? lead = some 3) (hsecond : IsContinuation second)
    (hthird : IsContinuation third) :
    unitsOnto offset done (lead :: second :: third :: rest) =
      unitsOnto (offset + 3) (unitOfThree lead second third :: done) rest := by
  simp [unitsOnto, hlead, hsecond, hthird]

/-- A byte in `80..BF`, by its number. -/
lemma isContinuation_ofNat (number : Nat) :
    IsContinuation (UInt8.ofNat (0x80 + number % 0x40)) := by
  unfold IsContinuation
  rw [UInt8.toNat_ofNat']
  omega

end Units

/-- Two bytes that share the digits of a unit hold this unit. -/
lemma unit_of_two {unit : UInt16} (htwo : unit.toNat ≤ 0x7FF) :
    unitLength? (UInt8.ofNat (0xC0 + unit.toNat / 0x40)) = some 2 ∧
      unitOfTwo (UInt8.ofNat (0xC0 + unit.toNat / 0x40)) (UInt8.ofNat (0x80 + unit.toNat % 0x40)) =
        unit := by
  have hlead : (UInt8.ofNat (0xC0 + unit.toNat / 0x40)).toNat = 0xC0 + unit.toNat / 0x40 := by
    rw [UInt8.toNat_ofNat']
    omega
  constructor
  · unfold unitLength?
    rw [hlead]
    dsimp only
    rw [if_neg (by omega), if_pos (by omega)]
  · unfold unitOfTwo
    rw [hlead, UInt8.toNat_ofNat']
    exact (congrArg UInt16.ofNat (by omega)).trans UInt16.ofNat_toNat

/-- Three bytes that share the digits of a unit hold this unit. -/
lemma unit_of_three (unit : UInt16) :
    unitLength? (UInt8.ofNat (0xE0 + unit.toNat / 0x1000)) = some 3 ∧
      unitOfThree (UInt8.ofNat (0xE0 + unit.toNat / 0x1000))
        (UInt8.ofNat (0x80 + unit.toNat / 0x40 % 0x40)) (UInt8.ofNat (0x80 + unit.toNat % 0x40)) =
        unit := by
  have hbound : unit.toNat < 0x10000 := unit.toNat_lt
  have hlead : (UInt8.ofNat (0xE0 + unit.toNat / 0x1000)).toNat = 0xE0 + unit.toNat / 0x1000 := by
    rw [UInt8.toNat_ofNat']
    omega
  constructor
  · unfold unitLength?
    rw [hlead]
    dsimp only
    rw [if_neg (by omega), if_neg (by omega), if_pos (by omega)]
  · unfold unitOfThree
    rw [hlead, UInt8.toNat_ofNat', UInt8.toNat_ofNat']
    exact (congrArg UInt16.ofNat (by omega)).trans UInt16.ofNat_toNat

/-- The bytes of a unit are read as this unit, whatever follows them.

**Proof sketch.** A unit takes one, two or three bytes by its number. The first byte shows how many
there are, and each byte holds its share of the number's digits. -/
lemma unitsOnto_unitBytes (offset : Nat) (done : List UInt16) (unit : UInt16) (rest : Bytes) :
    unitsOnto offset done (unitBytes unit ++ rest) =
      unitsOnto (offset + (unitBytes unit).length) (unit :: done) rest := by
  unfold unitBytes
  dsimp only
  split
  · next hone =>
    have hlead : (UInt8.ofNat unit.toNat).toNat = unit.toNat := by
      rw [UInt8.toNat_ofNat']
      omega
    have hlength : unitLength? (UInt8.ofNat unit.toNat) = some 1 := by
      unfold unitLength?
      rw [hlead]
      exact if_pos hone
    rw [List.singleton_append, unitsOnto_of_one hlength, hlead, UInt16.ofNat_toNat,
      List.length_singleton]
  · split
    · next htwo =>
      obtain ⟨hlength, hunit⟩ := unit_of_two htwo
      rw [List.cons_append, List.singleton_append,
        unitsOnto_of_two hlength (isContinuation_ofNat _), hunit]
      rfl
    · obtain ⟨hlength, hunit⟩ := unit_of_three unit
      rw [List.cons_append, List.cons_append, List.singleton_append,
        unitsOnto_of_three hlength (isContinuation_ofNat _) (isContinuation_ofNat _), hunit]
      rfl

/-- Units are read back from their bytes. -/
theorem unitsOnto_flatMap (offset : Nat) (done units : List UInt16) :
    unitsOnto offset done (units.flatMap unitBytes) = .ok (done.reverse ++ units) := by
  induction units generalizing offset done with
  | nil => simp [unitsOnto]
  | cons unit units ih =>
    rw [List.flatMap_cons, unitsOnto_unitBytes, ih]
    simp

end Modified

/-! ## Characters and their units -/

namespace CodeUnit

/-- A unit that is no high surrogate stands alone, whatever follows it. -/
lemma read_cons_of_not_isHigh {unit : UInt16} (h : ¬IsHigh unit) (rest : List UInt16) :
    read (unit :: rest) = alone unit :: read rest := by
  cases rest with
  | nil => rfl
  | cons second rest => exact read_cons_cons_of_not_pair rest fun hpair => h hpair.1

/-- The units of a character are read as this character, whatever follows them.

**Proof sketch.** No character is a surrogate. So below `10000` the unit stands alone; from there on
the two surrogates hold the upper and the lower ten bits. -/
lemma read_ofChar_append (c : Char) (rest : List UInt16) :
    read (ofChar c ++ rest) = c :: read rest := by
  have hvalid : c.toNat < 0xD800 ∨ 0xDFFF < c.toNat ∧ c.toNat < 0x110000 := c.valid
  unfold ofChar
  split
  · next hsmall =>
    have hunit : (UInt16.ofNat c.toNat).toNat = c.toNat := by
      rw [UInt16.toNat_ofNat']
      omega
    have hhigh : ¬IsHigh (UInt16.ofNat c.toNat) := by
      unfold IsHigh
      omega
    have hlow : ¬IsLow (UInt16.ofNat c.toNat) := by
      unfold IsLow
      omega
    rw [List.singleton_append, read_cons_of_not_isHigh hhigh, alone, if_neg (by simp [hhigh, hlow]),
      hunit, Char.ofNat_toNat]
  · next hlarge =>
    have hhigh : (UInt16.ofNat (0xD800 + (c.toNat - 0x10000) / 0x400)).toNat =
        0xD800 + (c.toNat - 0x10000) / 0x400 := by
      rw [UInt16.toNat_ofNat']
      omega
    have hlow : (UInt16.ofNat (0xDC00 + (c.toNat - 0x10000) % 0x400)).toNat =
        0xDC00 + (c.toNat - 0x10000) % 0x400 := by
      rw [UInt16.toNat_ofNat']
      omega
    have hpair : pair (UInt16.ofNat (0xD800 + (c.toNat - 0x10000) / 0x400))
        (UInt16.ofNat (0xDC00 + (c.toNat - 0x10000) % 0x400)) = c := by
      unfold pair
      rw [hhigh, hlow]
      exact (congrArg Char.ofNat (by omega)).trans (Char.ofNat_toNat c)
    rw [List.cons_append, List.singleton_append, read_cons_cons_of_pair, hpair]
    unfold IsHigh IsLow
    omega

/-- Characters are read back from their units. -/
theorem read_flatMap_ofChar (cs : List Char) : read (cs.flatMap ofChar) = cs := by
  induction cs with
  | nil => rfl
  | cons c cs ih => rw [List.flatMap_cons, read_ofChar_append, ih]

end CodeUnit

/-! ## Texts -/

namespace Modified

/-- A text is written unit by unit. -/
lemma encode_eq (text : String) :
    encode text = (text.toList.flatMap CodeUnit.ofChar).flatMap unitBytes := by
  rw [encode, List.flatMap_assoc]

/-- A text is read back from its units. -/
theorem spell_encode (base : Nat) (text : String) : spell base (encode text) = .ok text := by
  unfold spell units
  rw [encode_eq, unitsOnto_flatMap]
  show Except.ok (String.ofList (CodeUnit.read _)) = _
  rw [List.reverse_nil, List.nil_append, CodeUnit.read_flatMap_ofChar, String.ofList_toList]

/-- Different texts have different bytes. -/
lemma encode_injective {a b : String} (h : encode a = encode b) : a = b := by
  have ha := spell_encode 0 a
  rw [h, spell_encode 0 b] at ha
  exact (Except.ok.inj ha).symm

/-- A byte is plain if its number is neither zero nor 0xF0 or more. -/
lemma isPlain_ofNat_iff {number : Nat} (h : number < 0x100) :
    IsPlain (UInt8.ofNat number) ↔ number ≠ 0 ∧ number < 0xF0 := by
  have hnumber : (UInt8.ofNat number).toNat = number := UInt8.toNat_ofNat_of_lt h
  unfold IsPlain
  rw [hnumber, Ne, ← UInt8.toNat_inj, hnumber]
  rfl

/-- The standard bytes of a character are plain exactly if it is neither NUL nor supplementary.

**Proof sketch.** The first of four forms holds the character's number itself, so that only NUL
gives a zero byte. In the second and the third form the first byte lies below `F0` and no byte below
`80`. The fourth form begins with a byte from `F0` on. -/
lemma isPlain_utf8EncodeChar_iff (c : Char) :
    (∀ byte ∈ String.utf8EncodeChar c, IsPlain byte) ↔ c ≠ '\x00' ∧ c.toNat < 0x10000 := by
  have hnul : c ≠ '\x00' ↔ c.toNat ≠ 0 := by
    rw [Ne, ← Char.toNat_inj]
    rfl
  have hval : c.val.toNat = c.toNat := rfl
  rw [hnul]
  unfold String.utf8EncodeChar
  rw [hval]
  dsimp only
  split
  · rw [List.forall_mem_singleton, isPlain_ofNat_iff (by omega)]
    omega
  · split
    · rw [List.forall_mem_cons, List.forall_mem_singleton, isPlain_ofNat_iff (by omega),
        isPlain_ofNat_iff (by omega)]
      omega
    · split
      · rw [List.forall_mem_cons, List.forall_mem_cons, List.forall_mem_singleton,
          isPlain_ofNat_iff (by omega), isPlain_ofNat_iff (by omega), isPlain_ofNat_iff (by omega)]
        omega
      · rw [List.forall_mem_cons, isPlain_ofNat_iff (by omega)]
        omega

/-- On characters that are neither NUL nor supplementary, both encodings agree: the second and the
third form of the standard, and the first one but for NUL, are the forms of a single unit. -/
lemma utf8EncodeChar_eq {c : Char} (h : c ≠ '\x00' ∧ c.toNat < 0x10000) :
    String.utf8EncodeChar c = (CodeUnit.ofChar c).flatMap unitBytes := by
  have hval : c.val.toNat = c.toNat := rfl
  have hpos : c.toNat ≠ 0 := fun hzero => h.1 (Char.toNat_inj.mp hzero)
  have hunit : (UInt16.ofNat c.toNat).toNat = c.toNat := by
    rw [UInt16.toNat_ofNat']
    omega
  rw [CodeUnit.ofChar, if_pos h.2, List.flatMap_singleton, unitBytes, hunit]
  unfold String.utf8EncodeChar
  rw [hval]
  dsimp only
  by_cases hone : c.toNat ≤ 0x7F
  · rw [if_pos hone, if_pos ⟨Nat.pos_of_ne_zero hpos, hone⟩]
  · have hnot : ¬(1 ≤ c.toNat ∧ c.toNat ≤ 0x7F) := fun hrange => hone hrange.2
    have hlast : c.toNat % 0x40 + 0x80 = 0x80 + c.toNat % 0x40 := Nat.add_comm _ _
    rw [if_neg hone, if_neg hnot, hlast]
    by_cases htwo : c.toNat ≤ 0x7FF
    · have hlead : c.toNat / 64 % 0x20 + 0xC0 = 0xC0 + c.toNat / 0x40 := by omega
      rw [if_pos htwo, if_pos htwo, hlead]
    · have hlead : c.toNat / 4096 % 0x10 + 0xE0 = 0xE0 + c.toNat / 0x1000 := by omega
      have hsecond : c.toNat / 64 % 0x40 + 0x80 = 0x80 + c.toNat / 0x40 % 0x40 := Nat.add_comm _ _
      rw [if_neg htwo, if_neg htwo, if_pos (Nat.le_of_lt_succ h.2), hlead, hsecond]

/-- A byte string is the standard encoding of a text exactly if it consists of the standard bytes of
the text's characters. -/
lemma toByteArray_eq_iff {bytes : Bytes} {text : String} :
    text.toByteArray = ⟨bytes.toArray⟩ ↔ text.toList.flatMap String.utf8EncodeChar = bytes := by
  have hdata : text.toByteArray.data.toList = text.toList.flatMap String.utf8EncodeChar := by
    rw [← String.utf8Encode_toList, List.utf8Encode, List.toList_data_toByteArray]
  constructor
  · intro h
    rw [← hdata, h]
  · intro h
    apply ByteArray.ext
    rw [← h, ← hdata]

/-- Bytes are taken over as they are exactly if all of them are plain and they are the standard
encoding of the text. -/
lemma verbatim?_eq_some_iff {bytes : Bytes} {text : String} :
    verbatim? bytes = some text ↔
      (∀ byte ∈ bytes, IsPlain byte) ∧ text.toByteArray = ⟨bytes.toArray⟩ := by
  have hplain : (bytes.all fun byte => IsPlain byte) = true ↔
      ∀ byte ∈ bytes, IsPlain byte := by simp
  have hstandard : String.fromUTF8? ⟨bytes.toArray⟩ = some text ↔
      text.toByteArray = ⟨bytes.toArray⟩ := by
    unfold String.fromUTF8?
    constructor
    · intro h
      split at h
      · exact congrArg String.toByteArray (Option.some.inj h).symm
      · cases h
    · intro h
      have hvalid := text.isValidUTF8
      rw [h] at hvalid
      rw [dif_pos hvalid]
      exact congrArg some (String.toByteArray_inj.mp h.symm)
  rw [← hplain, ← hstandard]
  unfold verbatim?
  split
  · next h => exact ⟨fun hsome => ⟨h, hsome⟩, fun hboth => hboth.2⟩
  · next h => exact ⟨nofun, fun hboth => absurd hboth.1 h⟩

/-- A text whose bytes are taken over as they are has neither NUL nor a supplementary character. -/
lemma forall_char_of_verbatim? {bytes : Bytes} {text : String} (h : verbatim? bytes = some text) :
    ∀ c ∈ text.toList, c ≠ '\x00' ∧ c.toNat < 0x10000 := by
  obtain ⟨hplain, harray⟩ := verbatim?_eq_some_iff.mp h
  have hbytes := toByteArray_eq_iff.mp harray
  intro c hc
  refine (isPlain_utf8EncodeChar_iff c).mp fun byte hbyte => hplain byte ?_
  rw [← hbytes]
  exact List.mem_flatMap.mpr ⟨c, hc, hbyte⟩

/-- Bytes that are taken over as they are spell the same text in both encodings. -/
lemma encode_of_verbatim? {bytes : Bytes} {text : String} (h : verbatim? bytes = some text) :
    encode text = bytes := by
  rw [encode, ← toByteArray_eq_iff.mp (verbatim?_eq_some_iff.mp h).2]
  exact List.flatMap_congr fun c hc => (utf8EncodeChar_eq (forall_char_of_verbatim? h c hc)).symm

/-- A text is what its units spell, whether its bytes are taken over as they are or not. -/
lemma text_decode (base : Nat) (bytes : Bytes) :
    (decode base bytes).map Reading.text = spell base bytes := by
  unfold decode
  split
  · next text htext =>
    rw [← encode_of_verbatim? htext, spell_encode]
    rfl
  · cases spell base bytes <;> rfl

/-- A text is read back from its bytes, whether these are taken over as they are or not. -/
theorem text_decode_encode (base : Nat) (text : String) :
    (decode base (encode text)).map Reading.text = .ok text := by
  rw [text_decode, spell_encode]

end Modified

end ClassFormat
