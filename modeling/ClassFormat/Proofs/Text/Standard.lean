import ClassFormat.Proofs.Text.OnePass

/-!
# Texts that both encodings write alike

Modified and standard UTF-8 differ in two ways: in how NUL is written, and in how the supplementary
characters are. So bytes that are standard UTF-8 and plain may be taken over as they are, and the
bytes of a text are taken over exactly if the text has neither.

## Main results

* `ClassFormat.Modified.verbatim?_encode_iff` — the texts whose bytes are taken over as they are.
* `ClassFormat.Modified.scan_of_isValidUTF8` — bytes that are taken over would have been read as the
  same text.
* `ClassFormat.Modified.decode_encode` — every text is read back, in the way that its characters ask
  for.
-/

namespace ClassFormat.Modified

/-- **Plain standard bytes are read alike both ways.** Bytes without a zero byte and without a byte
from `F0` on that are standard UTF-8 are taken over as they are, and to read their units, in two
passes or in one, gives the same text. -/
theorem scan_of_isValidUTF8 {bytes : Bytes} (hzero : 0 ∉ bytes)
    (hfour : ∀ byte ∈ bytes, byte.toNat < 0xF0) (hvalid : ByteArray.IsValidUTF8 ⟨bytes.toArray⟩)
    (base : Nat) :
    ∃ text : String, text.toUTF8 = ⟨bytes.toArray⟩ ∧ decode base bytes = .ok ⟨text, true⟩ ∧
      spell base bytes = .ok text ∧ scan base bytes = .ok text := by
  have hplain : ∀ byte ∈ bytes, IsPlain byte := by
    intro byte hbyte
    exact ⟨fun h => hzero (h ▸ hbyte), hfour byte hbyte⟩
  let text : String := .ofByteArray ⟨bytes.toArray⟩ hvalid
  have hverbatim : verbatim? bytes = some text := verbatim?_eq_some_iff.mpr ⟨hplain, rfl⟩
  have hspell : spell base bytes = .ok text := by
    rw [← encode_of_verbatim? hverbatim, spell_encode]
  refine ⟨text, rfl, ?_, hspell, ?_⟩
  · rw [decode, hverbatim]
  · rw [scan_eq_spell, hspell]

/-- A letter of one byte, one of two and one of three. -/
theorem scan_of_isValidUTF8_threeForms :
    ∃ text : String, text.toUTF8 = ⟨#[0x41, 0xC3, 0xA9, 0xE2, 0x82, 0xAC]⟩ ∧
      decode 0 [0x41, 0xC3, 0xA9, 0xE2, 0x82, 0xAC] = .ok ⟨text, true⟩ ∧
      spell 0 [0x41, 0xC3, 0xA9, 0xE2, 0x82, 0xAC] = .ok text ∧
      scan 0 [0x41, 0xC3, 0xA9, 0xE2, 0x82, 0xAC] = .ok text :=
  scan_of_isValidUTF8 (by decide) (by simp) ⟨['A', 'é', '€'], by decide⟩ 0

/-! ## The texts that are taken over -/

/-- The bytes of a text are taken over as they are exactly if it has neither NUL nor a supplementary
character. -/
theorem verbatim?_encode_iff (text : String) :
    verbatim? (encode text) = some text ↔ ∀ c ∈ text.toList, c ≠ '\x00' ∧ c.toNat < 0x10000 := by
  constructor
  · exact forall_char_of_verbatim?
  · intro hchars
    have hbytes : text.toList.flatMap String.utf8EncodeChar = encode text :=
      List.flatMap_congr fun c hc => utf8EncodeChar_eq (hchars c hc)
    refine verbatim?_eq_some_iff.mpr ⟨fun byte hbyte => ?_, toByteArray_eq_iff.mpr hbytes⟩
    rw [← hbytes] at hbyte
    obtain ⟨c, hc, hmem⟩ := List.mem_flatMap.mp hbyte
    exact (isPlain_utf8EncodeChar_iff c).mpr (hchars c hc) byte hmem

/-- **A text is read back from its bytes.** They are taken over as they are exactly if the text has
neither NUL nor a supplementary character. -/
theorem decode_encode (base : Nat) (text : String) :
    ∃ verbatim : Bool, decode base (encode text) = .ok ⟨text, verbatim⟩ ∧
      (verbatim = true ↔ ∀ c ∈ text.toList, c ≠ '\x00' ∧ c.toNat < 0x10000) := by
  cases hverbatim : verbatim? (encode text) with
  | some other =>
    -- Bytes that are taken over give the text that they encode, which is this one.
    obtain rfl := encode_injective (encode_of_verbatim? hverbatim)
    refine ⟨true, ?_, iff_of_true rfl ((verbatim?_encode_iff other).mp hverbatim)⟩
    rw [decode, hverbatim]
  | none =>
    have hchars : ¬∀ c ∈ text.toList, c ≠ '\x00' ∧ c.toNat < 0x10000 := by
      rw [← verbatim?_encode_iff, hverbatim]
      nofun
    refine ⟨false, ?_, iff_of_false Bool.false_ne_true hchars⟩
    rw [decode, hverbatim, spell_encode]
    rfl

end ClassFormat.Modified
