import ClassFormat.Proofs.Text.RoundTrip

/-!
# The grammar of stored texts

A byte string is a text in modified UTF-8 exactly if it can be cut into units of one, two and three
bytes, and then the text is what these units spell in UTF-16. Neither a unit that takes more bytes
than it needs nor a surrogate without its partner makes a byte string unreadable.

## Main definitions

* `ClassFormat.Modified.IsUnit`, `ClassFormat.Modified.Spells` — the bytes of a unit, and of a
  string of units.
* `ClassFormat.CodeUnit.ReadsAs` — the characters that a string of units spells.

## Main results

* `ClassFormat.Modified.units_eq_ok_iff` — the scanner accepts exactly the byte strings of the
  grammar.
* `ClassFormat.CodeUnit.readsAs_iff` — the reading of units is what the rules of UTF-16 say.
* `ClassFormat.Modified.spell_eq_ok_iff` — both together.
-/

namespace ClassFormat

namespace Modified

/-! ## Bytes and units -/

/-- The bytes of one unit: `01..7F` alone, `C0..DF` with one continuation byte, `E0..EF` with two.
-/
inductive IsUnit : Bytes → UInt16 → Prop
  | one {lead : UInt8} {unit : UInt16} :
      0x01 ≤ lead.toNat ∧ lead.toNat ≤ 0x7F → unit.toNat = lead.toNat → IsUnit [lead] unit
  | two {lead second : UInt8} {unit : UInt16} :
      0xC0 ≤ lead.toNat ∧ lead.toNat ≤ 0xDF → IsContinuation second →
      unit.toNat = (lead.toNat - 0xC0) * 0x40 + (second.toNat - 0x80) → IsUnit [lead, second] unit
  | three {lead second third : UInt8} {unit : UInt16} :
      0xE0 ≤ lead.toNat ∧ lead.toNat ≤ 0xEF → IsContinuation second → IsContinuation third →
      unit.toNat =
        (lead.toNat - 0xE0) * 0x1000 + (second.toNat - 0x80) * 0x40 + (third.toNat - 0x80) →
      IsUnit [lead, second, third] unit

/-- The bytes of units, one behind the other. -/
inductive Spells : Bytes → List UInt16 → Prop
  | nil : Spells [] []
  | cons {bytes rest : Bytes} {unit : UInt16} {units : List UInt16} :
      IsUnit bytes unit → Spells rest units → Spells (bytes ++ rest) (unit :: units)

section Leads

variable {lead second third : UInt8}

/-- The lead bytes of units of one byte. -/
lemma unitLength?_eq_one_iff :
    unitLength? lead = some 1 ↔ 0x01 ≤ lead.toNat ∧ lead.toNat ≤ 0x7F := by
  unfold unitLength?
  grind

/-- The lead bytes of units of two bytes. -/
lemma unitLength?_eq_two_iff :
    unitLength? lead = some 2 ↔ 0xC0 ≤ lead.toNat ∧ lead.toNat ≤ 0xDF := by
  unfold unitLength?
  grind

/-- The lead bytes of units of three bytes. -/
lemma unitLength?_eq_three_iff :
    unitLength? lead = some 3 ↔ 0xE0 ≤ lead.toNat ∧ lead.toNat ≤ 0xEF := by
  unfold unitLength?
  grind

/-- A unit of one byte is that byte. -/
lemma toNat_unitOfOne (lead : UInt8) : (UInt16.ofNat lead.toNat).toNat = lead.toNat := by
  have hlead := lead.toNat_lt
  rw [UInt16.toNat_ofNat']
  omega

/-- A unit of two bytes, from the bits that the bytes bring. -/
lemma toNat_unitOfTwo (hlead : 0xC0 ≤ lead.toNat ∧ lead.toNat ≤ 0xDF)
    (hsecond : IsContinuation second) :
    (unitOfTwo lead second).toNat = (lead.toNat - 0xC0) * 0x40 + (second.toNat - 0x80) := by
  unfold IsContinuation at hsecond
  rw [unitOfTwo, UInt16.toNat_ofNat']
  omega

/-- A unit of three bytes, from the bits that the bytes bring. -/
lemma toNat_unitOfThree (hlead : 0xE0 ≤ lead.toNat ∧ lead.toNat ≤ 0xEF)
    (hsecond : IsContinuation second) (hthird : IsContinuation third) :
    (unitOfThree lead second third).toNat =
      (lead.toNat - 0xE0) * 0x1000 + (second.toNat - 0x80) * 0x40 + (third.toNat - 0x80) := by
  unfold IsContinuation at hsecond hthird
  rw [unitOfThree, UInt16.toNat_ofNat']
  omega

end Leads

/-- The bytes of a unit are scanned as this unit, whatever follows them. -/
lemma unitsOnto_of_isUnit {bytes : Bytes} {unit : UInt16} (h : IsUnit bytes unit) (offset : Nat)
    (done : List UInt16) (rest : Bytes) :
    unitsOnto offset done (bytes ++ rest) =
      unitsOnto (offset + bytes.length) (unit :: done) rest := by
  cases h with
  | @one lead unit hlead hunit =>
    have heq : UInt16.ofNat lead.toNat = unit :=
      UInt16.toNat_inj.mp ((toNat_unitOfOne lead).trans hunit.symm)
    exact heq ▸ unitsOnto_of_one (unitLength?_eq_one_iff.mpr hlead)
  | two hlead hsecond hunit =>
    have heq := UInt16.toNat_inj.mp ((toNat_unitOfTwo hlead hsecond).trans hunit.symm)
    exact heq ▸ unitsOnto_of_two (unitLength?_eq_two_iff.mpr hlead) hsecond
  | three hlead hsecond hthird hunit =>
    have heq := UInt16.toNat_inj.mp ((toNat_unitOfThree hlead hsecond hthird).trans hunit.symm)
    exact heq ▸ unitsOnto_of_three (unitLength?_eq_three_iff.mpr hlead) hsecond hthird

/-- Bytes that spell units are scanned as these units, behind any others. -/
lemma unitsOnto_of_spells {bytes : Bytes} {units : List UInt16} (h : Spells bytes units)
    (offset : Nat) (done : List UInt16) :
    unitsOnto offset done bytes = .ok (done.reverse ++ units) := by
  induction h generalizing offset done with
  | nil => simp [unitsOnto]
  | cons hunit _ ih => simp [unitsOnto_of_isUnit hunit, ih]

/-- Whatever the scanner accepts is cut into units.

**Proof sketch.** Induction along the scan. A scan that goes on has passed the bytes of one unit, of
a kind that the first of them shows; all other steps end with a fault. -/
lemma exists_spells_of_unitsOnto {offset : Nat} {done found : List UInt16} {bytes : Bytes}
    (h : unitsOnto offset done bytes = .ok found) :
    ∃ units, Spells bytes units ∧ found = done.reverse ++ units := by
  fun_induction unitsOnto offset done bytes with
  | case1 =>
    cases h
    exact ⟨[], .nil, (List.append_nil _).symm⟩
  | case2 _ _ lead rest hlead ih =>
    obtain ⟨units, hunits, rfl⟩ := ih h
    have hunit := IsUnit.one (unitLength?_eq_one_iff.mp hlead) (toNat_unitOfOne lead)
    exact ⟨_, .cons hunit hunits, by simp⟩
  | case3 _ _ lead second rest hlead hsecond ih =>
    obtain ⟨units, hunits, rfl⟩ := ih h
    have hrange := unitLength?_eq_two_iff.mp hlead
    have hunit := IsUnit.two hrange hsecond (toNat_unitOfTwo hrange hsecond)
    exact ⟨_, .cons hunit hunits, by simp⟩
  | case7 _ _ lead second third rest hlead hsecond hthird ih =>
    obtain ⟨units, hunits, rfl⟩ := ih h
    have hrange := unitLength?_eq_three_iff.mp hlead
    have hunit := IsUnit.three hrange hsecond hthird (toNat_unitOfThree hrange hsecond hthird)
    exact ⟨_, .cons hunit hunits, by simp⟩
  | case4 | case5 | case6 | case8 | case9 | case10 => cases h

/-- The scanner accepts exactly the byte strings of the grammar. -/
theorem units_eq_ok_iff {base : Nat} {bytes : Bytes} {found : List UInt16} :
    units base bytes = .ok found ↔ Spells bytes found := by
  constructor
  · intro h
    obtain ⟨units, hunits, rfl⟩ := exists_spells_of_unitsOnto h
    exact hunits
  · exact fun h => unitsOnto_of_spells h base []

-- a letter in one byte, and the same letter in two and in three
example : units 0 [0x41, 0xC1, 0x81, 0xE0, 0x81, 0x81] = .ok [0x41, 0x41, 0x41] := by rfl

/-- A byte string can be cut into units in one way only. -/
lemma Spells.unique {bytes : Bytes} {a b : List UInt16} (ha : Spells bytes a)
    (hb : Spells bytes b) : a = b :=
  Except.ok.inj ((unitsOnto_of_spells ha 0 []).symm.trans (unitsOnto_of_spells hb 0 []))

end Modified

/-! ## Units and characters -/

namespace CodeUnit

/-- The characters that units spell in UTF-16. A high surrogate with a low one right behind it is
one supplementary character, any other surrogate is replaced, and any other unit is the character of
its number. -/
inductive ReadsAs : List UInt16 → List Char → Prop
  | nil : ReadsAs [] []
  | pair {high low : UInt16} {c : Char} {units : List UInt16} {cs : List Char} :
      IsHigh high → IsLow low →
      c.toNat = 0x10000 + (high.toNat - 0xD800) * 0x400 + (low.toNat - 0xDC00) →
      ReadsAs units cs → ReadsAs (high :: low :: units) (c :: cs)
  | unpairedHigh {high : UInt16} {units : List UInt16} {cs : List Char} :
      IsHigh high → (∀ next ∈ units.head?, ¬IsLow next) →
      ReadsAs units cs → ReadsAs (high :: units) ('\uFFFD' :: cs)
  | unpairedLow {low : UInt16} {units : List UInt16} {cs : List Char} :
      IsLow low → ReadsAs units cs → ReadsAs (low :: units) ('\uFFFD' :: cs)
  | plain {unit : UInt16} {c : Char} {units : List UInt16} {cs : List Char} :
      ¬IsHigh unit → ¬IsLow unit → c.toNat = unit.toNat →
      ReadsAs units cs → ReadsAs (unit :: units) (c :: cs)

section Reading

variable {unit high low : UInt16}

/-- A low surrogate is no high one. -/
lemma not_isHigh_of_isLow (h : IsLow unit) : ¬IsHigh unit := by
  unfold IsLow at h
  unfold IsHigh
  omega

/-- A high surrogate alone is replaced. -/
lemma alone_of_isHigh (h : IsHigh unit) : alone unit = '\uFFFD' :=
  if_pos (.inl h)

/-- A low surrogate alone is replaced. -/
lemma alone_of_isLow (h : IsLow unit) : alone unit = '\uFFFD' :=
  if_pos (.inr h)

/-- A unit that is no surrogate is a character. -/
lemma alone_of_not (hhigh : ¬IsHigh unit) (hlow : ¬IsLow unit) :
    alone unit = Char.ofNat unit.toNat :=
  if_neg (not_or.mpr ⟨hhigh, hlow⟩)

/-- The character of a number that has one has that number. -/
lemma toNat_ofNat_of_isValidChar {number : Nat} (h : number.isValidChar) :
    (Char.ofNat number).toNat = number := by
  unfold Char.ofNat
  rw [dif_pos h]
  rfl

/-- The character of a unit that is no surrogate has the number of the unit. -/
lemma toNat_ofNat_of_not (hhigh : ¬IsHigh unit) (hlow : ¬IsLow unit) :
    (Char.ofNat unit.toNat).toNat = unit.toNat := by
  have hbound : unit.toNat < 0x10000 := unit.toNat_lt
  apply toNat_ofNat_of_isValidChar
  unfold IsHigh at hhigh
  unfold IsLow at hlow
  unfold Nat.isValidChar
  omega

/-- The number of the character that a pair of surrogates spells. -/
lemma toNat_pair (hhigh : IsHigh high) (hlow : IsLow low) :
    (pair high low).toNat = 0x10000 + (high.toNat - 0xD800) * 0x400 + (low.toNat - 0xDC00) := by
  apply toNat_ofNat_of_isValidChar
  unfold IsHigh at hhigh
  unfold IsLow at hlow
  unfold Nat.isValidChar
  omega

/-- A unit stands alone unless it is the first half of a pair. -/
lemma read_cons_of_not_pair {units : List UInt16}
    (h : IsHigh unit → ∀ next ∈ units.head?, ¬IsLow next) :
    read (unit :: units) = alone unit :: read units := by
  cases units with
  | nil => rfl
  | cons next units =>
    exact read_cons_cons_of_not_pair units fun hpair => h hpair.1 next rfl hpair.2

/-- A unit below the surrogates is the character of its number. -/
lemma read_cons_of_lt {units : List UInt16} (h : unit.toNat < 0xD800) :
    read (unit :: units) = Char.ofNat unit.toNat :: read units := by
  have hhigh : ¬IsHigh unit := by
    unfold IsHigh
    omega
  have hlow : ¬IsLow unit := by
    unfold IsLow
    omega
  rw [read_cons_of_not_isHigh hhigh, alone_of_not hhigh hlow]

end Reading

/-- Units are read as the characters that they spell. -/
lemma read_of_readsAs {units : List UInt16} {cs : List Char} (h : ReadsAs units cs) :
    read units = cs := by
  induction h with
  | nil => rfl
  | pair hhigh hlow hc _ ih =>
    rw [read_cons_cons_of_pair _ ⟨hhigh, hlow⟩, ih,
      ← Char.toNat_inj.mp ((toNat_pair hhigh hlow).trans hc.symm)]
  | unpairedHigh hhigh hnext _ ih =>
    rw [read_cons_of_not_pair fun _ => hnext, alone_of_isHigh hhigh, ih]
  | unpairedLow hlow _ ih =>
    rw [read_cons_of_not_isHigh (not_isHigh_of_isLow hlow), alone_of_isLow hlow, ih]
  | plain hhigh hlow hc _ ih =>
    rw [read_cons_of_not_isHigh hhigh, alone_of_not hhigh hlow, ih, ← hc, Char.ofNat_toNat]

/-- A unit in front of others that it does not pair with. -/
lemma ReadsAs.cons_alone {unit : UInt16} {units : List UInt16} {cs : List Char}
    (h : ReadsAs units cs) (hpair : IsHigh unit → ∀ next ∈ units.head?, ¬IsLow next) :
    ReadsAs (unit :: units) (alone unit :: cs) := by
  by_cases hhigh : IsHigh unit
  · rw [alone_of_isHigh hhigh]
    exact .unpairedHigh hhigh (hpair hhigh) h
  · by_cases hlow : IsLow unit
    · rw [alone_of_isLow hlow]
      exact .unpairedLow hlow h
    · rw [alone_of_not hhigh hlow]
      exact .plain hhigh hlow (toNat_ofNat_of_not hhigh hlow) h

/-- Every string of units spells something, one unit or one pair after the other. -/
lemma readsAs_read : ∀ units, ReadsAs units (read units)
  | [] => .nil
  | [_] => ReadsAs.nil.cons_alone fun _ => nofun
  | first :: second :: rest => by
    by_cases hpair : IsHigh first ∧ IsLow second
    · rw [read_cons_cons_of_pair rest hpair]
      exact .pair hpair.1 hpair.2 (toNat_pair hpair.1 hpair.2) (readsAs_read rest)
    · rw [read_cons_cons_of_not_pair rest hpair]
      refine (readsAs_read (second :: rest)).cons_alone ?_
      rintro hhigh _ ⟨⟩ hlow
      exact hpair ⟨hhigh, hlow⟩

/-- The reading of units is what the rules of UTF-16 say. -/
theorem readsAs_iff {units : List UInt16} {cs : List Char} : ReadsAs units cs ↔ read units = cs :=
  ⟨read_of_readsAs, fun h => h ▸ readsAs_read units⟩

-- of two high surrogates in a row the second one is paired, of two low ones the first
example : read [0xD800, 0xD801, 0xDC37, 0xDC00] = ['\uFFFD', '𐐷', '\uFFFD'] := by decide

end CodeUnit

/-! ## Bytes and texts -/

namespace Modified

/-- A byte string spells a text exactly if it can be cut into units that do. -/
theorem spell_eq_ok_iff {base : Nat} {bytes : Bytes} {text : String} :
    spell base bytes = .ok text ↔ ∃ us, Spells bytes us ∧ CodeUnit.ReadsAs us text.toList := by
  unfold spell
  constructor
  · intro h
    cases hunits : units base bytes with
    | error fault =>
      rw [hunits] at h
      cases h
    | ok us =>
      rw [hunits] at h
      cases h
      exact ⟨us, units_eq_ok_iff.mp hunits, CodeUnit.readsAs_iff.mpr String.toList_ofList.symm⟩
  · rintro ⟨us, hunits, hread⟩
    rw [units_eq_ok_iff.mpr hunits]
    show Except.ok (String.ofList (CodeUnit.read us)) = _
    rw [CodeUnit.readsAs_iff.mp hread, String.ofList_toList]

end Modified

end ClassFormat
