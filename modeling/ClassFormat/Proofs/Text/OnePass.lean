import ClassFormat.Proofs.Text.Grammar

/-!
# Texts in one pass

Units and characters need not be read one after the other. A reader can spell characters while it
scans: at a high surrogate it looks at the unit ahead, takes it along if it is a low surrogate, and
otherwise goes on as if it had not looked. It gives the same texts, and blames the same bytes.

## Main definitions

* `ClassFormat.Modified.takeLow?` — the low surrogate that bytes begin with, if they do.
* `ClassFormat.Modified.scan` — the text of a byte string, in one pass.

## Main results

* `ClassFormat.Modified.scan_eq_spell` — one pass does what two do.
* `ClassFormat.Modified.decode_iff_spells` — which byte strings are texts, and which texts they are.
-/

namespace ClassFormat.Modified

/-- The low surrogate that the bytes begin with, if they do, and the bytes behind it. -/
def takeLow? : Bytes → Option (UInt16 × Bytes)
  | lead :: second :: third :: rest =>
    if unitLength? lead = some 3 ∧ IsContinuation second ∧ IsContinuation third ∧
        CodeUnit.IsLow (unitOfThree lead second third) then
      some (unitOfThree lead second third, rest)
    else none
  | _ => none

/-- A low surrogate that is taken along is a unit of three bytes. -/
lemma exists_of_takeLow? {bytes behind : Bytes} {low : UInt16}
    (h : takeLow? bytes = some (low, behind)) :
    ∃ front, bytes = front ++ behind ∧ front.length = 3 ∧ IsUnit front low ∧
      CodeUnit.IsLow low := by
  unfold takeLow? at h
  split at h
  · next lead second third rest =>
    split at h
    · next hfound =>
      cases h
      obtain ⟨hlead, hsecond, hthird, hlow⟩ := hfound
      have hrange := unitLength?_eq_three_iff.mp hlead
      have hunit := IsUnit.three hrange hsecond hthird (toNat_unitOfThree hrange hsecond hthird)
      exact ⟨[lead, second, third], rfl, rfl, hunit, hlow⟩
    · cases h
  · cases h

/-- To take a low surrogate along uses up bytes. -/
lemma length_lt_of_takeLow? {bytes behind : Bytes} {low : UInt16}
    (h : takeLow? bytes = some (low, behind)) : behind.length < bytes.length := by
  obtain ⟨front, rfl, hlength, -⟩ := exists_of_takeLow? h
  rw [List.length_append]
  omega

/-- Where no low surrogate is taken along, the next unit is none. -/
lemma not_isLow_of_takeLow? {bytes : Bytes} {units : List UInt16} (h : takeLow? bytes = none)
    (hunits : Spells bytes units) : ∀ next ∈ units.head?, ¬CodeUnit.IsLow next := by
  cases hunits with
  | nil => nofun
  | cons hunit _ =>
    rintro unit ⟨⟩ hlow
    cases hunit with
    | one hlead hunit =>
      unfold CodeUnit.IsLow at hlow
      omega
    | two hlead hsecond hunit =>
      unfold CodeUnit.IsLow at hlow
      unfold IsContinuation at hsecond
      omega
    | three hlead hsecond hthird hunit =>
      have heq := UInt16.toNat_inj.mp ((toNat_unitOfThree hlead hsecond hthird).trans hunit.symm)
      simp [takeLow?, unitLength?_eq_three_iff.mpr hlead, hsecond, hthird, heq, hlow] at h

/-- Reads the text of bytes that begin at the absolute position `offset`, behind the characters
`done`, which are held in reverse. -/
def scanOnto (offset : Nat) (done : List Char) (bytes : Bytes) : Except TextFault (List Char) :=
  match bytes with
  | [] => .ok done.reverse
  | lead :: rest =>
    match unitLength? lead, rest with
    | some 1, rest => scanOnto (offset + 1) (Char.ofNat lead.toNat :: done) rest
    | some 2, second :: rest =>
      if IsContinuation second then
        scanOnto (offset + 2) (Char.ofNat (unitOfTwo lead second).toNat :: done) rest
      else .error ⟨offset + 1, second⟩
    | some 3, [second] =>
      if IsContinuation second then .error ⟨offset, lead⟩ else .error ⟨offset + 1, second⟩
    | some 3, second :: third :: rest =>
      if IsContinuation second then
        if IsContinuation third then
          let unit := unitOfThree lead second third
          if CodeUnit.IsHigh unit then
            match h : takeLow? rest with
            | some (low, behind) =>
              have := length_lt_of_takeLow? h
              scanOnto (offset + 6) (CodeUnit.pair unit low :: done) behind
            | none => scanOnto (offset + 3) (CodeUnit.replacement :: done) rest
          else if CodeUnit.IsLow unit then scanOnto (offset + 3) (CodeUnit.replacement :: done) rest
          else scanOnto (offset + 3) (Char.ofNat unit.toNat :: done) rest
        else .error ⟨offset + 2, third⟩
      else .error ⟨offset + 1, second⟩
    | _, _ => .error ⟨offset, lead⟩
termination_by bytes.length

/-- The text of a byte string whose first byte has the absolute position `base`, in one pass. -/
def scan (base : Nat) (bytes : Bytes) : Except TextFault String :=
  (scanOnto base [] bytes).map String.ofList

/-! ## One pass and two -/

/-- Units that were scanned before all others stand in front of them. -/
lemma unitsOnto_append (offset : Nat) (done earlier : List UInt16) (bytes : Bytes) :
    unitsOnto offset (done ++ earlier) bytes =
      (unitsOnto offset done bytes).map (earlier.reverse ++ ·) := by
  fun_induction unitsOnto offset done bytes with
  | case1 => simp [unitsOnto, Except.map]
  | case2 _ _ _ _ hlead ih => rw [unitsOnto_of_one hlead, ← ih, List.cons_append]
  | case3 _ _ _ _ _ hlead hsecond ih => rw [unitsOnto_of_two hlead hsecond, ← ih, List.cons_append]
  | case7 _ _ _ _ _ _ hlead hsecond hthird ih =>
    rw [unitsOnto_of_three hlead hsecond hthird, ← ih, List.cons_append]
  | case4 _ _ _ _ _ hlead hsecond | case5 _ _ _ _ hlead hsecond | case6 _ _ _ _ hlead hsecond
  | case9 _ _ _ _ _ _ hlead hsecond => simp [unitsOnto, Except.map, hlead, hsecond]
  | case8 _ _ _ _ _ _ hlead hsecond hthird => simp [unitsOnto, Except.map, hlead, hsecond, hthird]
  | case10 => simp [unitsOnto, Except.map]

/-- The units of a byte string are the first one and the others. -/
lemma units_of_isUnit {front : Bytes} {unit : UInt16} (h : IsUnit front unit) (offset : Nat)
    (rest : Bytes) :
    units offset (front ++ rest) = (units (offset + front.length) rest).map (unit :: ·) := by
  rw [units, unitsOnto_of_isUnit h]
  exact unitsOnto_append _ [] [unit] rest

/-- A unit that stands alone is spelled when it is scanned, and a fault behind it stays. -/
lemma scan_alone {front rest : Bytes} {unit : UInt16} {c : Char} {offset : Nat}
    (hunit : IsUnit front unit)
    (hread : ∀ us, Spells rest us → CodeUnit.read (unit :: us) = c :: CodeUnit.read us)
    (done : List Char) :
    ((units (offset + front.length) rest).map fun us => (c :: done).reverse ++ CodeUnit.read us) =
      (units offset (front ++ rest)).map fun us => done.reverse ++ CodeUnit.read us := by
  rw [units_of_isUnit hunit]
  cases hfound : units (offset + front.length) rest with
  | error fault => rfl
  | ok us => simp [Except.map, hread us (units_eq_ok_iff.mp hfound)]

/-- A unit of three bytes that stands alone. -/
lemma scan_alone_of_three {lead second third : UInt8} {rest : Bytes} {c : Char} {offset : Nat}
    (hlead : unitLength? lead = some 3) (hsecond : IsContinuation second)
    (hthird : IsContinuation third)
    (hread : ∀ us, Spells rest us →
      CodeUnit.read (unitOfThree lead second third :: us) = c :: CodeUnit.read us)
    (done : List Char) :
    ((units (offset + 3) rest).map fun us => (c :: done).reverse ++ CodeUnit.read us) =
      (units offset (lead :: second :: third :: rest)).map fun us =>
        done.reverse ++ CodeUnit.read us := by
  have hrange := unitLength?_eq_three_iff.mp hlead
  exact scan_alone
    (.three hrange hsecond hthird (toNat_unitOfThree hrange hsecond hthird)) hread done

/-- Reading in one pass is scanning the units and reading them.

**Proof sketch.** Induction along the one pass. A unit below the surrogates stands alone. Behind a
high surrogate either the next unit is a low one and both are passed together, or the next unit that
a scan finds is no low surrogate, so that the high one stands alone. Faults are the same, step by
step. -/
theorem scanOnto_eq (offset : Nat) (done : List Char) (bytes : Bytes) :
    scanOnto offset done bytes =
      (units offset bytes).map fun us => done.reverse ++ CodeUnit.read us := by
  fun_induction scanOnto offset done bytes with
  | case1 => simp [units, unitsOnto, Except.map]
  | case2 offset done lead rest hlead ih =>
    have hrange := unitLength?_eq_one_iff.mp hlead
    have hunit := toNat_unitOfOne lead
    rw [ih]
    refine scan_alone (.one hrange hunit) (fun us _ => ?_) done
    rw [CodeUnit.read_cons_of_lt (by omega), hunit]
  | case3 offset done lead second rest hlead hsecond ih =>
    have hrange := unitLength?_eq_two_iff.mp hlead
    have hunit := toNat_unitOfTwo hrange hsecond
    rw [ih]
    refine scan_alone (.two hrange hsecond hunit) (fun us _ => CodeUnit.read_cons_of_lt ?_) done
    unfold IsContinuation at hsecond
    omega
  | case7 offset done lead second third rest hlead hsecond hthird unit hhigh low behind hlow _ ih =>
    obtain ⟨front, rfl, hlength, hfront, hislow⟩ := exists_of_takeLow? hlow
    have hrange := unitLength?_eq_three_iff.mp hlead
    have hunit := IsUnit.three hrange hsecond hthird (toNat_unitOfThree hrange hsecond hthird)
    have hunits : units offset (lead :: second :: third :: (front ++ behind)) =
        ((units (offset + 6) behind).map (low :: ·)).map (unit :: ·) := by
      have hboth := units_of_isUnit hunit offset (front ++ behind)
      rwa [units_of_isUnit hfront, hlength] at hboth
    rw [ih, hunits]
    cases units (offset + 6) behind with
    | error fault => rfl
    | ok us => simp [Except.map, CodeUnit.read_cons_cons_of_pair us ⟨hhigh, hislow⟩]
  | case8 offset done lead second third rest hlead hsecond hthird unit hhigh hlow ih =>
    rw [ih]
    refine scan_alone_of_three hlead hsecond hthird (fun us hus => ?_) done
    rw [CodeUnit.read_cons_of_not_pair fun _ => not_isLow_of_takeLow? hlow hus]
    rw [CodeUnit.alone_of_isHigh hhigh]
    rfl
  | case9 offset done lead second third rest hlead hsecond hthird unit hhigh hlow ih =>
    rw [ih]
    refine scan_alone_of_three hlead hsecond hthird (fun us _ => ?_) done
    rw [CodeUnit.read_cons_of_not_isHigh hhigh, CodeUnit.alone_of_isLow hlow]
    rfl
  | case10 offset done lead second third rest hlead hsecond hthird unit hhigh hlow ih =>
    rw [ih]
    refine scan_alone_of_three hlead hsecond hthird (fun us _ => ?_) done
    rw [CodeUnit.read_cons_of_not_isHigh hhigh, CodeUnit.alone_of_not hhigh hlow]
  | case4 _ _ _ _ _ hlead hsecond | case5 _ _ _ _ hlead hsecond | case6 _ _ _ _ hlead hsecond
  | case12 _ _ _ _ _ _ hlead hsecond => simp [units, unitsOnto, Except.map, hlead, hsecond]
  | case11 _ _ _ _ _ _ hlead hsecond hthird =>
    simp [units, unitsOnto, Except.map, hlead, hsecond, hthird]
  | case13 => simp [units, unitsOnto, Except.map]

/-- One pass does what two do. -/
theorem scan_eq_spell (base : Nat) (bytes : Bytes) : scan base bytes = spell base bytes := by
  unfold scan spell
  rw [scanOnto_eq]
  cases units base bytes <;> rfl

/-- **Which byte strings are texts.** A byte string is a text exactly if it can be cut into units,
which is possible in one way at most, and the text is what these units spell. To read it in one pass
gives the same text, or blames the same byte. -/
theorem decode_iff_spells (base : Nat) (bytes : Bytes) :
    ((∃ reading, decode base bytes = .ok reading) ↔ ∃ us, Spells bytes us) ∧
    (∀ text, (∃ verbatim, decode base bytes = .ok ⟨text, verbatim⟩) ↔
      ∃ us, Spells bytes us ∧ CodeUnit.ReadsAs us text.toList) ∧
    (∀ us us', Spells bytes us → Spells bytes us' → us = us') ∧
    (decode base bytes).map Reading.text = scan base bytes := by
  have htext : ∀ text, (∃ verbatim, decode base bytes = .ok ⟨text, verbatim⟩) ↔
      spell base bytes = .ok text := by
    intro text
    rw [← text_decode]
    constructor
    · rintro ⟨verbatim, h⟩
      rw [h]
      rfl
    · intro h
      cases hdecode : decode base bytes with
      | error fault =>
        rw [hdecode] at h
        cases h
      | ok reading =>
        rw [hdecode] at h
        cases h
        exact ⟨reading.verbatim, rfl⟩
  refine ⟨?_, fun text => (htext text).trans spell_eq_ok_iff, fun us us' => Spells.unique, ?_⟩
  · constructor
    · rintro ⟨⟨text, verbatim⟩, h⟩
      obtain ⟨us, hus, -⟩ := spell_eq_ok_iff.mp ((htext text).mp ⟨verbatim, h⟩)
      exact ⟨us, hus⟩
    · rintro ⟨us, hus⟩
      have hread : CodeUnit.ReadsAs us (String.ofList (CodeUnit.read us)).toList :=
        CodeUnit.readsAs_iff.mpr String.toList_ofList.symm
      obtain ⟨verbatim, h⟩ := (htext _).mpr (spell_eq_ok_iff.mpr ⟨us, hus, hread⟩)
      exact ⟨_, h⟩
  · rw [scan_eq_spell, text_decode]

end ClassFormat.Modified
