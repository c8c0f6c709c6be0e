import ClassFormat.Pool.Basic
import Mathlib.Tactic.Lemma

/-!
# What references find

A reference into the pool is followed by a function that can fail. This module says what the pool
has to hold for it to succeed, and which faults it can end with.

## Main definitions

* `ClassFormat.Pool.Holds`, `ClassFormat.Pool.HoldsLabel` — the slot of an index holds a constant,
  and a constant that refers to a text.
* `ClassFormat.Fault.IsReference`, `ClassFormat.Refers` — the faults of a reference that cannot be
  followed, and a look-up that has no others.

## Main results

* `ClassFormat.Pool.utf8_eq_ok_iff`, `ClassFormat.Pool.label_eq_ok_iff` — a text is found exactly if
  the pool holds it.
* `ClassFormat.Pool.refers_className`, `ClassFormat.Pool.refers_verify` — names of classes, and the
  check of all references, fail with the faults of references only.
-/

namespace ClassFormat

section Steps

variable {ε α β : Type} {first : Except ε α} {next : α → Except ε β}

/-- Two steps give a value if the second one does, from what the first one gave. -/
lemma bind_eq_ok_iff {value : β} :
    (first >>= next) = .ok value ↔ ∃ middle, first = .ok middle ∧ next middle = .ok value := by
  cases first <;> simp [bind, Except.bind]

/-- Two steps fail if one of them does. -/
lemma bind_eq_error_iff {fault : ε} :
    (first >>= next) = .error fault ↔
      first = .error fault ∨ ∃ middle, first = .ok middle ∧ next middle = .error fault := by
  cases first <;> simp [bind, Except.bind]

end Steps

namespace Pool

variable {pool : Pool} {index : Index}

/-- The slot of an index holds a constant. -/
def Holds (pool : Pool) (index : Index) (constant : Constant) : Prop :=
  index ≠ 0 ∧ pool.slots[index.toNat - 1]? = some (.entry constant)

/-- What an index of the pool holds is unique. -/
lemma Holds.unique {a b : Constant} (ha : pool.Holds index a) (hb : pool.Holds index b) :
    a = b := by
  have heq := ha.2.symm.trans hb.2
  cases heq
  rfl

/-- The slot of an index holds a constant of the given kind, which refers to a text. -/
def HoldsLabel (pool : Pool) (kind : LabelKind) (index : Index) (text : String) : Prop :=
  ∃ textIndex, pool.Holds index (.label kind textIndex) ∧ pool.Holds textIndex (.utf8 text)

/-- No label stands at index zero. -/
lemma HoldsLabel.ne_zero {pool : Pool} {kind : LabelKind} {index : Index} {text : String}
    (h : pool.HoldsLabel kind index text) : index ≠ 0 := by
  obtain ⟨_, hlabel, _⟩ := h
  exact hlabel.1

/-- What a pool holds at an index can be looked up. -/
instance (pool : Pool) (index : Index) (constant : Constant) :
    Decidable (pool.Holds index constant) :=
  inferInstanceAs (Decidable (_ ∧ _))

/-! ## References that are followed -/

/-- A look-up gives the constant that the pool holds. -/
lemma get_eq_ok_iff {constant : Constant} :
    pool.get index = .ok constant ↔ pool.Holds index constant := by
  unfold get Holds
  by_cases hzero : index = 0
  · simp [hzero]
  · rw [if_neg hzero]
    split <;> simp_all

/-- A reference is resolved to the constant that the pool holds, whatever was expected. -/
lemma resolve_eq_ok_iff {expected : Expectation} {constant : Constant} :
    pool.resolve expected index = .ok constant ↔ pool.Holds index constant := by
  rw [← get_eq_ok_iff, resolve]
  split <;> simp_all

/-- A reference is followed to what is selected from the constant that the pool holds. -/
lemma follow_eq_ok_iff {α : Type} {expected : Expectation} {select : Constant → Option α}
    {found : α} :
    pool.follow expected select index = .ok found ↔
      ∃ constant, pool.Holds index constant ∧ select constant = some found := by
  unfold follow
  rw [bind_eq_ok_iff]
  refine exists_congr fun constant => ?_
  rw [resolve_eq_ok_iff]
  refine and_congr_right fun _ => ?_
  cases select constant with
  | none => exact iff_of_false nofun nofun
  | some value => simp [pure, Except.pure]

/-- A text is found exactly if the slot holds it. -/
theorem utf8_eq_ok_iff {text : String} :
    pool.utf8 index = .ok text ↔ pool.Holds index (.utf8 text) := by
  rw [utf8, follow_eq_ok_iff]
  constructor
  · rintro ⟨constant, hholds, htext⟩
    cases constant <;> cases htext
    exact hholds
  · exact fun hholds => ⟨_, hholds, rfl⟩

/-- The text behind a constant of some kind is found exactly if the pool holds both. -/
theorem label_eq_ok_iff {kind : LabelKind} {text : String} :
    pool.label kind index = .ok text ↔ pool.HoldsLabel kind index text := by
  unfold label HoldsLabel
  rw [bind_eq_ok_iff]
  refine exists_congr fun textIndex => and_congr ?_ utf8_eq_ok_iff
  rw [follow_eq_ok_iff]
  constructor
  · rintro ⟨constant, hholds, hselect⟩
    cases constant with
    | label found text =>
      dsimp only at hselect
      split at hselect
      · next hkind =>
        cases hselect
        exact hkind ▸ hholds
      · cases hselect
    | _ => cases hselect
  · exact fun hholds => ⟨_, hholds, if_pos rfl⟩

end Pool

/-! ## References that cannot be followed -/

/-- The faults of a reference that cannot be followed: it finds nothing, another constant than
expected, or the second half of one. -/
def Fault.IsReference : Fault → Prop
  | badReference .. | malformedPool (.upperHalf _) => True
  | _ => False

/-- A look-up whose faults are those of references. -/
def Refers {α : Type} (found : Except Fault α) : Prop :=
  ∀ fault, found = .error fault → fault.IsReference

section Refers

variable {α β : Type}

/-- A success has no fault. -/
lemma refers_ok (value : α) : Refers (.ok value) :=
  nofun

/-- Two look-ups in a row fail as references do if both do. -/
lemma Refers.bind {first : Except Fault α} {next : α → Except Fault β} (hfirst : Refers first)
    (hnext : ∀ value, Refers (next value)) : Refers (first >>= next) := by
  intro fault hfault
  rcases bind_eq_error_iff.mp hfault with herror | ⟨value, _, herror⟩
  · exact hfirst fault herror
  · exact hnext value fault herror

/-- A look-up whose value is not used fails as it would otherwise. -/
lemma Refers.discard {found : Except Fault α} (h : Refers found) : Refers (discard found) := by
  cases found with
  | ok value => exact refers_ok _
  | error fault =>
    intro fault' hfault
    cases hfault
    exact h fault rfl

end Refers

namespace Pool

variable (pool : Pool)

/-- A reference that is not resolved fails as references do. -/
lemma refers_resolve (expected : Expectation) (index : Index) :
    Refers (pool.resolve expected index) := by
  intro fault hfault
  unfold resolve at hfault
  split at hfault <;> cases hfault <;> trivial

/-- A reference that is not followed fails as references do. -/
lemma refers_follow {α : Type} (expected : Expectation) (select : Constant → Option α)
    (index : Index) : Refers (pool.follow expected select index) := by
  refine (pool.refers_resolve expected index).bind fun constant => ?_
  cases select constant with
  | some found => exact refers_ok found
  | none =>
    rintro fault ⟨⟩
    trivial

/-- A text that is not found fails as references do. -/
lemma refers_utf8 (index : Index) : Refers (pool.utf8 index) :=
  pool.refers_follow _ _ index

/-- A label that is not found fails as references do. -/
lemma refers_label (kind : LabelKind) (index : Index) : Refers (pool.label kind index) :=
  (pool.refers_follow _ _ index).bind pool.refers_utf8

/-- The name of a class that is not found fails as references do. -/
lemma refers_className (index : Index) : Refers (pool.className index) :=
  pool.refers_label .classInfo index

/-- A name and type that are not found fail as references do. -/
lemma refers_nameAndType (index : Index) : Refers (pool.nameAndType index) := by
  refine (pool.refers_follow _ _ index).bind ?_
  rintro ⟨name, descriptor⟩
  refine (pool.refers_utf8 name).bind fun nameText => ?_
  exact (pool.refers_utf8 descriptor).bind fun descriptorText => refers_ok _

/-- A member that is not found fails as references do. -/
lemma refers_memberRef (index : Index) : Refers (pool.memberRef index) := by
  refine (pool.refers_follow _ _ index).bind ?_
  rintro ⟨owner, signature⟩
  refine (pool.refers_nameAndType signature).bind ?_
  rintro ⟨name, descriptor⟩
  exact (pool.refers_className owner).bind fun ownerName => refers_ok _

/-- An entry that does not pass its check fails as references do. -/
lemma refers_verifyEntry (index : Index) (constant : Constant) :
    Refers (pool.verifyEntry index constant) := by
  cases constant with
  | utf8 | integer | float | long | double => exact refers_ok ()
  | label kind text => exact (pool.refers_utf8 text).discard
  | member kind owner signature => exact (pool.refers_memberRef index).discard
  | nameAndType name descriptor => exact (pool.refers_nameAndType index).discard
  | dynamic kind bootstrap signature => exact (pool.refers_nameAndType signature).discard
  | methodHandle kind reference =>
    refine (pool.refers_follow _ _ reference).bind fun _ => ?_
    exact (pool.refers_memberRef reference).discard

/-- The check of all references fails with the faults of references only. -/
theorem refers_verify : Refers pool.verify := by
  unfold verify
  induction pool.entries with
  | nil => exact refers_ok ()
  | cons entry entries ih => exact (pool.refers_verifyEntry entry.1 entry.2).bind fun _ => ih

end Pool

end ClassFormat
