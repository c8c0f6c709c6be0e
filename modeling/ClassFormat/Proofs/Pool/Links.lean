import ClassFormat.Proofs.Pool.Slots

/-!
# Links between constants

A constant refers to others by their indices, and these refer on, down to texts. Each such link can
fail in four ways: at the index zero, behind the last slot, at the second half of a wide constant,
and at a constant of another kind. This module says, for each way of following links, what the pool
holds where it succeeds, and which link is reported where it does not: always the first one that is
broken, by its own index.

## Main definitions

* `ClassFormat.Pool.Broken` — a link that cannot be followed, and the fault that says so.
* `ClassFormat.Pool.HoldsNameAndType`, `ClassFormat.Pool.HoldsMember` — constants with all that they
  refer to.
* `ClassFormat.Pool.LabelFault`, `ClassFormat.Pool.NameAndTypeFault`, `ClassFormat.Pool.MemberFault`
  — the first broken link on the way.

## Main results

* `ClassFormat.Pool.Numbered.broken_or_holds` — a link is broken or finds what it should.
* `ClassFormat.Pool.Numbered.follow_eq_error_iff` — following a link reports how it is broken.
* `ClassFormat.Pool.Numbered.label_eq_error_iff`,
  `ClassFormat.Pool.Numbered.nameAndType_eq_error_iff`,
  `ClassFormat.Pool.Numbered.memberRef_eq_error_iff` — following several links reports the first
  broken one.
* `ClassFormat.Pool.memberRef_of_reader` — which members are found in a pool that is read, and what
  is reported for the others.
-/

namespace ClassFormat

/-- A kind of members, one of those that are allowed. -/
def Kind.IsMember (allowed : MemberKind → Prop) (kind : Kind) : Prop :=
  ∃ member, allowed member ∧ kind = .member member

namespace Pool

variable {pool : Pool} {index : Index} {declared : UInt16} {fault : Fault}

/-! ## One link -/

/-- A link to a constant of a kind that fits cannot be followed: its index names no slot, the second
half of a wide constant, or a constant of another kind. -/
inductive Broken (pool : Pool) (expected : Expectation) (fits : Kind → Prop) (index : Index) :
    Fault → Prop
  | nothing : index = 0 ∨ pool.size < index.toNat →
      Broken pool expected fits index (.badReference index expected .nothing)
  | upperHalf {place : Nat} : index.toNat = place + 2 → pool.WideAt place →
      Broken pool expected fits index (.malformedPool (.upperHalf index))
  | otherKind {constant : Constant} : pool.Holds index constant → ¬fits constant.kind →
      Broken pool expected fits index (.badReference index expected (.ofKind constant.kind))

/-- A link to a constant of one kind cannot be followed. -/
abbrev BrokenTo (pool : Pool) (kind : Kind) (index : Index) (fault : Fault) : Prop :=
  pool.Broken (.ofKind kind) (· = kind) index fault

/-- Every link is broken, or finds a constant of a kind that fits. -/
lemma Numbered.broken_or_holds (h : pool.Numbered declared) (expected : Expectation)
    (fits : Kind → Prop) (index : Index) :
    (∃ fault, pool.Broken expected fits index fault) ∨
      ∃ constant, pool.Holds index constant ∧ fits constant.kind := by
  by_cases hnothing : index = 0 ∨ pool.size < index.toNat
  · exact .inl ⟨_, .nothing hnothing⟩
  by_cases hwide : ∃ place, index.toNat = place + 2 ∧ pool.WideAt place
  · obtain ⟨place, hplace, hat⟩ := hwide
    exact .inl ⟨_, .upperHalf hplace hat⟩
  obtain ⟨hzero, hle⟩ := not_or.mp hnothing
  have hpositive : index.toNat ≠ 0 := fun h => hzero (UInt16.toNat_inj.mp h)
  obtain ⟨constant, -, hget⟩ := h.get_otherwise index (index.toNat - 1) (by omega) (by omega)
    fun before hbefore hat => hwide ⟨before, by omega, hat⟩
  by_cases hfits : fits constant.kind
  · exact .inr ⟨constant, get_eq_ok_iff.mp hget, hfits⟩
  · exact .inl ⟨_, .otherKind (get_eq_ok_iff.mp hget) hfits⟩

section Follow

variable {α β : Type} {expected : Expectation} {select : Constant → Option α} {fits : Kind → Prop}

/-- A link that is broken is reported as such. -/
lemma Numbered.follow_of_broken (h : pool.Numbered declared)
    (hfits : ∀ constant, (select constant).isSome = true ↔ fits constant.kind)
    (hbroken : pool.Broken expected fits index fault) :
    pool.follow expected select index = .error fault := by
  have herror : ∀ fault, pool.resolve expected index = .error fault →
      pool.follow expected select index = .error fault :=
    fun fault hfault => bind_eq_error_iff.mpr (.inl hfault)
  cases hbroken with
  | nothing hnothing =>
    apply herror
    unfold resolve
    obtain rfl | hbeyond := hnothing
    · rw [h.get_zero]
    · rw [h.get_beyond index hbeyond]
  | upperHalf hplace hwide =>
    apply herror
    unfold resolve
    rw [h.get_behind_wide index _ hplace hwide]
  | @otherKind constant hholds hkind =>
    refine bind_eq_error_iff.mpr (.inr ⟨constant, resolve_eq_ok_iff.mpr hholds, ?_⟩)
    rw [← hfits, Option.not_isSome_iff_eq_none] at hkind
    rw [hkind]
    rfl

/-- A look-up that reports a broken link fails with this report, or behind the link. -/
lemma Numbered.broken_or_holds_of_error (h : pool.Numbered declared) {found : Except Fault β}
    (hreports : ∀ fault, pool.Broken expected fits index fault → found = .error fault)
    (hfault : found = .error fault) :
    pool.Broken expected fits index fault ∨
    ∃ constant, pool.Holds index constant ∧ fits constant.kind := by
  obtain ⟨other, hbroken⟩ | hholds := h.broken_or_holds expected fits index
  · cases hfault.symm.trans (hreports other hbroken)
    exact .inl hbroken
  · exact .inr hholds

/-- A look-up that reports a broken link, and finds something behind a link that is not, fails
exactly if the link is broken. -/
lemma Numbered.eq_error_iff_broken (h : pool.Numbered declared) {found : Except Fault β}
    (hreports : ∀ fault, pool.Broken expected fits index fault → found = .error fault)
    (hfinds : ∀ constant, pool.Holds index constant → fits constant.kind →
      ∃ value, found = .ok value) :
    found = .error fault ↔ pool.Broken expected fits index fault := by
  refine ⟨fun hfault => ?_, hreports fault⟩
  obtain hbroken | ⟨constant, hholds, hkind⟩ := h.broken_or_holds_of_error hreports hfault
  · exact hbroken
  · obtain ⟨value, hvalue⟩ := hfinds constant hholds hkind
    cases hfault.symm.trans hvalue

/-- A link cannot be followed exactly if it is broken. -/
lemma Numbered.follow_eq_error_iff (h : pool.Numbered declared)
    (hfits : ∀ constant, (select constant).isSome = true ↔ fits constant.kind) :
    pool.follow expected select index = .error fault ↔ pool.Broken expected fits index fault := by
  refine h.eq_error_iff_broken
    (fun fault => h.follow_of_broken hfits) fun constant hholds hkind => ?_
  obtain ⟨value, hvalue⟩ := Option.isSome_iff_exists.mp ((hfits constant).mpr hkind)
  exact ⟨value, follow_eq_ok_iff.mpr ⟨constant, hholds, hvalue⟩⟩

/-- What is done with a constant that a link finds. -/
lemma bind_follow_of_holds {constant : Constant} {next : α → Except Fault β} (value : α)
    (hholds : pool.Holds index constant) (hselect : select constant = some value) :
    (pool.follow expected select index >>= next) = next value := by
  rw [follow_eq_ok_iff.mpr ⟨constant, hholds, hselect⟩]
  rfl

/-- Nothing is done behind a broken link. -/
lemma Numbered.bind_follow_of_broken (h : pool.Numbered declared) {next : α → Except Fault β}
    (hfits : ∀ constant, (select constant).isSome = true ↔ fits constant.kind)
    (hbroken : pool.Broken expected fits index fault) :
    (pool.follow expected select index >>= next) = .error fault := by
  rw [h.follow_of_broken hfits hbroken]
  rfl

end Follow

/-- A text is not found exactly if the link to it is broken. -/
lemma Numbered.utf8_eq_error_iff (h : pool.Numbered declared) :
    pool.utf8 index = .error fault ↔ pool.BrokenTo .utf8 index fault :=
  h.follow_eq_error_iff fun constant => by cases constant <;> simp [Constant.text?, Constant.kind]

/-! ## Labels -/

section Labels

variable {kind : LabelKind}

/-- Why the text behind a constant of some kind is not found, in the order of the links. -/
inductive LabelFault (pool : Pool) (kind : LabelKind) (index : Index) (fault : Fault) : Prop
  | entry : pool.BrokenTo (.label kind) index fault → LabelFault pool kind index fault
  | text {text : Index} : pool.Holds index (.label kind text) → pool.BrokenTo .utf8 text fault →
      LabelFault pool kind index fault

/-- A label cannot be looked up where its own link is broken. -/
lemma Numbered.label_of_broken (h : pool.Numbered declared)
    (hbroken : pool.BrokenTo (.label kind) index fault) : pool.label kind index = .error fault := by
  refine h.bind_follow_of_broken (fun constant => ?_) hbroken
  cases constant <;> simp [Constant.kind]

/-- A label that is found leaves its text to look up. -/
lemma label_of_holds {text : Index} (hholds : pool.Holds index (.label kind text)) :
    pool.label kind index = pool.utf8 text :=
  bind_follow_of_holds text hholds (if_pos rfl)

/-- The look-up of a label fails with the first of its two links that is broken. -/
lemma Numbered.label_eq_error_iff (h : pool.Numbered declared) :
    pool.label kind index = .error fault ↔ pool.LabelFault kind index fault := by
  constructor
  · intro hfault
    obtain hbroken | ⟨constant, hholds, hkind⟩ :=
      h.broken_or_holds_of_error (fun _ => h.label_of_broken) hfault
    · exact .entry hbroken
    · cases constant <;> cases hkind
      exact .text hholds (h.utf8_eq_error_iff.mp ((label_of_holds hholds).symm.trans hfault))
  · rintro (hbroken | ⟨hholds, hbroken⟩)
    · exact h.label_of_broken hbroken
    · rw [label_of_holds hholds]
      exact h.utf8_eq_error_iff.mpr hbroken

end Labels

/-! ## Names and types -/

/-- The slot of an index holds a name and a descriptor, both of which are texts. -/
def HoldsNameAndType (pool : Pool) (index : Index) (texts : String × String) : Prop :=
  ∃ name descriptor, pool.Holds index (.nameAndType name descriptor) ∧
    pool.Holds name (.utf8 texts.1) ∧ pool.Holds descriptor (.utf8 texts.2)

/-- Why a name and a descriptor are not found, in the order of the links. -/
inductive NameAndTypeFault (pool : Pool) (index : Index) (fault : Fault) : Prop
  | entry : pool.BrokenTo .nameAndType index fault → NameAndTypeFault pool index fault
  | name {name descriptor : Index} : pool.Holds index (.nameAndType name descriptor) →
      pool.BrokenTo .utf8 name fault → NameAndTypeFault pool index fault
  | descriptor {name descriptor : Index} {text : String} :
      pool.Holds index (.nameAndType name descriptor) → pool.Holds name (.utf8 text) →
      pool.BrokenTo .utf8 descriptor fault → NameAndTypeFault pool index fault

/-- A name and type cannot be looked up where the link to them is broken. -/
lemma Numbered.nameAndType_of_broken (h : pool.Numbered declared)
    (hbroken : pool.BrokenTo .nameAndType index fault) : pool.nameAndType index = .error fault := by
  refine h.bind_follow_of_broken (fun constant => ?_) hbroken
  cases constant <;> simp [Constant.kind]

/-- A name and type that are found leave two texts to look up, the name first. -/
lemma nameAndType_of_holds {name descriptor : Index}
    (hholds : pool.Holds index (.nameAndType name descriptor)) :
    pool.nameAndType index = (do return (← pool.utf8 name, ← pool.utf8 descriptor)) :=
  bind_follow_of_holds (name, descriptor) hholds rfl

/-- The look-up of a name and type succeeds exactly if the pool holds them. -/
lemma nameAndType_eq_ok_iff {texts : String × String} :
    pool.nameAndType index = .ok texts ↔ pool.HoldsNameAndType index texts := by
  constructor
  · intro htexts
    obtain ⟨indices, hfollow, hrest⟩ := bind_eq_ok_iff.mp htexts
    obtain ⟨constant, hholds, hselect⟩ := follow_eq_ok_iff.mp hfollow
    cases constant <;> cases hselect
    obtain ⟨_, hname, hrest⟩ := bind_eq_ok_iff.mp hrest
    obtain ⟨_, hdescriptor, hreturn⟩ := bind_eq_ok_iff.mp hrest
    cases hreturn
    exact ⟨_, _, hholds, utf8_eq_ok_iff.mp hname, utf8_eq_ok_iff.mp hdescriptor⟩
  · rintro ⟨_, _, hholds, hname, hdescriptor⟩
    rw [nameAndType_of_holds hholds, utf8_eq_ok_iff.mpr hname, utf8_eq_ok_iff.mpr hdescriptor]
    rfl

/-- The look-up of a name and type fails with the first of its links that is broken. -/
lemma Numbered.nameAndType_eq_error_iff (h : pool.Numbered declared) :
    pool.nameAndType index = .error fault ↔ pool.NameAndTypeFault index fault := by
  constructor
  · intro hfault
    obtain hbroken | ⟨constant, hholds, hkind⟩ :=
      h.broken_or_holds_of_error (fun _ => h.nameAndType_of_broken) hfault
    · exact .entry hbroken
    · cases constant <;> cases hkind
      rw [nameAndType_of_holds hholds, bind_eq_error_iff] at hfault
      obtain hname | ⟨name, hname, hdescriptor⟩ := hfault
      · exact .name hholds (h.utf8_eq_error_iff.mp hname)
      · obtain hdescriptor | ⟨descriptor, -, hpair⟩ := bind_eq_error_iff.mp hdescriptor
        · exact .descriptor hholds (utf8_eq_ok_iff.mp hname) (h.utf8_eq_error_iff.mp hdescriptor)
        · cases hpair
  · rintro (hbroken | ⟨hholds, hbroken⟩ | ⟨hholds, hname, hbroken⟩)
    · exact h.nameAndType_of_broken hbroken
    · rw [nameAndType_of_holds hholds, h.utf8_eq_error_iff.mpr hbroken]
      rfl
    · rw [nameAndType_of_holds hholds, utf8_eq_ok_iff.mpr hname, h.utf8_eq_error_iff.mpr hbroken]
      rfl

/-! ## Members -/

/-- The slot of an index holds a member of some kind, whose class, name and descriptor are found. -/
def HoldsMember (pool : Pool) (kind : MemberKind) (index : Index) (member : MemberRef) : Prop :=
  ∃ owner signature, pool.Holds index (.member kind owner signature) ∧
    pool.HoldsLabel .classInfo owner member.owner ∧
    pool.HoldsNameAndType signature (member.name, member.descriptor)

/-- A link to a member of a kind that is allowed cannot be followed. -/
abbrev BrokenToMember (pool : Pool) (allowed : MemberKind → Prop) (index : Index) (fault : Fault) :
    Prop :=
  pool.Broken .memberReference (Kind.IsMember allowed) index fault

/-- Why a member is not found, in the order of the links: the name and the descriptor are followed
before the class. -/
inductive MemberFault (pool : Pool) (index : Index) (fault : Fault) : Prop
  | entry : pool.BrokenToMember (fun _ => True) index fault → MemberFault pool index fault
  | signature {kind : MemberKind} {owner signature : Index} :
      pool.Holds index (.member kind owner signature) →
      pool.NameAndTypeFault signature fault → MemberFault pool index fault
  | owner {kind : MemberKind} {owner signature : Index} {texts : String × String} :
      pool.Holds index (.member kind owner signature) → pool.HoldsNameAndType signature texts →
      pool.LabelFault .classInfo owner fault → MemberFault pool index fault

/-- A member cannot be looked up where the link to it is broken. -/
lemma Numbered.memberRef_of_broken (h : pool.Numbered declared)
    (hbroken : pool.BrokenToMember (fun _ => True) index fault) :
    pool.memberRef index = .error fault := by
  refine h.bind_follow_of_broken (fun constant => ?_) hbroken
  cases constant <;> simp [Constant.kind, Kind.IsMember]

/-- A member that is found leaves its name and type to look up, and then its class. -/
lemma memberRef_of_holds {kind : MemberKind} {owner signature : Index}
    (hholds : pool.Holds index (.member kind owner signature)) :
    pool.memberRef index = (do
      let texts ← pool.nameAndType signature
      return ⟨← pool.className owner, texts.1, texts.2⟩) :=
  bind_follow_of_holds (owner, signature) hholds rfl

/-- The look-up of a member succeeds exactly if the pool holds it. -/
lemma memberRef_eq_ok_iff {member : MemberRef} :
    pool.memberRef index = .ok member ↔ ∃ kind, pool.HoldsMember kind index member := by
  constructor
  · intro hmember
    obtain ⟨indices, hfollow, hrest⟩ := bind_eq_ok_iff.mp hmember
    obtain ⟨constant, hholds, hselect⟩ := follow_eq_ok_iff.mp hfollow
    cases constant <;> cases hselect
    obtain ⟨_, hsignature, hrest⟩ := bind_eq_ok_iff.mp hrest
    obtain ⟨_, howner, hreturn⟩ := bind_eq_ok_iff.mp hrest
    cases hreturn
    exact ⟨_, _, _, hholds, label_eq_ok_iff.mp howner, nameAndType_eq_ok_iff.mp hsignature⟩
  · rintro ⟨_, _, _, hholds, howner, hsignature⟩
    rw [memberRef_of_holds hholds, nameAndType_eq_ok_iff.mpr hsignature, className,
      label_eq_ok_iff.mpr howner]
    rfl

/-- The look-up of a member fails with the first of its links that is broken. -/
lemma Numbered.memberRef_eq_error_iff (h : pool.Numbered declared) :
    pool.memberRef index = .error fault ↔ pool.MemberFault index fault := by
  constructor
  · intro hfault
    obtain hbroken | ⟨constant, hholds, _, -, hkind⟩ :=
      h.broken_or_holds_of_error (fun _ => h.memberRef_of_broken) hfault
    · exact .entry hbroken
    · cases constant <;> cases hkind
      rw [memberRef_of_holds hholds, bind_eq_error_iff] at hfault
      obtain hsignature | ⟨_, hsignature, howner⟩ := hfault
      · exact .signature hholds (h.nameAndType_eq_error_iff.mp hsignature)
      · obtain howner | ⟨_, -, hreturn⟩ := bind_eq_error_iff.mp howner
        · exact .owner hholds (nameAndType_eq_ok_iff.mp hsignature) (h.label_eq_error_iff.mp howner)
        · cases hreturn
  · rintro (hbroken | ⟨hholds, hsignature⟩ | ⟨hholds, hsignature, howner⟩)
    · exact h.memberRef_of_broken hbroken
    · rw [memberRef_of_holds hholds, h.nameAndType_eq_error_iff.mpr hsignature]
      rfl
    · rw [memberRef_of_holds hholds, nameAndType_eq_ok_iff.mpr hsignature, className,
        h.label_eq_error_iff.mpr howner]
      rfl

/-! ## Pools that are read -/

/-- The slots of a pool that is read are numbered by its count. -/
lemma exists_numbered_of_reader {start : Cursor} (h : (reader start).result = .ok pool) :
    ∃ declared, pool.Numbered declared := by
  obtain ⟨-, declared, -, hsize, hpaired, hends⟩ := ensures_reader start pool h
  exact ⟨declared, hpaired.numbered hends hsize⟩

/-- **Members that are found, and those that are not.** In a pool that is read, a member is found
exactly if its index leads to a field, method or interface method whose class, name and descriptor
are held too. Otherwise the first broken link is reported: that to the member, to its name and type,
to the name, to the descriptor, to the class, or to the name of the class. -/
theorem memberRef_of_reader {start : Cursor} (h : (reader start).result = .ok pool)
    (index : Index) :
    (∀ member, pool.memberRef index = .ok member ↔ ∃ kind, pool.HoldsMember kind index member) ∧
    ∀ fault, pool.memberRef index = .error fault ↔ pool.MemberFault index fault := by
  obtain ⟨declared, hnumbered⟩ := exists_numbered_of_reader h
  exact ⟨fun member => memberRef_eq_ok_iff, fun fault => hnumbered.memberRef_eq_error_iff⟩

/-- A method whose class is the second half of a long constant. -/
theorem memberRef_of_reader_upperHalf :
    ∃ pool,
      (reader (.ofBytes
        [0, 6, 10, 0, 3, 0, 4, 5, 0, 0, 0, 0, 0, 0, 0, 7, 12, 0, 5, 0, 5, 1, 0, 1, 109])).result =
        .ok pool ∧
      pool.memberRef 1 = .error (.malformedPool (.upperHalf 3)) ∧
      pool.memberRef 2 = .error (.badReference 2 .memberReference (.ofKind .long)) ∧
      pool.memberRef 6 = .error (.badReference 6 .memberReference .nothing) ∧
      (Fault.badReference 6 .memberReference .nothing).message =
        "constant pool entry #6 is nothing, expected member reference" := by
  let pool : Pool :=
    ⟨#[.entry (.member .method 3 4), .entry (.long 7), .upperHalf, .entry (.nameAndType 5 5),
    .entry (.utf8 "m")], 25⟩
  have hread :
      (reader (.ofBytes
        [0, 6, 10, 0, 3, 0, 4, 5, 0, 0, 0, 0, 0, 0, 0, 7, 12, 0, 5, 0, 5, 1, 0, 1, 109])).result =
      .ok pool := rfl
  have hmember : pool.Holds 1 (.member .method 3 4) := by decide
  have hwide : pool.WideAt 1 := ⟨.long 7, rfl, .inl rfl⟩
  have hsignature : pool.HoldsNameAndType 4 ("m", "m") := ⟨5, 5, by decide, by decide, by decide⟩
  have hlong : pool.Holds 2 (.long 7) := by decide
  refine ⟨pool, hread, ?_, ?_, ?_, rfl⟩
  · exact ((memberRef_of_reader hread 1).2 _).mpr
      (.owner hmember hsignature (.entry (.upperHalf rfl hwide)))
  · exact ((memberRef_of_reader hread 2).2 _).mpr
      (.entry (.otherKind hlong (by simp [Kind.IsMember, Constant.kind])))
  · exact ((memberRef_of_reader hread 6).2 _).mpr (.entry (.nothing (.inr (by decide))))

end Pool

end ClassFormat
