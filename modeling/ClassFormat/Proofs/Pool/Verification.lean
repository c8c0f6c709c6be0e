import ClassFormat.Proofs.Pool.Links

/-!
# The check of all references

A pool passes the check exactly if the references of all its constants lead to what they should,
through as many links as there are; the check fails at the first constant of which this is not true.
Behind the check, a look-up can only fail at the index it starts from.

## Main definitions

* `ClassFormat.HandleKind.Allows` — the members that a handle may refer to.
* `ClassFormat.Pool.Resolves` — the references of a constant lead to what they should.
* `ClassFormat.Pool.EntryFault` — the fault of the first reference of a constant that cannot be
  followed.

## Main results

* `ClassFormat.Pool.Numbered.verifyEntry_eq_ok_iff`,
  `ClassFormat.Pool.Numbered.verifyEntry_eq_error_iff` — the check of one constant.
* `ClassFormat.Pool.Numbered.verify_eq_ok_iff`, `ClassFormat.Pool.Numbered.verify_eq_error_iff` —
  the check of all of them.
* `ClassFormat.Pool.verify_of_reader` — both for a pool that is read, and what look-ups do behind
  the check.
-/

namespace ClassFormat

namespace HandleKind

/-- A handle may refer to members of a kind: to fields in order to read or write them, to methods
and methods of interfaces in order to call them. -/
def Allows (handle : HandleKind) : MemberKind → Prop
  | .field => handle ∈ [getField, getStatic, putField, putStatic]
  | .method => handle ∈ [invokeVirtual, invokeStatic, invokeSpecial, newInvokeSpecial]
  | .interfaceMethod => handle ∈ [invokeStatic, invokeSpecial, invokeInterface]

/-- The members that a handle may refer to are those on its list. -/
lemma contains_targets_iff {handle : HandleKind} {member : MemberKind} :
    handle.targets.contains member = true ↔ handle.Allows member := by
  cases handle <;> cases member <;> simp [targets, Allows]

end HandleKind

namespace Pool

variable {pool : Pool} {index : Index} {declared : UInt16} {fault : Fault}

/-- Every reference of a constant leads to what it should, and so on to the texts behind it. -/
def Resolves (pool : Pool) : Constant → Prop
  | .label _ text => ∃ found, pool.Holds text (.utf8 found)
  | .nameAndType name descriptor =>
    (∃ found, pool.Holds name (.utf8 found)) ∧ ∃ found, pool.Holds descriptor (.utf8 found)
  | .member _ owner signature =>
    (∃ name, pool.HoldsLabel .classInfo owner name) ∧
      ∃ texts, pool.HoldsNameAndType signature texts
  | .methodHandle handle reference =>
    ∃ kind member, handle.Allows kind ∧ pool.HoldsMember kind reference member
  | .dynamic _ _ signature => ∃ texts, pool.HoldsNameAndType signature texts
  | .utf8 _ | .integer _ | .float _ | .long _ | .double _ => True

/-- The fault of the first reference of a constant that cannot be followed. -/
inductive EntryFault (pool : Pool) (index : Index) (fault : Fault) : Constant → Prop
  | label {kind : LabelKind} {text : Index} :
      pool.BrokenTo .utf8 text fault → EntryFault pool index fault (.label kind text)
  | nameAndType {name descriptor : Index} :
      pool.NameAndTypeFault index fault → EntryFault pool index fault (.nameAndType name descriptor)
  | member {kind : MemberKind} {owner signature : Index} :
      pool.MemberFault index fault → EntryFault pool index fault (.member kind owner signature)
  | dynamic {kind : DynamicKind} {bootstrap : UInt16} {signature : Index} :
      pool.NameAndTypeFault signature fault →
        EntryFault pool index fault (.dynamic kind bootstrap signature)
  | target {handle : HandleKind} {reference : Index} :
      pool.BrokenToMember handle.Allows reference fault →
        EntryFault pool index fault (.methodHandle handle reference)
  | handle {handle : HandleKind} {kind : MemberKind} {reference owner signature : Index} :
      handle.Allows kind → pool.Holds reference (.member kind owner signature) →
      pool.MemberFault reference fault →
        EntryFault pool index fault (.methodHandle handle reference)

/-! ## The check of a constant -/

section Steps

variable {ε α : Type} {found : Except ε α}

/-- A look-up whose value is not used succeeds exactly if it finds one. -/
lemma discard_eq_ok_iff : discard found = .ok () ↔ ∃ value, found = .ok value := by
  cases found <;> simp [discard, Functor.discard, Functor.mapConst, Except.map]

/-- A look-up whose value is not used fails as it would otherwise. -/
lemma discard_eq_error_iff {fault : ε} : discard found = .error fault ↔ found = .error fault := by
  cases found <;> simp [discard, Functor.discard, Functor.mapConst, Except.map]

/-- A check of every item succeeds if each of them passes. -/
lemma forM_eq_ok_iff {check : α → Except ε Unit} {items : List α} :
    items.forM check = .ok () ↔ ∀ item ∈ items, check item = .ok () := by
  induction items with
  | nil => exact iff_of_true rfl nofun
  | cons item items ih =>
    show (check item >>= fun _ => items.forM check) = _ ↔ _
    rw [bind_eq_ok_iff, List.forall_mem_cons, ← ih]
    exact ⟨fun ⟨_, hitem, hitems⟩ => ⟨hitem, hitems⟩, fun ⟨hitem, hitems⟩ => ⟨(), hitem, hitems⟩⟩

/-- A check of every item fails if one of them does and those before it pass. -/
lemma forM_eq_error_iff {check : α → Except ε Unit} {items : List α} {fault : ε} :
    items.forM check = .error fault ↔ ∃ before item after, items = before ++ item :: after ∧
      (∀ earlier ∈ before, check earlier = .ok ()) ∧ check item = .error fault := by
  induction items with
  | nil => exact iff_of_false nofun (by simp)
  | cons first rest ih =>
    show (check first >>= fun _ => rest.forM check) = _ ↔ _
    rw [bind_eq_error_iff, ih]
    constructor
    · rintro (hfirst | ⟨_, hfirst, before, item, after, rfl, hbefore, hitem⟩)
      · exact ⟨[], first, rest, rfl, nofun, hfirst⟩
      · exact ⟨first :: before, item, after, rfl, List.forall_mem_cons.mpr ⟨hfirst, hbefore⟩, hitem⟩
    · rintro ⟨before, item, after, heq, hbefore, hitem⟩
      cases before with
      | nil =>
        cases heq
        exact .inl hitem
      | cons _ before =>
        cases heq
        obtain ⟨hfirst, hbefore⟩ := List.forall_mem_cons.mp hbefore
        exact .inr ⟨(), hfirst, before, item, after, rfl, hbefore, hitem⟩

end Steps

/-- A name and type are held in full exactly if their links resolve. -/
lemma exists_holdsNameAndType_iff {name descriptor : Index}
    (hholds : pool.Holds index (.nameAndType name descriptor)) :
    (∃ texts, pool.HoldsNameAndType index texts) ↔
    pool.Resolves (.nameAndType name descriptor) := by
  constructor
  · rintro ⟨_, _, _, hother, hname, hdescriptor⟩
    cases hholds.unique hother
    exact ⟨⟨_, hname⟩, ⟨_, hdescriptor⟩⟩
  · rintro ⟨⟨_, hname⟩, ⟨_, hdescriptor⟩⟩
    exact ⟨(_, _), _, _, hholds, hname, hdescriptor⟩

/-- A member is held in full exactly if its links resolve. -/
lemma exists_holdsMember_iff {kind : MemberKind} {owner signature : Index}
    (hholds : pool.Holds index (.member kind owner signature)) :
    (∃ member, pool.HoldsMember kind index member) ↔
    pool.Resolves (.member kind owner signature) := by
  constructor
  · rintro ⟨_, _, _, hother, howner, hsignature⟩
    cases hholds.unique hother
    exact ⟨⟨_, howner⟩, ⟨_, hsignature⟩⟩
  · rintro ⟨⟨name, howner⟩, ⟨texts, hsignature⟩⟩
    exact ⟨⟨name, texts.1, texts.2⟩, _, _, hholds, howner, hsignature⟩

/-- A member is found exactly if its references lead to what they should. -/
lemma exists_memberRef_eq_ok_iff {kind : MemberKind} {owner signature : Index}
    (hholds : pool.Holds index (.member kind owner signature)) :
    (∃ member, pool.memberRef index = .ok member) ↔
    pool.Resolves (.member kind owner signature) := by
  simp only [memberRef_eq_ok_iff, ← exists_holdsMember_iff hholds]
  constructor
  · rintro ⟨member, other, hmember⟩
    have ⟨_, _, hother, _⟩ := hmember
    cases hholds.unique hother
    exact ⟨member, hmember⟩
  · rintro ⟨member, hmember⟩
    exact ⟨member, kind, hmember⟩

section Handles

variable {handle : HandleKind} {reference : Index}

/-- A handle does not pass where it does not refer to a member of the right kind. -/
lemma Numbered.verifyHandle_of_broken (h : pool.Numbered declared)
    (hbroken : pool.BrokenToMember handle.Allows reference fault) :
    pool.verifyHandle handle reference = .error fault := by
  refine h.bind_follow_of_broken (fun constant => ?_) hbroken
  cases constant with
  | member kind =>
    show (if _ then some () else none).isSome = true ↔
      ∃ member, handle.Allows member ∧ Kind.member kind = .member member
    simp [← HandleKind.contains_targets_iff]
  | _ => simp [Constant.kind, Kind.IsMember]

/-- A handle that refers to a member of the right kind passes if that member can be looked up. -/
lemma verifyHandle_of_holds {kind : MemberKind} {owner signature : Index}
    (hkind : handle.Allows kind) (hholds : pool.Holds reference (.member kind owner signature)) :
    pool.verifyHandle handle reference = discard (pool.memberRef reference) :=
  bind_follow_of_holds () hholds (if_pos (HandleKind.contains_targets_iff.mpr hkind))

/-- A handle is followed exactly if it refers to a member of a kind that it may refer to. -/
lemma Numbered.verifyHandle_eq_ok_iff (h : pool.Numbered declared) :
    pool.verifyHandle handle reference = .ok () ↔
    pool.Resolves (.methodHandle handle reference) := by
  constructor
  · intro hok
    obtain ⟨fault, hbroken⟩ | ⟨constant, hholds, kind, hallows, hkind⟩ :=
      h.broken_or_holds .memberReference (Kind.IsMember handle.Allows) reference
    · cases hok.symm.trans (h.verifyHandle_of_broken hbroken)
    · cases constant <;> cases hkind
      rw [verifyHandle_of_holds hallows hholds, discard_eq_ok_iff,
        exists_memberRef_eq_ok_iff hholds, ← exists_holdsMember_iff hholds] at hok
      obtain ⟨member, hmember⟩ := hok
      exact ⟨kind, member, hallows, hmember⟩
  · rintro ⟨kind, member, hkind, hmember⟩
    have ⟨_, _, hholds, _⟩ := hmember
    rw [verifyHandle_of_holds hkind hholds]
    exact discard_eq_ok_iff.mpr ⟨member, memberRef_eq_ok_iff.mpr ⟨kind, hmember⟩⟩

/-- A handle fails with the first of its links that is broken. -/
lemma Numbered.verifyHandle_eq_error_iff (h : pool.Numbered declared) :
    pool.verifyHandle handle reference = .error fault ↔
      pool.EntryFault index fault (.methodHandle handle reference) := by
  constructor
  · intro hfault
    obtain hbroken | ⟨constant, hholds, kind, hallows, hkind⟩ :=
      h.broken_or_holds_of_error (fun _ => h.verifyHandle_of_broken) hfault
    · exact .target hbroken
    · cases constant <;> cases hkind
      rw [verifyHandle_of_holds hallows hholds, discard_eq_error_iff,
        h.memberRef_eq_error_iff] at hfault
      exact .handle hallows hholds hfault
  · rintro (_ | _ | _ | _ | hbroken | ⟨hallows, hholds, hfault⟩)
    · exact h.verifyHandle_of_broken hbroken
    · rw [verifyHandle_of_holds hallows hholds, discard_eq_error_iff, h.memberRef_eq_error_iff]
      exact hfault

end Handles

/-- A constant passes the check exactly if its references lead to what they should. -/
lemma Numbered.verifyEntry_eq_ok_iff (h : pool.Numbered declared) {constant : Constant}
    (hholds : pool.Holds index constant) :
    pool.verifyEntry index constant = .ok () ↔ pool.Resolves constant := by
  cases constant with
  | utf8 | integer | float | long | double => exact iff_of_true rfl trivial
  | label kind text => exact discard_eq_ok_iff.trans (exists_congr fun _ => utf8_eq_ok_iff)
  | nameAndType name descriptor =>
    rw [← exists_holdsNameAndType_iff hholds]
    exact discard_eq_ok_iff.trans (exists_congr fun _ => nameAndType_eq_ok_iff)
  | dynamic kind bootstrap signature =>
    exact discard_eq_ok_iff.trans (exists_congr fun _ => nameAndType_eq_ok_iff)
  | member kind owner signature =>
    exact discard_eq_ok_iff.trans (exists_memberRef_eq_ok_iff hholds)
  | methodHandle handle reference => exact h.verifyHandle_eq_ok_iff

/-- A constant fails the check with the fault of its first reference that cannot be followed. -/
lemma Numbered.verifyEntry_eq_error_iff (h : pool.Numbered declared) {constant : Constant} :
    pool.verifyEntry index constant = .error fault ↔ pool.EntryFault index fault constant := by
  cases constant with
  | utf8 | integer | float | long | double => exact iff_of_false nofun nofun
  | label kind text =>
    exact discard_eq_error_iff.trans
      (h.utf8_eq_error_iff.trans ⟨.label, fun | .label hbroken => hbroken⟩)
  | nameAndType name descriptor =>
    exact discard_eq_error_iff.trans
      (h.nameAndType_eq_error_iff.trans ⟨.nameAndType, fun | .nameAndType hfault => hfault⟩)
  | dynamic kind bootstrap signature =>
    exact discard_eq_error_iff.trans
      (h.nameAndType_eq_error_iff.trans ⟨.dynamic, fun | .dynamic hfault => hfault⟩)
  | member kind owner signature =>
    exact discard_eq_error_iff.trans
      (h.memberRef_eq_error_iff.trans ⟨.member, fun | .member hfault => hfault⟩)
  | methodHandle handle reference => exact h.verifyHandle_eq_error_iff

/-! ## The check of all constants -/

/-- In a list with growing indices, an entry with a smaller index than another stands before it. -/
lemma mem_of_lt {before after : List (Index × Constant)} {entry earlier : Index × Constant}
    (hincreasing : (before ++ entry :: after).Pairwise fun a b => a.1 < b.1)
    (hmem : earlier ∈ before ++ entry :: after) (hlt : earlier.1 < entry.1) : earlier ∈ before := by
  obtain ⟨-, hbehind, -⟩ := List.pairwise_append.mp hincreasing
  rcases List.mem_append.mp hmem with hbefore | hrest
  · exact hbefore
  · obtain rfl | hafter := List.mem_cons.mp hrest
    · exact absurd hlt (UInt16.lt_irrefl _)
    · exact absurd hlt (UInt16.lt_asymm (List.rel_of_pairwise_cons hbehind hafter))

section Verify

variable (h : pool.Numbered declared)

include h

/-- A pool passes the check exactly if all its references lead to what they should. -/
lemma Numbered.verify_eq_ok_iff :
    pool.verify = .ok () ↔
    ∀ index constant, pool.get index = .ok constant → pool.Resolves constant := by
  rw [verify, forM_eq_ok_iff]
  constructor
  · intro hall index constant hget
    exact (h.verifyEntry_eq_ok_iff (get_eq_ok_iff.mp hget)).mp
      (hall (index, constant) ((h.entries _).mpr hget))
  · rintro hall ⟨index, constant⟩ hmem
    have hget := (h.entries _).mp hmem
    exact (h.verifyEntry_eq_ok_iff (get_eq_ok_iff.mp hget)).mpr (hall index constant hget)

/-- The check fails at the first constant with a reference that does not lead to what it should.

**Proof sketch.** The constants are checked in the order of their indices, so those with a smaller
index are those that were checked before. -/
lemma Numbered.verify_eq_error_iff :
    pool.verify = .error fault ↔ ∃ index constant, pool.get index = .ok constant ∧
      pool.EntryFault index fault constant ∧
      ∀ earlier < index, ∀ other, pool.get earlier = .ok other → pool.Resolves other := by
  rw [verify, forM_eq_error_iff]
  constructor
  · rintro ⟨before, ⟨index, constant⟩, after, hentries, hbefore, hfault⟩
    have hincreasing := hentries ▸ h.increasing
    have hget : pool.get index = .ok constant :=
      (h.entries (index, constant)).mp (by simp [hentries])
    refine ⟨index, constant, hget, h.verifyEntry_eq_error_iff.mp hfault,
      fun earlier hlt other hother => ?_⟩
    have hmem : (earlier, other) ∈ before :=
      mem_of_lt hincreasing (hentries ▸ (h.entries _).mpr hother) hlt
    exact (h.verifyEntry_eq_ok_iff (get_eq_ok_iff.mp hother)).mp (hbefore _ hmem)
  · rintro ⟨index, constant, hget, hfault, hearlier⟩
    obtain ⟨before, after, hentries⟩ := List.append_of_mem ((h.entries (index, constant)).mpr hget)
    refine ⟨before, (index, constant), after, hentries, ?_, h.verifyEntry_eq_error_iff.mpr hfault⟩
    rintro ⟨earlier, other⟩ hmem
    obtain ⟨-, -, hacross⟩ := List.pairwise_append.mp (hentries ▸ h.increasing)
    have hlt : earlier < index := hacross _ hmem _ List.mem_cons_self
    have hother : pool.get earlier = .ok other :=
      (h.entries (earlier, other)).mp (by simp [hentries, hmem])
    exact (h.verifyEntry_eq_ok_iff (get_eq_ok_iff.mp hother)).mpr
      (hearlier earlier hlt other hother)

/-- A constant with a fault does not lead where it should. -/
lemma Numbered.not_resolves_of_entryFault {constant : Constant}
    (hget : pool.get index = .ok constant) (hfault : pool.EntryFault index fault constant) :
    ¬pool.Resolves constant := by
  intro hresolves
  cases (h.verifyEntry_eq_error_iff.mpr hfault).symm.trans
    ((h.verifyEntry_eq_ok_iff (get_eq_ok_iff.mp hget)).mpr hresolves)

end Verify

/-! ## Look-ups behind the check -/

section Checked

variable (h : pool.Numbered declared)
  (hall : ∀ index constant, pool.get index = .ok constant → pool.Resolves constant)

include h hall

/-- In a pool that passes, the look-up of a label fails at its own link only. -/
lemma Numbered.label_eq_error_iff_of_resolves {kind : LabelKind} :
    pool.label kind index = .error fault ↔ pool.BrokenTo (.label kind) index fault := by
  refine h.eq_error_iff_broken (fun fault => h.label_of_broken) fun constant hholds hkind => ?_
  cases constant <;> cases hkind
  obtain ⟨text, htext⟩ := hall _ _ (get_eq_ok_iff.mpr hholds)
  exact ⟨text, label_eq_ok_iff.mpr ⟨_, hholds, htext⟩⟩

/-- In a pool that passes, the look-up of a name and type fails at its own link only. -/
lemma Numbered.nameAndType_eq_error_iff_of_resolves :
    pool.nameAndType index = .error fault ↔ pool.BrokenTo .nameAndType index fault := by
  refine h.eq_error_iff_broken
    (fun fault => h.nameAndType_of_broken) fun constant hholds hkind => ?_
  cases constant <;> cases hkind
  obtain ⟨texts, htexts⟩ :=
    (exists_holdsNameAndType_iff hholds).mpr (hall _ _ (get_eq_ok_iff.mpr hholds))
  exact ⟨texts, nameAndType_eq_ok_iff.mpr htexts⟩

/-- In a pool that passes, the look-up of a member fails at its own link only. -/
lemma Numbered.memberRef_eq_error_iff_of_resolves :
    pool.memberRef index = .error fault ↔ pool.BrokenToMember (fun _ => True) index fault := by
  refine h.eq_error_iff_broken (fun fault => h.memberRef_of_broken) ?_
  rintro constant hholds ⟨_, -, hkind⟩
  cases constant <;> cases hkind
  exact (exists_memberRef_eq_ok_iff hholds).mpr (hall _ _ (get_eq_ok_iff.mpr hholds))

end Checked

/-- **The check of a pool that is read.** It passes exactly if the references of all constants lead
to what they should. If not, it reports the first broken link of the constant with the smallest
index among those of which this is not true. Behind the check, a look-up fails only if there is no
constant of the kind it asks for at the very index it starts from. -/
theorem verify_of_reader {start : Cursor} (h : (reader start).result = .ok pool) :
    (pool.verify = .ok () ↔
      ∀ index constant, pool.get index = .ok constant → pool.Resolves constant) ∧
    (∀ fault, pool.verify = .error fault ↔ ∃ index constant, pool.get index = .ok constant ∧
      ¬pool.Resolves constant ∧ pool.EntryFault index fault constant ∧
      ∀ earlier < index, ∀ other, pool.get earlier = .ok other → pool.Resolves other) ∧
    (pool.verify = .ok () → ∀ index fault,
      (pool.className index = .error fault ↔ pool.BrokenTo (.label .classInfo) index fault) ∧
      (pool.string index = .error fault ↔ pool.BrokenTo (.label .string) index fault) ∧
      (pool.nameAndType index = .error fault ↔ pool.BrokenTo .nameAndType index fault) ∧
      (pool.memberRef index = .error fault ↔ pool.BrokenToMember (fun _ => True) index fault)) := by
  obtain ⟨declared, hnumbered⟩ := exists_numbered_of_reader h
  refine ⟨hnumbered.verify_eq_ok_iff, fun fault => ?_, fun hverify index fault => ?_⟩
  · rw [hnumbered.verify_eq_error_iff]
    refine exists_congr fun index => exists_congr fun constant => and_congr_right fun hget => ?_
    exact ⟨fun ⟨hfault, hearlier⟩ =>
      ⟨hnumbered.not_resolves_of_entryFault hget hfault, hfault, hearlier⟩,
      fun ⟨_, hfault, hearlier⟩ => ⟨hfault, hearlier⟩⟩
  · have hall := hnumbered.verify_eq_ok_iff.mp hverify
    exact ⟨hnumbered.label_eq_error_iff_of_resolves hall,
      hnumbered.label_eq_error_iff_of_resolves hall,
      hnumbered.nameAndType_eq_error_iff_of_resolves hall,
      hnumbered.memberRef_eq_error_iff_of_resolves hall⟩

/-- A pool whose handle calls a static method and passes the check, and the same pool with a handle
that would read the method like a field. -/
theorem verify_of_reader_handle :
    (∃ pool, (reader
      (.ofBytes [0, 6, 1, 0, 1, 65, 7, 0, 1, 12, 0, 1, 0, 1, 10, 0, 2, 0, 3, 15, 6, 0, 4])).result =
        .ok pool ∧
      pool.verify = .ok () ∧
      ∀ index constant, pool.get index = .ok constant → pool.Resolves constant) ∧
    ∃ pool, (reader
      (.ofBytes [0, 6, 1, 0, 1, 65, 7, 0, 1, 12, 0, 1, 0, 1, 10, 0, 2, 0, 3, 15, 1, 0, 4])).result =
        .ok pool ∧
      pool.verify = .error (.badReference 4 .memberReference (.ofKind (.member .method))) ∧
      ∃ index constant, pool.get index = .ok constant ∧ ¬pool.Resolves constant := by
  let pool (handle : HandleKind) : Pool := ⟨#[.entry (.utf8 "A"), .entry (.label .classInfo 1),
    .entry (.nameAndType 1 1), .entry (.member .method 2 3), .entry (.methodHandle handle 4)], 23⟩
  constructor
  · have hread : (reader (.ofBytes
        [0, 6, 1, 0, 1, 65, 7, 0, 1, 12, 0, 1, 0, 1, 10, 0, 2, 0, 3, 15, 6, 0, 4])).result =
        .ok (pool .invokeStatic) := rfl
    exact ⟨pool .invokeStatic, hread, rfl, (verify_of_reader hread).1.mp rfl⟩
  · have hread : (reader (.ofBytes
        [0, 6, 1, 0, 1, 65, 7, 0, 1, 12, 0, 1, 0, 1, 10, 0, 2, 0, 3, 15, 1, 0, 4])).result =
        .ok (pool .getField) := rfl
    obtain ⟨index, constant, hget, hresolves, -⟩ := ((verify_of_reader hread).2.1 _).mp rfl
    exact ⟨pool .getField, hread, rfl, index, constant, hget, hresolves⟩

end Pool

end ClassFormat
