import ClassFormat.Proofs.ClassFile.Blame
import ClassFormat.Proofs.Decoder.Sifting

/-!
# Options only refuse

Options ask for checks of the version, of the references in the pool, and of all flags. This module
shows that they change nothing else: a class file that passes the checks is decoded as it is without
them, and one that does not is refused for the first violation in the order of the file.

## Main definitions

* `ClassFormat.Options.Admits` — the class files that pass the checks.
* `ClassFormat.ClassFile.survey` — a class file that is decoded without checks, and the places of
  all its flags.
* `ClassFormat.ClassFile.firstViolation?` — the first violation of a check, as it is reported.

## Main results

* `ClassFormat.ClassFile.decode_eq_of_survey` — what the options make of a class file that can be
  decoded without them.
* `ClassFormat.ClassFile.exists_survey_of_decode` — options decode nothing that cannot be decoded
  without them.
* `ClassFormat.ClassFile.decode_options` — options only filter.

## Design

A survey reads the file as a decode without checks does, and notes the position at which each record
with flags begins. So the first byte of a record is where its reading began, whatever stands before
it.
-/

namespace ClassFormat

open Decoder hiding word split split_ok
open Record

/-! ## Checks -/

namespace Options

/-- The fault of a version that is too great. -/
def versionViolation? (options : Options) (version : Version) : Option Fault :=
  if options.maxMajor.any fun limit => limit < version.major then
    some (.unsupportedVersion version.major version.minor)
  else none

/-- The fault of a pool with a reference that cannot be followed. -/
def poolViolation? (options : Options) (pool : Pool) : Option Fault :=
  if options.verifyPool then refusal? pool.verify else none

/-- The fault of flags that no compiler produces. -/
def flagsViolation? (options : Options) (access : Access) : Option Fault :=
  if options.strictAccess && !access.isLegal then some (.illegalAccess access.target access.raw)
  else none

/-- The class files that pass the checks. -/
structure Admits (options : Options) (file : ClassFile) : Prop where
  version : ∀ limit, options.maxMajor = some limit → file.version.major ≤ limit
  pool : options.verifyPool = true → file.pool.verify = .ok ()
  access : options.strictAccess = true → file.access.isLegal = true
  fields : options.strictAccess = true → ∀ field ∈ file.fields, field.access.isLegal = true
  methods : options.strictAccess = true → ∀ method ∈ file.methods, method.access.isLegal = true

section

variable (options : Options)

/-- A version is admitted exactly if it does not pass the limit, if there is one. -/
lemma versionViolation?_eq_none_iff {version : Version} :
    options.versionViolation? version = none ↔
      ∀ limit, options.maxMajor = some limit → version.major ≤ limit := by
  unfold versionViolation?
  cases options.maxMajor <;> simp [UInt16.not_lt]

/-- A pool is admitted exactly if its check succeeds, if one is asked for. -/
lemma poolViolation?_eq_none_iff {pool : Pool} :
    options.poolViolation? pool = none ↔ (options.verifyPool = true → pool.verify = .ok ()) := by
  unfold poolViolation?
  cases options.verifyPool <;> simp [refusal?_eq_none_iff]

/-- Flags are admitted exactly if a compiler may produce them, if that is asked for. -/
lemma flagsViolation?_eq_none_iff {access : Access} :
    options.flagsViolation? access = none ↔
    (options.strictAccess = true → access.isLegal = true) := by
  unfold flagsViolation?
  cases options.strictAccess <;> simp

end

end Options

namespace ClassFile

/-- Flags in a class file: their section, and the first byte of their record. -/
structure Site where
  part : Section
  offset : Nat
  access : Access

/-- The violation of flags, as it is reported. -/
def Site.violation? (options : Options) (site : Site) : Option ClassFault :=
  (options.flagsViolation? site.access).map (⟨site.part, site.offset, ·⟩)

/-- The first violation of a check in the order of the file: the version, the pool, and then the
flags. -/
def firstViolation? (options : Options) (file : ClassFile) (sites : List Site) :
    Option ClassFault :=
  ((options.versionViolation? file.version).map (⟨.header, 4, ·⟩)).or <|
    ((options.poolViolation? file.pool).map (⟨.constantPool, 8, ·⟩)).or <|
      sites.findSome? (Site.violation? options)

/-- All flags of a class file with the sections that they stand in, in the order of the file. -/
def flags (file : ClassFile) : List (Section × Access) :=
  (.accessFlags, file.access) :: (file.fields.map fun field => (.fields, field.access)) ++
    file.methods.map fun method => (.methods, method.access)

/-- The places of all flags, from the records that carry them and the positions of those. -/
def sitesOf (access : Nat × Access) (fields : List (Nat × Field)) (methods : List (Nat × Method)) :
    List Site :=
  ⟨.accessFlags, access.1, access.2⟩ ::
    (fields.map fun field => ⟨.fields, field.1, field.2.access⟩) ++
    methods.map fun method => ⟨.methods, method.1, method.2.access⟩

/-- The sections of a class file without any checks, and the places of its flags. -/
def surveyReader (raw : Bytes) : Decoder ClassFault (ClassFile × List Site) := do
  let version ← inSection .header (headerReader {})
  let pool ← inSection .constantPool (poolReader {})
  let access ← inSection .accessFlags (placed (Access.reader {} .classFile))
  let (name, superName) ← inSection .classNames (namesReader pool)
  let interfaces ← inSection .interfaces (table (interfaceReader pool))
  let fields ← inSection .fields (table (placed (Field.reader pool {})))
  let methods ← inSection .methods (table (placed (Method.reader pool {})))
  let attributes ← inSection .attributes (Attribute.listReader pool)
  let file ← finish
    { raw, version, pool, access := access.2, name, superName, interfaces
      fields := fields.map Prod.snd, methods := methods.map Prod.snd, attributes }
  return (file, sitesOf access fields methods)

/-- The class file in a string of bytes, without any checks, and the places of its flags. -/
def survey (bytes : Bytes) : Except ClassFault (ClassFile × List Site) :=
  (surveyReader bytes (.ofBytes bytes)).result

end ClassFile

/-! ## Records with flags -/

section Members

variable (options : Options)

/-- Flags are violations exactly where their validation refuses them. -/
lemma Options.flagsViolation?_eq (access : Access) :
    options.flagsViolation? access =
      if options.strictAccess then refusal? access.validate else none := by
  unfold flagsViolation? Access.validate
  cases options.strictAccess <;> cases access.isLegal <;> rfl

/-- Flags that are refused are named with what carries them. -/
lemma Options.eq_of_flagsViolation? {options : Options} {access : Access} {fault : Fault}
    (h : options.flagsViolation? access = some fault) :
    fault = .illegalAccess access.target access.raw := by
  unfold flagsViolation? at h
  split at h <;> cases h
  rfl

/-- A reference that cannot be followed is a fault without a position. -/
lemma Fault.IsReference.eq_none {fault : Fault} (h : fault.IsReference) :
    fault.location? = none ∧ fault.unpinned = fault := by
  cases fault with
  | badReference | malformedPool => exact ⟨rfl, rfl⟩
  | _ => exact h.elim

/-- A pool is refused for a reference that cannot be followed. -/
lemma Options.isReference_of_poolViolation? {options : Options} {pool : Pool} {fault : Fault}
    (h : options.poolViolation? pool = some fault) : fault.IsReference := by
  unfold poolViolation? at h
  split at h
  · exact pool.refers_verify fault (refusal?_eq_some_iff.mp h)
  · cases h

/-- Flags are checked as they are read. -/
lemma Access.sifts_reader (target : AccessTarget) (start : Cursor) :
    Sifts options.flagsViolation? id (Access.reader {} target)
      (Access.reader options target) start :=
  Sifts.after fun _ c _ => sifts_check options.strictAccess _ (options.flagsViolation?_eq _) c

/-- A record that begins with its flags and keeps them. -/
lemma sifts_member {α : Type} (target : AccessTarget) (access : α → Access)
    {next : Access → Decoder Fault α}
    (hnext : ∀ found c, Ensures (next found) c fun member _ => access member = found)
    (start : Cursor) :
    Sifts (fun member => options.flagsViolation? (access member)) id
      (Access.reader {} target >>= next)
      (Access.reader options target >>= next) start := by
  refine (Access.sifts_reader options target start).bind
    (fun found c _ => sifts_refl (next found) c) ?_
  intro found c _ member stop hmember
  rw [(hnext found c).of_gives hmember, Option.or_none]

/-- With options, a field is read as without, and then refused if its flags are. -/
lemma Field.sifts_reader (pool : Pool) (start : Cursor) :
    Sifts (fun field => options.flagsViolation? field.access) id (Field.reader pool {})
      (Field.reader pool options) start := by
  refine sifts_member options .field Field.access (fun access c => ?_) start
  refine ensures_bind fun nameIndex _ => ensures_bind fun name _ => ensures_bind fun index _ => ?_
  refine ensures_bind fun descriptor _ => ensures_bind fun type _ => ?_
  split
  · exact ensures_fail _
  · exact ensures_bind fun attributes _ => ensures_pure rfl

/-- With options, a method is read as without, and then refused if its flags are. -/
lemma Method.sifts_reader (pool : Pool) (start : Cursor) :
    Sifts (fun method => options.flagsViolation? method.access) id (Method.reader pool {})
      (Method.reader pool options) start := by
  refine sifts_member options .method Method.access (fun access c => ?_) start
  refine ensures_bind fun nameIndex _ => ensures_bind fun name _ => ensures_bind fun index _ => ?_
  refine ensures_bind fun descriptor _ => ensures_bind fun signature _ => ?_
  exact ensures_bind fun attributes _ => ensures_pure rfl

end Members

/-! ## Sections -/

namespace ClassFile

section Sections

variable {options : Options} {start : Cursor}

/-- A section reports a violation as it reports any fault. -/
lemma sifts_inSection {α β : Type} (part : Section) {violation : β → Option Fault} {view : β → α}
    {lenient : Decoder Fault β} {strict : Decoder Fault α}
    (h : Sifts violation view lenient strict start) :
    Sifts (fun found => (violation found).map fun fault =>
      ⟨part, fault.location?.getD start.position, fault.unpinned⟩) view (inSection part lenient)
      (inSection part strict) start :=
  have hmapped := h.mapFault fun fault =>
    (⟨part, fault.location?.getD start.position, fault.unpinned⟩ : ClassFault)
  ⟨hmapped.keeps, hmapped.passes, hmapped.refuses⟩

/-- A section gives what its content gives. -/
lemma gives_inSection_iff {α : Type} {part : Section} {content : Decoder Fault α} {value : α}
    {stop : Cursor} :
    Gives (inSection part content) start value stop ↔ Gives content start value stop :=
  and_congr_left' (inSection_ok_iff part start)

/-- The version is checked behind the magic number. -/
lemma sifts_headerReader (options : Options) (start : Cursor) :
    Sifts
      (fun version => (options.versionViolation? version).map (.located (start.position + 4))) id
      (headerReader {}) (headerReader options) start := by
  refine Sifts.after fun found c hfound => ?_
  have hposition : c.position = start.position + 4 := hfound.2 ▸ (word_ok hfound.1).2
  by_cases hmagic : found ≠ magic
  · rw [if_pos hmagic, if_pos hmagic]
    refine (sifts_refl _ c).congr ?_
    rintro _ _ ⟨⟨⟩, _⟩
  · rw [if_neg hmagic, if_neg hmagic]
    refine Sifts.after ?_
    rintro _ c ⟨⟨⟩, rfl⟩
    refine Sifts.after fun minor d _ => Sifts.after fun major e _ => ?_
    by_cases hlimit : (options.maxMajor.any fun limit => limit < major) = true
    · rw [if_pos hlimit]
      exact sifts_fail (by rw [Options.versionViolation?, if_pos hlimit, hposition]; rfl) e
    · rw [if_neg hlimit]
      exact sifts_pure (by rw [Options.versionViolation?, if_neg hlimit]; rfl) e

/-- The pool is checked as a whole. -/
lemma sifts_poolReader (options : Options) (start : Cursor) :
    Sifts options.poolViolation? id (poolReader {}) (poolReader options) start := by
  refine Sifts.after fun pool c _ => ?_
  have hviolation : options.poolViolation? pool =
      if options.verifyPool then refusal? pool.verify else none := rfl
  exact sifts_check options.verifyPool pool.verify hviolation c

/-- With options, the header is read as without, and then refused at the version if that is too
great. -/
lemma sifts_header (options : Options) (bytes : Bytes) :
    Sifts (fun version => (options.versionViolation? version).map (⟨.header, 4, ·⟩)) id
      (inSection .header (headerReader {})) (inSection .header (headerReader options))
        (.ofBytes bytes) := by
  refine (sifts_inSection .header (sifts_headerReader options _)).congr fun version _ _ => ?_
  rw [Option.map_map]
  rfl

/-- The header takes the first eight bytes of the file. -/
lemma position_of_header {options : Options} {bytes : Bytes} {version : Version} {stop : Cursor}
    (h : Gives (inSection .header (headerReader options)) (.ofBytes bytes) version stop) :
    stop.position = 8 := by
  obtain ⟨hresult, rfl⟩ := gives_inSection_iff.mp h
  exact position_of_headerReader hresult

/-- References know no position, so a violation in the pool is reported where the pool begins. -/
lemma sifts_pool (options : Options) (hstart : start.position = 8) :
    Sifts (fun pool => (options.poolViolation? pool).map (⟨.constantPool, 8, ·⟩)) id
      (inSection .constantPool (poolReader {}))
        (inSection .constantPool (poolReader options)) start := by
  refine (sifts_inSection .constantPool (sifts_poolReader options start)).congr fun pool _ _ => ?_
  refine Option.map_congr fun fault hfault => ?_
  obtain ⟨hlocation, hunpinned⟩ := (Options.isReference_of_poolViolation? hfault).eq_none
  rw [hlocation, hunpinned, Option.getD_none, hstart]

/-- The flags of the class are a section of their own. -/
lemma sifts_access (options : Options) (start : Cursor) :
    Sifts (fun found => Site.violation? options ⟨.accessFlags, found.1, found.2⟩) Prod.snd
      (inSection .accessFlags (placed (Access.reader {} .classFile)))
      (inSection .accessFlags (Access.reader options .classFile)) start := by
  have hplaced := sifts_placed (Access.sifts_reader options .classFile start)
  refine (sifts_inSection .accessFlags hplaced).congr fun found stop hfound => ?_
  have hoffset := (gives_placed_iff.mp (gives_inSection_iff.mp hfound)).1
  refine Option.map_congr fun fault hfault => ?_
  rw [Options.eq_of_flagsViolation? hfault, hoffset]
  rfl

/-- The members of a kind are a section, and the first one with a violation counts. -/
lemma sifts_members {α : Type} (part : Section) (access : α → Access)
    {lenient strict : Decoder Fault α}
    (h : ∀ c, Sifts (fun member => options.flagsViolation? (access member)) id lenient strict c)
    (start : Cursor) :
    Sifts (fun found => found.findSome? fun member =>
        Site.violation? options ⟨part, member.1, access member.2⟩) (List.map Prod.snd)
      (inSection part (table (placed lenient))) (inSection part (table strict)) start := by
  refine (sifts_inSection part (sifts_table h start)).congr fun found _ _ => ?_
  rw [List.map_findSome?]
  refine congrArg (found.findSome? ·) (funext fun member => ?_)
  rw [Function.comp_apply, Option.map_map]
  refine Option.map_congr fun fault hfault => ?_
  rw [Options.eq_of_flagsViolation? hfault]
  rfl

end Sections

/-! ## Class files -/

/-- The first of two violations is refused, or else the second one. -/
lemma elim_or {α : Type} (first second : Option ClassFault) (value : Except ClassFault α) :
    (first.or second).elim value .error = first.elim (second.elim value .error) .error := by
  cases first <;> rfl

/-- What a survey finds, a decode finds, unless it refuses the first violation.

**Proof sketch.** The survey is taken apart into what its sections gave. The decode goes through the
same sections, each from where the one before it ended, and stops at a violation; so the violations
are met in the order in which they are listed. -/
theorem decode_eq_of_survey {bytes : Bytes} (options : Options) {file : ClassFile}
    {sites : List Site} (h : survey bytes = .ok (file, sites)) :
    decode bytes options = (firstViolation? options file sites).elim (.ok file) .error := by
  have hgives : Gives (surveyReader bytes) (.ofBytes bytes) (file, sites) _ := ⟨h, rfl⟩
  obtain ⟨version, c₁, hversion, hgives⟩ := gives_bind_iff.mp hgives
  obtain ⟨pool, c₂, hpool, hgives⟩ := gives_bind_iff.mp hgives
  obtain ⟨access, c₃, haccess, hgives⟩ := gives_bind_iff.mp hgives
  obtain ⟨⟨name, superName⟩, c₄, hnames, hgives⟩ := gives_bind_iff.mp hgives
  obtain ⟨interfaces, c₅, hinterfaces, hgives⟩ := gives_bind_iff.mp hgives
  obtain ⟨fields, c₆, hfields, hgives⟩ := gives_bind_iff.mp hgives
  obtain ⟨methods, c₇, hmethods, hgives⟩ := gives_bind_iff.mp hgives
  obtain ⟨attributes, c₈, hattributes, hgives⟩ := gives_bind_iff.mp hgives
  obtain ⟨file', c₉, hfile, hgives⟩ := gives_bind_iff.mp hgives
  cases hgives.1
  have hposition := position_of_header hversion
  rw [decode_eq, sectionsReader, (sifts_header options bytes).result_bind hversion]
  rw [(sifts_pool options hposition).result_bind hpool]
  rw [(sifts_access options c₂).result_bind haccess]
  dsimp only [id]
  -- names and interfaces are not checked
  rw [hnames.result_bind, hinterfaces.result_bind]
  rw [(sifts_members .fields Field.access (Field.sifts_reader options pool) c₅).result_bind hfields]
  rw [(sifts_members .methods Method.access (Method.sifts_reader options pool) c₆).result_bind
    hmethods]
  rw [hattributes.result_bind, (finish_apply _ c₈).1]
  cases (finish_apply _ c₈).1.symm.trans hfile.1
  rw [firstViolation?, sitesOf, List.cons_append, findSome?_cons_eq_or, List.findSome?_append,
    List.findSome?_map, List.findSome?_map]
  simp only [elim_or]
  rfl

/-- What a decode finds, whatever the options, a survey finds: without its checks, each section
gives the same. -/
theorem exists_survey_of_decode {bytes : Bytes} {options : Options} {file : ClassFile}
    (h : decode bytes options = .ok file) : ∃ sites, survey bytes = .ok (file, sites) := by
  have hgives : Gives (sectionsReader bytes options) (.ofBytes bytes) file _ := ⟨h, rfl⟩
  obtain ⟨version, c₁, hstrict, hgives⟩ := gives_bind_iff.mp hgives
  have hversion := (sifts_header options bytes).gives hstrict
  obtain ⟨pool, c₂, hstrict, hgives⟩ := gives_bind_iff.mp hgives
  have hpool := (sifts_pool options (position_of_header hversion)).gives hstrict
  obtain ⟨_, c₃, hstrict, hgives⟩ := gives_bind_iff.mp hgives
  obtain ⟨access, rfl, haccess⟩ := (sifts_access options c₂).keeps _ _ hstrict
  obtain ⟨⟨name, superName⟩, c₄, hnames, hgives⟩ := gives_bind_iff.mp hgives
  obtain ⟨interfaces, c₅, hinterfaces, hgives⟩ := gives_bind_iff.mp hgives
  obtain ⟨_, c₆, hstrict, hgives⟩ := gives_bind_iff.mp hgives
  obtain ⟨fields, rfl, hfields⟩ :=
    (sifts_members .fields Field.access (Field.sifts_reader options pool) c₅).keeps _ _ hstrict
  obtain ⟨_, c₇, hstrict, hgives⟩ := gives_bind_iff.mp hgives
  obtain ⟨methods, rfl, hmethods⟩ :=
    (sifts_members .methods Method.access (Method.sifts_reader options pool) c₆).keeps _ _ hstrict
  obtain ⟨attributes, c₈, hattributes, hgives⟩ := gives_bind_iff.mp hgives
  refine ⟨sitesOf access fields methods, ?_⟩
  rw [survey, surveyReader, hversion.result_bind, hpool.result_bind, haccess.result_bind,
    hnames.result_bind, hinterfaces.result_bind, hfields.result_bind, hmethods.result_bind,
    hattributes.result_bind, Gives.result_bind hgives]
  rfl

/-- The places of a survey are those of all flags of the class file. -/
lemma flags_of_survey {bytes : Bytes} {file : ClassFile} {sites : List Site}
    (h : survey bytes = .ok (file, sites)) :
    sites.map (fun site => (site.part, site.access)) = file.flags := by
  have hsurvey : Ensures (surveyReader bytes) (.ofBytes bytes) fun found _ =>
      found.2.map (fun site => (site.part, site.access)) = found.1.flags := by
    refine ensures_bind fun version _ => ensures_bind fun pool _ => ensures_bind fun access _ => ?_
    refine ensures_bind ?_
    rintro ⟨name, superName⟩ _
    refine ensures_bind fun interfaces _ =>
      ensures_bind fun fields _ => ensures_bind fun methods _ => ?_
    refine ensures_bind fun attributes _ => ensures_bind fun file hfile => ensures_pure ?_
    rw [(finish_apply _ _).1] at hfile
    cases hfile
    simp [flags, sitesOf, Function.comp_def]
  exact hsurvey _ h

/-- What holds of all flags of a class file holds of its own, of its fields' and of its methods'. -/
lemma forall_flags_iff {file : ClassFile} {P : Access → Prop} :
    (∀ found ∈ file.flags, P found.2) ↔
      P file.access ∧ (∀ field ∈ file.fields, P field.access) ∧
      ∀ method ∈ file.methods, P method.access := by
  rw [flags, List.cons_append, List.forall_mem_cons, List.forall_mem_append, List.forall_mem_map,
    List.forall_mem_map]

/-- There is no violation in a class file exactly if it passes the checks. -/
lemma firstViolation?_eq_none_iff {options : Options} {file : ClassFile} {sites : List Site}
    (h : sites.map (fun site => (site.part, site.access)) = file.flags) :
    firstViolation? options file sites = none ↔ options.Admits file := by
  have hsites : sites.findSome? (Site.violation? options) = none ↔
      ∀ found ∈ file.flags, options.strictAccess = true → found.2.isLegal = true := by
    rw [← h, List.findSome?_eq_none_iff, List.forall_mem_map]
    exact forall₂_congr fun site _ =>
      Option.map_eq_none_iff.trans options.flagsViolation?_eq_none_iff
  rw [firstViolation?, Option.or_eq_none_iff, Option.or_eq_none_iff, Option.map_eq_none_iff,
    Option.map_eq_none_iff, options.versionViolation?_eq_none_iff,
    options.poolViolation?_eq_none_iff,
    hsites, forall_flags_iff
      (P := fun access => options.strictAccess = true → access.isLegal = true)]
  constructor
  · rintro ⟨hversion, hpool, haccess, hfields, hmethods⟩
    exact ⟨hversion, hpool, haccess, fun hstrict field hfield => hfields field hfield hstrict,
      fun hstrict method hmethod => hmethods method hmethod hstrict⟩
  · intro hadmits
    exact ⟨hadmits.version, hadmits.pool, hadmits.access,
      fun field hfield hstrict => hadmits.fields hstrict field hfield,
      fun method hmethod hstrict => hadmits.methods hstrict method hmethod⟩

/-- Of a class file that is surveyed, the decode gives those that pass the checks. -/
lemma decode_eq_ok_iff_admits {bytes : Bytes} {options : Options} {file : ClassFile}
    {sites : List Site} (h : survey bytes = .ok (file, sites)) :
    decode bytes options = .ok file ↔ options.Admits file := by
  rw [decode_eq_of_survey options h, ← firstViolation?_eq_none_iff (flags_of_survey h)]
  cases firstViolation? options file sites <;> simp

/-- Of a class file that is surveyed, the decode refuses the first violation. -/
lemma decode_eq_error_iff_violation {bytes : Bytes} {options : Options} {file : ClassFile}
    {sites : List Site} {fault : ClassFault} (h : survey bytes = .ok (file, sites)) :
    decode bytes options = .error fault ↔ firstViolation? options file sites = some fault := by
  rw [decode_eq_of_survey options h]
  cases firstViolation? options file sites <;> simp

/-- A survey finds what a decode without checks finds. -/
lemma decode_eq_ok_iff_survey {bytes : Bytes} {file : ClassFile} :
    decode bytes {} = .ok file ↔ ∃ sites, survey bytes = .ok (file, sites) := by
  constructor
  · exact exists_survey_of_decode
  · rintro ⟨sites, hsurvey⟩
    exact (decode_eq_ok_iff_admits hsurvey).mpr ⟨nofun, nofun, nofun, nofun, nofun⟩

/-- **Options only filter**: a class file is decoded with some options exactly if it is decoded
without them and passes their checks. Where it is decoded without them only, the fault is the first
violation in the order of the file: of the version in the header at offset 4, of the references in
the pool at offset 8, or of the flags of the class, of a field or of a method in its section and at
the first byte of its record. -/
theorem decode_options (bytes : Bytes) (options : Options) :
    (∀ file, decode bytes options = .ok file ↔ decode bytes {} = .ok file ∧ options.Admits file) ∧
      ∀ file fault, decode bytes {} = .ok file → decode bytes options = .error fault →
        ∃ sites, survey bytes = .ok (file, sites) ∧
          sites.map (fun site => (site.part, site.access)) = file.flags ∧
          firstViolation? options file sites = some fault := by
  constructor
  · intro file
    constructor
    · intro hfile
      obtain ⟨sites, hsurvey⟩ := exists_survey_of_decode hfile
      exact ⟨decode_eq_ok_iff_survey.mpr ⟨sites, hsurvey⟩,
        (decode_eq_ok_iff_admits hsurvey).mp hfile⟩
    · rintro ⟨hfile, hadmits⟩
      obtain ⟨sites, hsurvey⟩ := decode_eq_ok_iff_survey.mp hfile
      exact (decode_eq_ok_iff_admits hsurvey).mpr hadmits
  · intro file fault hfile hfault
    obtain ⟨sites, hsurvey⟩ := decode_eq_ok_iff_survey.mp hfile
    exact ⟨sites, hsurvey, flags_of_survey hsurvey,
      (decode_eq_error_iff_violation hsurvey).mp hfault⟩

/-- A method that is both final and abstract, in a class file without other violations. -/
theorem decode_options_finalAbstract :
    ∃ file sites,
      survey (((nestedBodies [0, 0, 0xB1]).set 42 0x04).set 43 0x10) = .ok (file, sites) ∧
      firstViolation? ⟨true, some 52, true⟩ file sites =
        some ⟨.methods, 42, .illegalAccess .method 0x0410⟩ := by
  obtain ⟨file, hfile⟩ : ∃ file,
      decode (((nestedBodies [0, 0, 0xB1]).set 42 0x04).set 43 0x10) {} = .ok file :=
    exists_decode_eq_ok_iff.mpr (by decide +kernel)
  obtain ⟨sites, hsurvey, _, hviolation⟩ := (decode_options _ ⟨true, some 52, true⟩).2 file
    ⟨.methods, 42, .illegalAccess .method 0x0410⟩ hfile
      (decode_eq_error_iff.mpr (by decide +kernel))
  exact ⟨file, sites, hsurvey, hviolation⟩

end ClassFile

end ClassFormat
