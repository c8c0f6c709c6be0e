import ClassFormat.Pool.Reader
import ClassFormat.Proofs.Text.Faults
import ClassFormat.Proofs.Text.OnePass
import ClassFormat.Proofs.Walk.Windows

/-!
# The byte that is to blame

A byte string that is no text begins with a run of units, and behind the longest such run stands a
byte that decides which one is blamed: itself if it begins no unit, else the first byte of its unit
that is out of place, and the byte itself again if the unit is cut short. What was read before has
no say in it, not even a high surrogate, behind which a reader in one pass looks at the next unit
twice.

## Main definitions

* `ClassFormat.Modified.LongestRun` — the longest run of units that a byte string begins with.
* `ClassFormat.Modified.Culprit` — the byte that is to blame where no unit begins.

## Main results

* `ClassFormat.Modified.failsBehindRun_of_unitsOnto` — a scan that fails blames the culprit behind a
  run of units.
* `ClassFormat.Modified.Culprit.eq_nil_of_spells` — no unit begins where there is a culprit, so that
  this run is the longest one.
* `ClassFormat.Constant.textReader_eq_error_iff` — both readers blame the culprit behind the longest
  run.
-/

namespace ClassFormat

namespace Modified

/-- The longest run of units that the bytes begin with. -/
structure LongestRun (bytes run : Bytes) : Prop where
  isPrefix : run <+: bytes
  spelled : ∃ us, Spells run us
  longest : ∀ other, other <+: bytes → (∃ us, Spells other us) → other.length ≤ run.length

/-- The byte begins a unit and calls for so many continuation bytes. -/
def CallsFor (lead : UInt8) (count : Nat) : Prop :=
  0x01 ≤ lead.toNat ∧ lead.toNat ≤ 0x7F ∧ count = 0 ∨
  0xC0 ≤ lead.toNat ∧ lead.toNat ≤ 0xDF ∧ count = 1 ∨
  0xE0 ≤ lead.toNat ∧ lead.toNat ≤ 0xEF ∧ count = 2

/-- What a lead byte calls for is a matter of comparisons. -/
instance (lead : UInt8) (count : Nat) : Decidable (CallsFor lead count) :=
  inferInstanceAs (Decidable (_ ∨ _ ∨ _))

/-- The byte to blame for bytes that stand at a position and begin with no unit: the first one if it
begins no unit at all, else the first one that does not continue its unit, and where the bytes end
before that, the first one again. -/
inductive Culprit (offset : Nat) : Bytes → TextFault → Prop
  | stray {byte : UInt8} {rest : Bytes} :
      byte = 0 ∨ IsContinuation byte ∨ 0xF0 ≤ byte.toNat →
        Culprit offset (byte :: rest) ⟨offset, byte⟩
  | outOfPlace {lead byte : UInt8} {count : Nat} {passed rest : Bytes} :
      CallsFor lead count → (∀ byte ∈ passed, IsContinuation byte) → passed.length < count →
      ¬IsContinuation byte →
      Culprit offset (lead :: (passed ++ byte :: rest)) ⟨offset + (passed.length + 1), byte⟩
  | cutShort {lead : UInt8} {count : Nat} {passed : Bytes} :
      CallsFor lead count → (∀ byte ∈ passed, IsContinuation byte) → passed.length < count →
      Culprit offset (lead :: passed) ⟨offset, lead⟩

section Leads

variable {lead : UInt8} {count : Nat}

/-- A unit has one byte more than its lead calls for. -/
lemma unitLength?_eq_some_iff : unitLength? lead = some (count + 1) ↔ CallsFor lead count := by
  unfold unitLength? CallsFor
  grind

/-- No lead byte calls for more than two others. -/
lemma CallsFor.le_two (h : CallsFor lead count) : count ≤ 2 := by
  unfold CallsFor at h
  omega

/-- Fewer continuation bytes than a byte calls for are none, or one of two. -/
lemma CallsFor.cases_passed {passed : Bytes} (h : CallsFor lead count)
    (hpassed : passed.length < count) :
    passed = [] ∧ (count = 1 ∨ count = 2) ∨ (∃ second, passed = [second]) ∧ count = 2 := by
  have hle := h.le_two
  obtain hzero | hone : passed.length = 0 ∨ passed.length = 1 := by omega
  · exact .inl ⟨List.eq_nil_of_length_eq_zero hzero, by omega⟩
  · exact .inr ⟨List.length_eq_one_iff.mp hone, by omega⟩

/-- A lead byte calls for one number of others only. -/
lemma CallsFor.unique {other : Nat} (h : CallsFor lead count) (hother : CallsFor lead other) :
    count = other := by
  unfold CallsFor at h hother
  omega

/-- The bytes with which no unit begins. -/
lemma unitLength?_eq_none_iff :
    unitLength? lead = none ↔ lead = 0 ∨ IsContinuation lead ∨ 0xF0 ≤ lead.toNat := by
  have hzero : lead = 0 ↔ lead.toNat = 0 := UInt8.toNat_inj.symm
  unfold unitLength? IsContinuation
  grind

/-- A byte begins no unit, or calls for continuation bytes. -/
lemma stray_or_callsFor (lead : UInt8) :
    (lead = 0 ∨ IsContinuation lead ∨ 0xF0 ≤ lead.toNat) ∨ ∃ count, CallsFor lead count := by
  cases hlength : unitLength? lead with
  | none => exact .inl (unitLength?_eq_none_iff.mp hlength)
  | some length =>
    cases length with
    | zero =>
      unfold unitLength? at hlength
      grind
    | succ count => exact .inr ⟨count, unitLength?_eq_some_iff.mp hlength⟩

/-- A unit is a first byte with the continuation bytes that it calls for. -/
lemma IsUnit.exists_callsFor {bytes : Bytes} {unit : UInt16} (h : IsUnit bytes unit) :
    ∃ lead rest, bytes = lead :: rest ∧ CallsFor lead rest.length ∧
      ∀ byte ∈ rest, IsContinuation byte := by
  cases h with
  | one hlead => exact ⟨_, _, rfl, .inl ⟨hlead.1, hlead.2, rfl⟩, nofun⟩
  | two hlead hsecond =>
    exact ⟨_, _, rfl, .inr (.inl ⟨hlead.1, hlead.2, rfl⟩), List.forall_mem_singleton.mpr hsecond⟩
  | three hlead hsecond hthird =>
    refine ⟨_, _, rfl, .inr (.inr ⟨hlead.1, hlead.2, rfl⟩), ?_⟩
    exact List.forall_mem_cons.mpr ⟨hsecond, List.forall_mem_singleton.mpr hthird⟩

end Leads

/-! ## Scans that fail -/

section Scan

variable {offset : Nat} {bytes : Bytes} {fault : TextFault}

/-- A scan blames the culprit. -/
lemma unitsOnto_of_culprit (h : Culprit offset bytes fault) (done : List UInt16) :
    unitsOnto offset done bytes = .error fault := by
  cases h with
  | stray hbyte => simp [unitsOnto, unitLength?_eq_none_iff.mpr hbyte]
  | @outOfPlace lead byte count passed rest hlead hcontinue hpassed hbyte =>
    have hlength := unitLength?_eq_some_iff.mpr hlead
    obtain ⟨rfl, rfl | rfl⟩ | ⟨⟨second, rfl⟩, rfl⟩ := hlead.cases_passed hpassed
    · simp [unitsOnto, hlength, hbyte]
    · cases rest <;> simp [unitsOnto, hlength, hbyte]
    · simp [unitsOnto, hlength, hbyte, hcontinue]
  | @cutShort lead count passed hlead hcontinue hpassed =>
    have hlength := unitLength?_eq_some_iff.mpr hlead
    obtain ⟨rfl, rfl | rfl⟩ | ⟨⟨second, rfl⟩, rfl⟩ := hlead.cases_passed hpassed
    · simp [unitsOnto, hlength]
    · simp [unitsOnto, hlength]
    · simp [unitsOnto, hlength, hcontinue]

/-- Bytes that are a run of units with a culprit behind it. -/
def FailsBehindRun (offset : Nat) (bytes : Bytes) (fault : TextFault) : Prop :=
  ∃ run us behind, bytes = run ++ behind ∧ Spells run us ∧
    Culprit (offset + run.length) behind fault

/-- A culprit at the beginning stands behind an empty run. -/
lemma Culprit.failsBehindRun (h : Culprit offset bytes fault) : FailsBehindRun offset bytes fault :=
  ⟨[], [], bytes, rfl, .nil, h⟩

/-- A unit in front makes the run longer. -/
lemma FailsBehindRun.cons {front rest : Bytes} {unit : UInt16} (hunit : IsUnit front unit)
    (h : FailsBehindRun (offset + front.length) rest fault) :
    FailsBehindRun offset (front ++ rest) fault := by
  obtain ⟨run, us, behind, rfl, hrun, hculprit⟩ := h
  refine ⟨front ++ run, unit :: us, behind, (List.append_assoc _ _ _).symm, .cons hunit hrun, ?_⟩
  rwa [List.length_append, ← Nat.add_assoc]

/-- A scan that fails has passed a run of units and blames the culprit behind it.

**Proof sketch.** Induction along the scan, as for the scans that succeed: a step that goes on
passes a unit, and each of the others finds a culprit. -/
lemma failsBehindRun_of_unitsOnto {done : List UInt16}
    (h : unitsOnto offset done bytes = .error fault) : FailsBehindRun offset bytes fault := by
  fun_induction unitsOnto offset done bytes with
  | case1 => cases h
  | case2 _ _ lead _ hlead ih =>
    exact .cons (.one (unitLength?_eq_one_iff.mp hlead) (toNat_unitOfOne lead)) (ih h)
  | case3 _ _ _ _ _ hlead hsecond ih =>
    have hrange := unitLength?_eq_two_iff.mp hlead
    exact .cons (.two hrange hsecond (toNat_unitOfTwo hrange hsecond)) (ih h)
  | case7 _ _ _ _ _ _ hlead hsecond hthird ih =>
    have hrange := unitLength?_eq_three_iff.mp hlead
    exact .cons (.three hrange hsecond hthird (toNat_unitOfThree hrange hsecond hthird)) (ih h)
  -- the second byte is out of place, then the third one
  | case4 _ _ _ _ _ hlead hsecond | case6 _ _ _ _ hlead hsecond | case9 _ _ _ _ _ _ hlead hsecond =>
    cases h
    exact (Culprit.outOfPlace (unitLength?_eq_some_iff.mp hlead) (List.forall_mem_nil _) (by simp)
      hsecond).failsBehindRun
  | case8 _ _ _ _ _ _ hlead hsecond hthird =>
    cases h
    exact (Culprit.outOfPlace (unitLength?_eq_some_iff.mp hlead)
      (List.forall_mem_singleton.mpr hsecond) (by simp)
      hthird).failsBehindRun
  -- the bytes end behind the second one, then behind the first one
  | case5 _ _ _ _ hlead hsecond =>
    cases h
    exact (Culprit.cutShort (unitLength?_eq_some_iff.mp hlead)
      (List.forall_mem_singleton.mpr hsecond)
      (by simp)).failsBehindRun
  | case10 _ _ lead rest hone htwo hthree hthree' =>
    cases h
    obtain hlead | ⟨count, hlead⟩ := stray_or_callsFor lead
    · exact (Culprit.stray hlead).failsBehindRun
    · have hlength := unitLength?_eq_some_iff.mpr hlead
      have hle := hlead.le_two
      -- a byte that calls for others has none behind it here
      obtain rfl | rfl | rfl : count = 0 ∨ count = 1 ∨ count = 2 := by omega
      · exact (hone hlength).elim
      · cases rest with
        | nil => exact (Culprit.cutShort hlead (List.forall_mem_nil _) (by simp)).failsBehindRun
        | cons second rest => exact (htwo second rest hlength rfl).elim
      · cases rest with
        | nil => exact (Culprit.cutShort hlead (List.forall_mem_nil _) (by simp)).failsBehindRun
        | cons second rest =>
          cases rest with
          | nil => exact (hthree second hlength rfl).elim
          | cons third rest => exact (hthree' second third rest hlength rfl).elim

/-- Where there is a culprit, no unit begins. -/
lemma Culprit.eq_nil_of_spells (h : Culprit offset bytes fault) {run : Bytes} {us : List UInt16}
    (hrun : Spells run us) (hbegins : run <+: bytes) : run = [] := by
  cases hrun with
  | nil => rfl
  | @cons front rest unit us hunit =>
    exfalso
    obtain ⟨lead, tail, rfl, hlead, hall⟩ := hunit.exists_callsFor
    have hfront : lead :: tail <+: bytes := (List.prefix_append _ _).trans hbegins
    cases h with
    | stray hbyte =>
      obtain rfl := (List.cons_prefix_cons.mp hfront).1
      have hlength := unitLength?_eq_some_iff.mpr hlead
      rw [unitLength?_eq_none_iff.mpr hbyte] at hlength
      cases hlength
    | @outOfPlace _ byte count passed rest hcount hcontinue hpassed hbyte =>
      -- the unit would hold the byte that is out of place
      obtain ⟨rfl, htail⟩ := List.cons_prefix_cons.mp hfront
      have hlength := hlead.unique hcount
      have hlong : passed ++ [byte] <+: tail :=
        List.prefix_of_prefix_length_le (by simp) htail (by simp; omega)
      exact hbyte (hall byte (hlong.mem (by simp)))
    | cutShort hcount hcontinue hpassed =>
      obtain ⟨rfl, htail⟩ := List.cons_prefix_cons.mp hfront
      have hlength := hlead.unique hcount
      have hle := htail.length_le
      omega

end Scan

/-! ## The longest run -/

section Runs

variable {base : Nat} {bytes run behind : Bytes}

/-- Behind a run of units the scan goes on with what follows. -/
lemma unitsOnto_append_of_spells {us : List UInt16} (h : Spells run us) (offset : Nat)
    (done : List UInt16) (rest : Bytes) :
    unitsOnto offset done (run ++ rest) =
      unitsOnto (offset + run.length) (us.reverse ++ done) rest := by
  induction h generalizing offset done with
  | nil => rfl
  | cons hunit _ ih =>
    rw [List.append_assoc, unitsOnto_of_isUnit hunit, ih, List.length_append, Nat.add_assoc,
      List.reverse_cons, List.append_assoc]
    rfl

/-- A longer run goes on with a run of its own. -/
lemma exists_spells_of_append {us all : List UInt16} (hrun : Spells run us)
    (hall : Spells (run ++ behind) all) : ∃ others, Spells behind others := by
  have hscan := unitsOnto_of_spells hall 0 []
  rw [unitsOnto_append_of_spells hrun] at hscan
  obtain ⟨others, hothers, -⟩ := exists_spells_of_unitsOnto hscan
  exact ⟨others, hothers⟩

/-- There is one longest run only. -/
lemma LongestRun.unique {other : Bytes} (h : LongestRun bytes run)
    (hother : LongestRun bytes other) : run = other := by
  have hlength : run.length = other.length :=
    Nat.le_antisymm (hother.longest run h.isPrefix h.spelled)
      (h.longest other hother.isPrefix hother.spelled)
  exact (List.prefix_of_prefix_length_le h.isPrefix hother.isPrefix hlength.le).eq_of_length hlength

/-- Bytes that are units throughout are their own longest run. -/
lemma longestRun_of_spells {us : List UInt16} (h : Spells bytes us) : LongestRun bytes bytes :=
  ⟨List.prefix_rfl, ⟨us, h⟩, fun _ hother _ => hother.length_le⟩

/-- A run with a culprit behind it is the longest one. -/
lemma longestRun_of_culprit {us : List UInt16} {offset : Nat} {fault : TextFault}
    (hrun : Spells run us) (hculprit : Culprit offset behind fault) :
    LongestRun (run ++ behind) run := by
  refine ⟨List.prefix_append run behind, ⟨us, hrun⟩, fun other hother ⟨all, hall⟩ => ?_⟩
  by_contra hlt
  -- a longer run goes on with units where the culprit leaves no room for any
  obtain ⟨more, rfl⟩ :=
    List.prefix_of_prefix_length_le (List.prefix_append run behind) hother (by omega)
  obtain ⟨others, hothers⟩ := exists_spells_of_append hrun hall
  have hnil := hculprit.eq_nil_of_spells hothers ((List.prefix_append_right_inj run).mp hother)
  rw [hnil, List.append_nil] at hlt
  exact hlt le_rfl

/-- Every byte string has a longest run. -/
lemma exists_longestRun (bytes : Bytes) : ∃ run, LongestRun bytes run := by
  cases hunits : units 0 bytes with
  | ok us => exact ⟨bytes, longestRun_of_spells (units_eq_ok_iff.mp hunits)⟩
  | error fault =>
    obtain ⟨run, us, behind, rfl, hrun, hculprit⟩ := failsBehindRun_of_unitsOnto hunits
    exact ⟨run, longestRun_of_culprit hrun hculprit⟩

/-- The scan blames the culprit behind the longest run. -/
lemma units_eq_error_iff (hrun : LongestRun (run ++ behind) run) {cause : TextFault} :
    units base (run ++ behind) = .error cause ↔ Culprit (base + run.length) behind cause := by
  constructor
  · intro h
    obtain ⟨other, us, rest, heq, hother, hculprit⟩ := failsBehindRun_of_unitsOnto h
    obtain rfl := hrun.unique (heq ▸ longestRun_of_culprit hother hculprit)
    rwa [List.append_cancel_left heq]
  · intro h
    obtain ⟨us, hus⟩ := hrun.spelled
    rw [units, unitsOnto_append_of_spells hus]
    exact unitsOnto_of_culprit h _

/-- The scan succeeds exactly if the longest run is everything. -/
lemma exists_units_eq_ok_iff (hrun : LongestRun (run ++ behind) run) :
    (∃ us, units base (run ++ behind) = .ok us) ↔ behind = [] := by
  constructor
  · rintro ⟨us, hus⟩
    have hle := hrun.longest _ List.prefix_rfl ⟨us, units_eq_ok_iff.mp hus⟩
    rw [List.length_append] at hle
    exact List.eq_nil_of_length_eq_zero (by omega)
  · rintro rfl
    obtain ⟨us, hus⟩ := hrun.spelled
    rw [List.append_nil]
    exact ⟨us, units_eq_ok_iff.mpr hus⟩

end Runs

/-- One pass fails exactly as the scan of the units does. -/
lemma scan_eq_error_iff {base : Nat} {bytes : Bytes} {cause : TextFault} :
    scan base bytes = .error cause ↔ units base bytes = .error cause := by
  rw [scan_eq_spell, spell]
  cases units base bytes <;> simp [Except.map]

end Modified

namespace Constant

open Modified

variable {start : Cursor}

/-- The text is what the units spell, and it is blamed for what they are blamed for. -/
lemma textReader_eq_spell (start : Cursor) :
    (textReader start).result = (spell start.position start.rest).mapError .invalidText := by
  rw [← text_decode]
  unfold textReader
  cases decode start.position start.rest <;> rfl

/-- Reading a text fails exactly as the scan of its units does. -/
lemma textReader_eq_error_iff_units {fault : Fault} :
    (textReader start).result = .error fault ↔
      ∃ cause, fault = .invalidText cause ∧ units start.position start.rest = .error cause := by
  rw [textReader_eq_spell, spell]
  cases units start.position start.rest with
  | ok us => simp [Except.map, Except.mapError]
  | error cause => simp [Except.map, Except.mapError, eq_comm]

/-- Reading a text succeeds exactly if the scan of its units does. -/
lemma exists_textReader_eq_ok_iff :
    (∃ text, (textReader start).result = .ok text) ↔
    ∃ us, units start.position start.rest = .ok us := by
  rw [textReader_eq_spell, spell]
  cases units start.position start.rest <;> simp [Except.map, Except.mapError]

/-- **The blame is exact.** The text in a window has one longest run of units. It can be read
exactly if this run is all of it, and otherwise the fault is the byte to blame behind the run, by
its position in the input from which the window was had. A reader in one pass, which looks ahead
behind a high surrogate, blames the same byte. -/
theorem textReader_eq_error_iff (start : Cursor) :
    (∃! run, LongestRun start.rest run) ∧
    ∀ run behind, LongestRun start.rest run → start.rest = run ++ behind →
      ((∃ text, (textReader start).result = .ok text) ↔ behind = []) ∧
      (∀ fault, (textReader start).result = .error fault ↔
        ∃ cause, fault = .invalidText cause ∧ Culprit (start.position + run.length) behind cause) ∧
      (∀ cause, scan start.position start.rest = .error cause ↔
        Culprit (start.position + run.length) behind cause) ∧
      ∀ input cause, Cursor.Obtained input start →
        Culprit (start.position + run.length) behind cause →
        StandsAt input cause.offset [cause.byte] := by
  constructor
  · obtain ⟨run, hrun⟩ := exists_longestRun start.rest
    exact ⟨run, hrun, fun other hother => hother.unique hrun⟩
  intro run behind hrun hrest
  have hrun' : LongestRun (run ++ behind) run := hrest ▸ hrun
  have hunits : ∀ cause, units start.position start.rest = .error cause ↔
      Culprit (start.position + run.length) behind cause := by
    intro cause
    rw [hrest]
    exact units_eq_error_iff hrun'
  refine ⟨?_, fun fault => ?_, fun cause => ?_, fun input cause hobtained hcause => ?_⟩
  · rw [← exists_units_eq_ok_iff hrun', ← hrest, exists_textReader_eq_ok_iff]
  · simp only [textReader_eq_error_iff_units, hunits]
  · rw [scan_eq_error_iff, hunits]
  · have hviews := (Cursor.within_iff.mp hobtained.within).1
    exact standsAt_of_unitsOnto_error hviews.rest ((hunits cause).mpr hcause)

/-- Behind three bytes that do not belong to the text, a high surrogate and a unit whose third byte
is out of place. -/
theorem textReader_eq_error_iff_behindHighSurrogate :
    ∃ start, Cursor.Obtained [0, 0, 0, 0xED, 0xA0, 0x80, 0xED, 0xB0, 0x41] start ∧
      LongestRun start.rest [0xED, 0xA0, 0x80] ∧
      start.rest = [0xED, 0xA0, 0x80] ++ [0xED, 0xB0, 0x41] ∧
      (textReader start).result = .error (.invalidText ⟨8, 0x41⟩) ∧
      StandsAt [0, 0, 0, 0xED, 0xA0, 0x80, 0xED, 0xB0, 0x41] 8 [0x41] := by
  have hculprit : Culprit 6 [0xED, 0xB0, 0x41] ⟨8, 0x41⟩ :=
    @Culprit.outOfPlace 6 0xED 0x41 2 [0xB0] [] (by decide)
      (List.forall_mem_singleton.mpr (by decide)) (by decide)
      (by decide)
  have hunit : IsUnit [0xED, 0xA0, 0x80] 0xD800 :=
    .three (by decide) (by decide) (by decide) (by decide)
  let behind := (Decoder.take 3 (.ofBytes [0, 0, 0, 0xED, 0xA0, 0x80, 0xED, 0xB0, 0x41])).cursor
  have hobtained : Cursor.Obtained [0, 0, 0, 0xED, 0xA0, 0x80, 0xED, 0xB0, 0x41] (behind.inner 6) :=
    @Cursor.Obtained.split _ _ _ 6 (.read (Decoder.take 3) .ofBytes) rfl
  have hrun : LongestRun (behind.inner 6).rest [0xED, 0xA0, 0x80] :=
    longestRun_of_culprit (.cons hunit .nil) hculprit
  obtain ⟨-, herror, -, hstands⟩ := (textReader_eq_error_iff (behind.inner 6)).2 _ _ hrun rfl
  exact ⟨behind.inner 6, hobtained, hrun, rfl, (herror _).mpr ⟨_, rfl, hculprit⟩,
    hstands _ _ hobtained hculprit⟩

end Constant

end ClassFormat
