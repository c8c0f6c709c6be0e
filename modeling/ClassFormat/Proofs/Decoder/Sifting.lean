import ClassFormat.Proofs.Decoder.Ensures

/-!
# Decoders that refuse more

Of two decoders of the same thing, one may check what the other one lets pass. This module relates
the two: where the lenient one finds something, the strict one finds the same, or fails with the
fault of the first check that is violated.

## Main definitions

* `ClassFormat.Decoder.Gives` — a decoder gives a value between two cursors.
* `ClassFormat.Decoder.Sifts` — a strict decoder beside a lenient one, and the violations that it
  refuses.
* `ClassFormat.Record.placed` — a record together with the position of its first byte.

## Main results

* `ClassFormat.Decoder.Sifts.after`, `ClassFormat.Decoder.Sifts.bind` — steps in a row: one that
  both decoders share, and one that only the lenient decoder lets pass.
* `ClassFormat.Decoder.Sifts.seq`, `ClassFormat.Record.sifts_table` — of many records, the first
  violation counts, at the position of its record.
* `ClassFormat.Decoder.Sifts.result_bind` — what the strict decoder does, read off the lenient one.
-/

namespace ClassFormat

namespace Decoder

variable {ε ε' α β γ : Type} {start stop : Cursor}

/-- The decoder gives a value from `start` on, and stops at `stop`. -/
def Gives (decoder : Decoder ε α) (start : Cursor) (value : α) (stop : Cursor) : Prop :=
  (decoder start).result = .ok value ∧ (decoder start).cursor = stop

/-- A value is given on the spot. -/
lemma gives_pure (value : α) (start : Cursor) :
    Gives (pure value : Decoder ε α) start value start :=
  ⟨rfl, rfl⟩

/-- Two steps give a value if the first one gives one from which the second one gives it. -/
lemma gives_bind_iff {first : Decoder ε α} {next : α → Decoder ε β} {value : β} :
    Gives (first >>= next) start value stop ↔
      ∃ middle c, Gives first start middle c ∧ Gives (next middle) c value stop := by
  constructor
  · rintro ⟨hresult, rfl⟩
    obtain ⟨middle, hmiddle, hrest, hcursor⟩ := exists_of_bind_ok hresult
    exact ⟨middle, _, ⟨hmiddle, rfl⟩, hrest, hcursor.symm⟩
  · rintro ⟨middle, _, ⟨hmiddle, rfl⟩, hresult, rfl⟩
    exact ⟨(result_bind_of_ok hmiddle).trans hresult, cursor_bind_of_ok hmiddle⟩

/-- A step that gives something is followed by what comes next. -/
lemma Gives.result_bind {first : Decoder ε α} {value : α} (h : Gives first start value stop)
    (next : α → Decoder ε β) : ((first >>= next) start).result = (next value stop).result := by
  rw [result_bind_of_ok h.1, h.2]

/-- What is given does not depend on faults. -/
lemma gives_mapFault_iff {decoder : Decoder ε α} {f : ε → ε'} {value : α} :
    Gives (decoder.mapFault f) start value stop ↔ Gives decoder start value stop :=
  and_congr_left' mapFault_ok_iff

/-- What a decoder ensures holds of what it gives. -/
lemma Ensures.of_gives {decoder : Decoder ε α} {post : α → Cursor → Prop}
    (h : Ensures decoder start post) {value : α} (hvalue : Gives decoder start value stop) :
    post value stop :=
  hvalue.2 ▸ h value hvalue.1

/-- What a strict decoder does from a cursor on, beside a lenient one. What the strict one gives,
the lenient one gives as well, up to a view; and what the lenient one gives, the strict one gives or
refuses, as the violation in it says. -/
structure Sifts (violation : β → Option ε) (view : β → α) (lenient : Decoder ε β)
    (strict : Decoder ε α) (start : Cursor) : Prop where
  keeps : ∀ value stop, Gives strict start value stop →
    ∃ found, view found = value ∧ Gives lenient start found stop
  passes : ∀ found stop, Gives lenient start found stop → violation found = none →
    Gives strict start (view found) stop
  refuses : ∀ found stop fault, Gives lenient start found stop → violation found = some fault →
    (strict start).result = .error fault

/-- A decoder sifts nothing out of itself. -/
lemma sifts_refl (decoder : Decoder ε α) (start : Cursor) :
    Sifts (fun _ => none) id decoder decoder start :=
  ⟨fun value _ h => ⟨value, rfl, h⟩, fun _ _ h _ => h, nofun⟩

/-- Only the violations in what is given matter. -/
lemma Sifts.congr {violation : β → Option ε} {view : β → α} {lenient : Decoder ε β}
    {strict : Decoder ε α} (h : Sifts violation view lenient strict start)
    {violation' : β → Option ε}
    (hviolation : ∀ found stop, Gives lenient start found stop →
      violation' found = violation found) :
    Sifts violation' view lenient strict start where
  keeps := h.keeps
  passes found stop hfound hnone :=
    h.passes found stop hfound (hviolation found stop hfound ▸ hnone)
  refuses found stop fault hfound hsome :=
    h.refuses found stop fault hfound (hviolation found stop hfound ▸ hsome)

section Check

variable {violation : α → Option ε} {value : α}

/-- A value without a violation is given by both decoders. -/
lemma sifts_pure (h : violation value = none) (start : Cursor) :
    Sifts violation id (pure value) (pure value : Decoder ε α) start := by
  refine (sifts_refl _ start).congr ?_
  rintro _ _ ⟨⟨⟩, _⟩
  exact h

/-- A value with a violation is refused. -/
lemma sifts_fail {fault : ε} (h : violation value = some fault) (start : Cursor) :
    Sifts violation id (pure value) (fail fault) start := by
  refine ⟨?_, ?_, ?_⟩
  · rintro _ _ ⟨⟨⟩, _⟩
  · rintro _ _ ⟨⟨⟩, _⟩ hnone
    rw [h] at hnone
    cases hnone
  · rintro _ _ cause ⟨⟨⟩, _⟩ hsome
    rw [h] at hsome
    cases hsome
    rfl

/-- The fault of a check that fails. -/
def refusal? : Except ε Unit → Option ε
  | .ok _ => none
  | .error fault => some fault

/-- A check refuses nothing exactly if it succeeds. -/
lemma refusal?_eq_none_iff {check : Except ε Unit} : refusal? check = none ↔ check = .ok () := by
  cases check <;> simp [refusal?]

/-- A check refuses with its fault. -/
lemma refusal?_eq_some_iff {check : Except ε Unit} {fault : ε} :
    refusal? check = some fault ↔ check = .error fault := by
  cases check <;> simp [refusal?]

/-- A check of a value that was found, if it is asked for. -/
lemma sifts_check (asked : Bool) (check : Except ε Unit)
    (h : violation value = if asked then refusal? check else none) (start : Cursor) :
    Sifts violation id (pure value)
      (if asked then do
        given check
        pure value
      else pure value) start := by
  cases asked with
  | false => exact sifts_pure h start
  | true =>
    cases check with
    | ok => exact sifts_pure h start
    | error fault => exact sifts_fail h start

end Check

/-- The first of many is the first one, or else the first of the others. -/
lemma findSome?_cons_eq_or (f : β → Option ε) (found : β) (rest : List β) :
    (found :: rest).findSome? f = (f found).or (rest.findSome? f) := by
  rw [List.findSome?_cons]
  cases f found <;> rfl

namespace Sifts

variable {violation : β → Option ε} {view : β → α} {lenient : Decoder ε β} {strict : Decoder ε α}

/-- Sifting goes through a change of faults. -/
lemma mapFault (h : Sifts violation view lenient strict start) (f : ε → ε') :
    Sifts (fun found => (violation found).map f) view (lenient.mapFault f)
      (strict.mapFault f) start := by
  refine ⟨?_, ?_, ?_⟩
  · intro value stop hvalue
    obtain ⟨found, hview, hfound⟩ := h.keeps value stop (gives_mapFault_iff.mp hvalue)
    exact ⟨found, hview, gives_mapFault_iff.mpr hfound⟩
  · intro found stop hfound hnone
    have hstrict :=
      h.passes found stop (gives_mapFault_iff.mp hfound) (Option.map_eq_none_iff.mp hnone)
    exact gives_mapFault_iff.mpr hstrict
  · intro found stop fault hfound hsome
    obtain ⟨cause, hcause, rfl⟩ := Option.map_eq_some_iff.mp hsome
    show (strict start).result.mapError f = _
    rw [h.refuses found stop cause (gives_mapFault_iff.mp hfound) hcause]
    rfl

/-- Without a view, what the strict decoder gives is what the lenient one gives. -/
lemma gives {violation : α → Option ε} {lenient : Decoder ε α}
    (h : Sifts violation id lenient strict start) {value : α}
    (hvalue : Gives strict start value stop) : Gives lenient start value stop := by
  obtain ⟨_, rfl, hfound⟩ := h.keeps value stop hvalue
  exact hfound

/-- What the strict decoder does before some other step. -/
lemma result_bind (h : Sifts violation view lenient strict start) {found : β}
    (hfound : Gives lenient start found stop) (next : α → Decoder ε γ) :
    ((strict >>= next) start).result =
      (violation found).elim (next (view found) stop).result .error := by
  cases hviolation : violation found with
  | none => exact (h.passes found stop hfound hviolation).result_bind next
  | some fault => exact result_bind_of_error (h.refuses found stop fault hfound hviolation)

/-- Steps that follow in both decoders. The second step is seen through a view of its own, and the
violation in the whole is the first one in the two. -/
lemma bind {δ ζ : Type} {lenientNext : β → Decoder ε ζ} {strictNext : α → Decoder ε δ}
    {violationNext : ζ → Option ε} {viewNext : ζ → δ}
    (h : Sifts violation view lenient strict start) {violation' : ζ → Option ε}
    (hnext : ∀ found c, Gives lenient start found c →
      Sifts violationNext viewNext (lenientNext found) (strictNext (view found)) c)
    (hviolation : ∀ found c, Gives lenient start found c →
      ∀ last stop, Gives (lenientNext found) c last stop →
        violation' last = (violation found).or (violationNext last)) :
    Sifts violation' viewNext (lenient >>= lenientNext) (strict >>= strictNext) start := by
  refine ⟨?_, ?_, ?_⟩
  · intro value stop hvalue
    obtain ⟨middle, c, hmiddle, hrest⟩ := gives_bind_iff.mp hvalue
    obtain ⟨found, rfl, hfound⟩ := h.keeps middle c hmiddle
    obtain ⟨last, hview, hlast⟩ := (hnext found c hfound).keeps value stop hrest
    exact ⟨last, hview, gives_bind_iff.mpr ⟨found, c, hfound, hlast⟩⟩
  · intro last stop hgives hnone
    obtain ⟨found, c, hfound, hlast⟩ := gives_bind_iff.mp hgives
    rw [hviolation found c hfound last stop hlast, Option.or_eq_none_iff] at hnone
    have hstrict := (hnext found c hfound).passes last stop hlast hnone.2
    exact gives_bind_iff.mpr ⟨_, c, h.passes found c hfound hnone.1, hstrict⟩
  · intro last stop fault hgives hsome
    obtain ⟨found, c, hfound, hlast⟩ := gives_bind_iff.mp hgives
    rw [hviolation found c hfound last stop hlast] at hsome
    rw [h.result_bind hfound]
    cases hfirst : violation found with
    | none =>
      rw [hfirst, Option.none_or] at hsome
      exact (hnext found c hfound).refuses last stop fault hlast hsome
    | some cause =>
      rw [hfirst, Option.some_or] at hsome
      cases hsome
      rfl

/-- A step that both decoders take first. -/
lemma after {first : Decoder ε γ} {lenient : γ → Decoder ε β} {strict : γ → Decoder ε α}
    (h : ∀ value c, Gives first start value c →
      Sifts violation view (lenient value) (strict value) c) :
    Sifts violation view (first >>= lenient) (first >>= strict) start :=
  (sifts_refl first start).bind h fun _ _ _ _ _ _ => Option.none_or.symm

/-- A change of what is found that both decoders make. -/
lemma map {δ ζ : Type} (h : Sifts violation view lenient strict start) {f : β → ζ} {g : α → δ}
    {violation' : ζ → Option ε} {view' : ζ → δ}
    (hviolation : ∀ found, violation' (f found) = violation found)
    (hview : ∀ found, view' (f found) = g (view found)) :
    Sifts violation' view' (do return f (← lenient)) (do return g (← strict)) start := by
  refine ⟨?_, ?_, ?_⟩
  · intro value stop hvalue
    obtain ⟨middle, _, hmiddle, ⟨⟩, rfl⟩ := gives_bind_iff.mp hvalue
    obtain ⟨found, rfl, hfound⟩ := h.keeps middle _ hmiddle
    exact ⟨f found, hview found, gives_bind_iff.mpr ⟨found, _, hfound, gives_pure _ _⟩⟩
  · intro last stop hlast hnone
    obtain ⟨found, _, hfound, ⟨⟩, rfl⟩ := gives_bind_iff.mp hlast
    have hstrict := h.passes found _ hfound (hviolation found ▸ hnone)
    exact gives_bind_iff.mpr ⟨_, _, hstrict, hview found ▸ gives_pure _ _⟩
  · intro last stop fault hlast hsome
    obtain ⟨found, _, hfound, ⟨⟩, rfl⟩ := gives_bind_iff.mp hlast
    exact result_bind_of_error (h.refuses found _ fault hfound (hviolation found ▸ hsome))

/-- Of many items, the first violation counts.

**Proof sketch.** Induction on the count. A violation in the first item hides those in the others.
-/
lemma seq (h : ∀ c, Sifts violation view lenient strict c) (count : Nat) (start : Cursor) :
    Sifts (fun found => found.findSome? violation) (List.map view) (seq count lenient)
      (seq count strict)
      start := by
  induction count generalizing start with
  | zero =>
    refine ⟨?_, ?_, ?_⟩
    · rintro _ _ ⟨⟨⟩, rfl⟩
      exact ⟨[], rfl, rfl, rfl⟩
    · rintro _ _ ⟨⟨⟩, rfl⟩ _
      exact ⟨rfl, rfl⟩
    · rintro _ _ _ ⟨⟨⟩, rfl⟩ ⟨⟩
  | succ count ih =>
    rw [seq_succ, seq_succ]
    have hrest : ∀ found c, Gives lenient start found c →
        Sifts (fun last => last.tail.findSome? violation) (List.map view)
          (do return found :: (← Decoder.seq count lenient))
          (do return view found :: (← Decoder.seq count strict)) c :=
      fun found c _ => (ih c).map (fun _ => rfl) fun _ => rfl
    refine (h start).bind hrest ?_
    intro found c _ last stop hlast
    obtain ⟨rest, _, _, ⟨⟩, rfl⟩ := gives_bind_iff.mp hlast
    exact findSome?_cons_eq_or violation found rest

end Sifts

end Decoder

namespace Record

open Decoder hiding word split split_ok

variable {α : Type} {start stop : Cursor}

/-- A record, and the position of its first byte. -/
def placed (record : Decoder Fault α) : Decoder Fault (Nat × α) := do
  let offset ← position
  return (offset, ← record)

/-- A record is given together with the position at which it begins. -/
lemma gives_placed_iff {record : Decoder Fault α} {found : Nat × α} :
    Gives (placed record) start found stop ↔
    found.1 = start.position ∧ Gives record start found.2 stop := by
  unfold placed
  constructor
  · intro h
    obtain ⟨_, _, ⟨⟨⟩, rfl⟩, hrest⟩ := gives_bind_iff.mp h
    obtain ⟨value, _, hvalue, ⟨⟩, rfl⟩ := gives_bind_iff.mp hrest
    exact ⟨rfl, hvalue⟩
  · obtain ⟨offset, value⟩ := found
    rintro ⟨rfl, hvalue⟩
    refine gives_bind_iff.mpr ⟨start.position, start, ⟨rfl, rfl⟩, ?_⟩
    exact gives_bind_iff.mpr ⟨value, stop, hvalue, gives_pure _ _⟩

variable {violation : α → Option Fault} {lenient strict : Decoder Fault α}

/-- A violation does not depend on the position that is kept beside a record. -/
lemma sifts_placed (h : Sifts violation id lenient strict start) :
    Sifts (fun found => violation found.2) Prod.snd (placed lenient) strict start := by
  refine ⟨?_, ?_, ?_⟩
  · intro value stop hvalue
    exact ⟨(start.position, value), rfl, gives_placed_iff.mpr ⟨rfl, h.gives hvalue⟩⟩
  · intro found stop hfound hnone
    exact h.passes found.2 stop (gives_placed_iff.mp hfound).2 hnone
  · intro found stop fault hfound hsome
    exact h.refuses found.2 stop fault (gives_placed_iff.mp hfound).2 hsome

/-- A record that is sifted out is located at its beginning. -/
lemma sifts_located {β : Type} {violation : β → Option Fault} {view : β → α}
    {lenient : Decoder Fault β} (h : Sifts violation view lenient strict start) :
    Sifts (fun found => (violation found).map (·.pinnedAt start.position)) view (located lenient)
      (located strict) start :=
  have hmapped := h.mapFault (·.pinnedAt start.position)
  ⟨hmapped.keeps, hmapped.passes, hmapped.refuses⟩

/-- Of the records of a table, the first violation counts, and is pinned to its record. -/
lemma sifts_table (h : ∀ c, Sifts violation id lenient strict c) (start : Cursor) :
    Sifts
      (fun found => found.findSome? fun record => (violation record.2).map (·.pinnedAt record.1))
      (List.map Prod.snd) (table (placed lenient)) (table strict) start := by
  refine Sifts.after fun count c _ => Sifts.seq (fun c => ?_) count.toNat c
  refine (sifts_located (sifts_placed (h c))).congr fun found stop hfound => ?_
  obtain ⟨hoffset, _⟩ := gives_placed_iff.mp (gives_mapFault_iff.mp hfound)
  rw [hoffset]

end Record

end ClassFormat
