import ClassFormat.Proofs.Decoder.Steps

/-!
# Laws of outcomes

Many statements about decoders speak of single outcomes: what their journals hold, or what their
faults are about. Such a statement passes from steps to sequences of steps, and from there to
repetitions. This module says so once for all of them.

## Main definitions

* `ClassFormat.Law` — a statement about outcomes that passes from two steps to both in a row.
* `ClassFormat.Law.ofFault` — the law that says something about faults.
* `ClassFormat.Decoder.Obeys` — a decoder whose outcome from a given cursor obeys a law.

## Main results

* `ClassFormat.Decoder.Obeys.bind`, `ClassFormat.Decoder.Obeys.seq`,
  `ClassFormat.Decoder.Obeys.grow`, `ClassFormat.Decoder.Obeys.untilEmpty` — sequences and
  repetitions of decoders that obey a law.
* `ClassFormat.Decoder.obeys_given`, `ClassFormat.Decoder.obeys_inside` — look-ups and windows under
  a law about faults.
-/

namespace ClassFormat

/-- A statement about outcomes that holds of those without any reading, and of two steps in a row if
it holds of both. -/
structure Law (ε : Type) where
  Holds : {α : Type} → {start : Cursor} → Outcome ε α start → Prop
  pure : ∀ {α : Type} {start : Cursor} (value : α), Holds (Outcome.pure value : Outcome ε α start)
  andThen : ∀ {α β : Type} {start : Cursor} {first : Outcome ε α start}
    {next : α → (c : Cursor) → Outcome ε β c}, Holds first →
    (∀ value, first.result = .ok value → Holds (next value first.cursor)) →
    Holds (first.andThen next)

/-- The law of outcomes whose faults have a property. -/
def Law.ofFault {ε : Type} (P : ε → Prop) : Law ε where
  Holds outcome := ∀ fault, outcome.result = .error fault → P fault
  pure _ := nofun
  andThen {_ _ _ first next} hfirst hnext := by
    unfold Outcome.andThen
    split
    · next value h => exact hnext value h
    · next fault h =>
      rintro _ ⟨⟩
      exact hfirst fault h

namespace Decoder

variable {ε α β : Type} {law : Law ε}

/-- A decoder whose outcome from `start` obeys a law. -/
def Obeys (law : Law ε) (decoder : Decoder ε α) (start : Cursor) : Prop :=
  law.Holds (decoder start)

/-- To give a value obeys every law. -/
lemma obeys_pure (value : α) (start : Cursor) : Obeys law (pure value) start :=
  law.pure value

/-- To look where one stands obeys every law. -/
lemma obeys_here (start : Cursor) : Obeys law here start :=
  law.pure start

/-- To ask for the position obeys every law. -/
lemma obeys_position (start : Cursor) : Obeys law position start :=
  law.pure start.position

/-- Two steps in a row; the second one starts where the first one stopped. -/
lemma Obeys.bind {first : Decoder ε α} {next : α → Decoder ε β} {start : Cursor}
    (hfirst : Obeys law first start)
    (hnext : ∀ value, (first start).result = .ok value →
      Obeys law (next value) (first start).cursor) :
    Obeys law (first >>= next) start :=
  law.andThen hfirst hnext

/-- The items of a growing list obey a law if each one does, from wherever it starts. -/
lemma Obeys.grow {next : Array α → Decoder ε α} {start : Cursor}
    (h : ∀ items c, start ≤ c → Obeys law (next items) c) (count : Nat) :
    Obeys law (grow count next) start := by
  rw [grow_eq_growOnto]
  generalize (#[] : Array α) = items
  induction count generalizing items start with
  | zero => exact obeys_pure items start
  | succ count ih =>
    refine (h items start start.le_refl).bind fun item _ => ?_
    have hahead := (next items start).ahead
    exact ih (fun items c hc => h items c (Cursor.le_trans hahead hc)) (items.push item)

/-- A sequence obeys a law if its items do, wherever they begin. -/
lemma Obeys.seq {item : Decoder ε α} {start : Cursor} (h : ∀ c, start ≤ c → Obeys law item c)
    (count : Nat) : Obeys law (seq count item) start := by
  induction count generalizing start with
  | zero => exact obeys_pure [] start
  | succ count ih =>
    rw [seq_succ]
    refine (h start start.le_refl).bind fun first _ => ?_
    have hahead := (item start).ahead
    exact (ih fun c hc => h c (Cursor.le_trans hahead hc)).bind fun rest _ => obeys_pure _ _

/-- Items up to the end of the window obey a law if each of them does. -/
lemma Obeys.untilEmpty {item : Decoder ε α} (advances : item.Advances) {start : Cursor}
    (h : ∀ c, start ≤ c → Obeys law item c) : Obeys law (untilEmpty item advances) start := by
  generalize hn : start.remaining = n
  induction n using Nat.strongRecOn generalizing start with
  | _ n ih =>
    rw [untilEmpty_eq]
    refine (obeys_here start).bind fun c _ => ?_
    split
    · exact obeys_pure [] _
    · refine Obeys.bind (h start start.le_refl) fun first hfirst => ?_
      have hahead := (item start).ahead
      have hlt := Cursor.remaining_lt_of_le hahead (advances start first hfirst)
      have hrest := ih _ (hn ▸ hlt) (fun c hc => h c (Cursor.le_trans hahead hc)) rfl
      exact hrest.bind fun rest _ => obeys_pure _ _

/-! ## Laws of faults -/

section OfFault

variable {P : ε → Prop} {start : Cursor}

/-- A failure obeys a law on faults if its fault does. -/
lemma obeys_fail {fault : ε} (h : P fault) :
    Obeys (Law.ofFault P) (fail fault : Decoder ε α) start := by
  rintro _ ⟨⟩
  exact h

/-- A note obeys every law on faults. -/
lemma obeys_note (event : Event) : Obeys (Law.ofFault P) (note event) start :=
  nofun

/-- A result from elsewhere obeys a law on faults if its fault does. -/
lemma obeys_given {found : Except ε α} (h : ∀ fault, found = .error fault → P fault) :
    Obeys (Law.ofFault P) (given found) start := by
  cases found with
  | ok value => exact obeys_pure value start
  | error fault => exact obeys_fail (h fault rfl)

/-- A fault in a window is a fault outside. -/
lemma obeys_inside {window : Cursor} {decoder : Decoder ε α}
    (h : Obeys (Law.ofFault P) decoder window) :
    Obeys (Law.ofFault P) (inside window decoder) start := by
  intro fault hfault
  change (decoder window).result.map _ = _ at hfault
  cases hresult : (decoder window).result with
  | ok value =>
    rw [hresult] at hfault
    cases hfault
  | error cause =>
    rw [hresult] at hfault
    cases hfault
    exact h _ hresult

end OfFault

end Decoder

end ClassFormat
