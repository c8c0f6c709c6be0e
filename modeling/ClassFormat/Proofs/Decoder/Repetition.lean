import ClassFormat.Proofs.Decoder.Steps

/-!
# Repetitions and where they stop

A repetition decodes items one after the other. This module says what it has decoded when it ends,
also when an item fails on the way: the items before that one stay read, and if the item itself does
not move on a fault, the cursor stands right behind them.

## Main definitions

* `ClassFormat.Decoder.Chain` — items that are decoded one after the other.
* `ClassFormat.Decoder.Repeats` — what a repetition has to do.
* `ClassFormat.Decoder.FailsInPlace` — a decoder that stays where it is if it fails.

## Main results

* `ClassFormat.Decoder.repeats_seq` — a sequence of items does what a repetition has to do.
* `ClassFormat.Decoder.failsInPlace_take`, `ClassFormat.Decoder.failsInPlace_split`,
  `ClassFormat.Decoder.failsInPlace_expect` — reads that fail do not move.
-/

namespace ClassFormat

namespace Decoder

variable {ε α : Type} {item : Decoder ε α} {c d : Cursor}

/-- Items that are decoded one after the other, each from where the one before it stopped. -/
inductive Chain (item : Decoder ε α) : Cursor → List α → Cursor → Prop
  | nil (c : Cursor) : Chain item c [] c
  | cons {c d : Cursor} {value : α} {values : List α} :
      (item c).result = .ok value → Chain item (item c).cursor values d →
      Chain item c (value :: values) d

/-- What a repetition has to do: it decodes as many items as are asked for and stops behind them,
unless an item fails before that. Then it stops where that item did. -/
inductive Repeats (item : Decoder ε α) (c : Cursor) (count : Nat) :
    Except ε (List α) → Cursor → Prop
  | all {values : List α} {d : Cursor} :
      values.length = count → Chain item c values d → Repeats item c count (.ok values) d
  | fails {values : List α} {d : Cursor} {fault : ε} :
      values.length < count → Chain item c values d → (item d).result = .error fault →
      Repeats item c count (.error fault) (item d).cursor

/-- An item in front of a repetition. -/
lemma Repeats.cons {value : α} {count : Nat} {result : Except ε (List α)}
    (hfirst : (item c).result = .ok value) (h : Repeats item (item c).cursor count result d) :
    Repeats item c (count + 1) (result.map (value :: ·)) d := by
  cases h with
  | all hlength hchain => exact .all (congrArg Nat.succ hlength) (.cons hfirst hchain)
  | @fails values d fault hlength hchain hfails =>
    have hmore : (value :: values).length < count + 1 := Nat.succ_lt_succ hlength
    exact .fails hmore (.cons hfirst hchain) hfails

/-- A sequence takes one item after the other, up to its count or to the first fault. -/
theorem repeats_seq (item : Decoder ε α) (c : Cursor) (count : Nat) :
    Repeats item c count (seq count item c).result (seq count item c).cursor := by
  induction count generalizing c with
  | zero => exact .all rfl (.nil c)
  | succ count ih =>
    rw [seq_succ]
    cases hfirst : (item c).result with
    | error fault =>
      have hnone : ([] : List α).length < count + 1 := Nat.succ_pos count
      rw [bind_apply_of_error hfirst]
      exact .fails hnone (.nil c) hfirst
    | ok value =>
      rw [bind_apply_of_ok hfirst, bind_pure_apply]
      exact (ih (item c).cursor).cons hfirst

/-- A decoder that stays where it is if it fails. -/
def FailsInPlace (decoder : Decoder ε α) : Prop :=
  ∀ c fault, (decoder c).result = .error fault → (decoder c).cursor = c

/-- Taking bytes stays where it is if some are missing. -/
lemma failsInPlace_take (count : Nat) : (take count).FailsInPlace := by
  intro c fault hfault
  by_cases hle : count ≤ c.remaining
  · rw [take_apply_of_le hle] at hfault
    cases hfault
  · rw [take_apply_of_lt (Nat.lt_of_not_le hle)]
    rfl

/-- To change what a decoder finds does not change where it stops. -/
lemma FailsInPlace.of_map {β : Type} {decoder : Decoder ε β} (h : item.FailsInPlace)
    (hmap : ∀ c, ∃ f, decoder c = (item c).map f) : decoder.FailsInPlace := by
  intro c fault hfault
  obtain ⟨f, hf⟩ := hmap c
  rw [hf] at hfault ⊢
  cases hresult : (item c).result with
  | ok value =>
    rw [Outcome.map, hresult] at hfault
    cases hfault
  | error cause => exact h c cause hresult

/-- Opening a window stays where it is if bytes are missing. -/
lemma failsInPlace_split (count : Nat) : (split count).FailsInPlace :=
  (failsInPlace_take count).of_map fun c => ⟨fun _ => c.inner count, bind_pure_apply _ _ _⟩

/-- Bytes that are not the expected ones are not passed. -/
lemma failsInPlace_expect (bytes : Bytes) : (expect bytes).FailsInPlace := by
  intro c fault hfault
  unfold expect at hfault ⊢
  dsimp only at hfault ⊢
  split
  · rfl
  · next found hfound =>
    rw [hfound] at hfault
    dsimp only at hfault
    split
    · rfl
    · next hnone =>
      rw [hnone] at hfault
      dsimp only [Outcome.map] at hfault
      rw [hfound] at hfault
      cases hfault

/-- If items stay where they are on a fault, a repetition that fails stops right behind those it
decoded. -/
lemma Repeats.chain_of_failsInPlace {count : Nat} {fault : ε} (hitem : item.FailsInPlace)
    (h : Repeats item c count (.error fault) d) :
    ∃ values, values.length < count ∧ Chain item c values d ∧ (item d).result = .error fault := by
  cases h with
  | @fails values d fault hlength hchain hfails =>
    rw [hitem d fault hfails]
    exact ⟨values, hlength, hchain, hfails⟩

end Decoder

end ClassFormat
