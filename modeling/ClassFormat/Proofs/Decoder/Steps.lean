import ClassFormat.Record
import Mathlib.Tactic.Lemma

/-!
# Decoders step by step

The repetitions of a decoder carry accumulators, and its outcomes carry proofs. This module puts
both out of sight: decoders form a lawful monad, every repetition is a sequence of steps, and the
reads that move on are spelled out once, for a window that is long enough and for one that is not.

## Main definitions

* `ClassFormat.Decoder.growOnto` — items behind the ones found so far, one step for each.

## Main results

* `ClassFormat.Decoder.grow_eq_growOnto`, `ClassFormat.Decoder.seq_succ`,
  `ClassFormat.Decoder.untilEmpty_eq` — the repetitions in steps.
* `ClassFormat.Decoder.take_apply_of_le`, `ClassFormat.Decoder.take_apply_of_lt` — taking bytes,
  from a window with enough of them and from one with too few.
-/

namespace ClassFormat

namespace Cursor

/-- A later cursor has the unread bytes of an earlier one, less those passed in between. -/
lemma rest_eq_drop_of_le {c d : Cursor} (h : c ≤ d) :
    d.rest = c.rest.drop (d.offset - c.offset) := by
  rw [d.rest_eq, c.rest_eq, List.drop_drop, h.1, Nat.add_sub_cancel' h.2.2]

/-- Of two cursors, a later one stands at a later position. -/
lemma position_le_of_le {c d : Cursor} (h : c ≤ d) : c.position ≤ d.position := by
  have hbase := h.2.1
  have hoffset := h.2.2
  unfold position
  omega

end Cursor

namespace Outcome

variable {ε α β γ : Type} {start : Cursor}

/-- Outcomes with the same result, cursor and journal are equal. -/
@[ext] theorem ext {a b : Outcome ε α start} (hresult : a.result = b.result)
    (hcursor : a.cursor = b.cursor) (hjournal : a.journal = b.journal) : a = b := by
  cases a
  cases b
  simp only at hresult hcursor hjournal
  subst hresult hcursor hjournal
  rfl

/-- To give on what was found changes nothing. -/
lemma andThen_pure (first : Outcome ε α start) :
    first.andThen (fun value _ => pure value) = first := by
  obtain ⟨result, cursor, ahead, journal⟩ := first
  cases result with
  | ok value => simp [andThen, pure]
  | error fault => rfl

/-- Of three steps, it does not matter which two are taken together. -/
lemma andThen_andThen (first : Outcome ε α start) (second : α → (c : Cursor) → Outcome ε β c)
    (third : β → (c : Cursor) → Outcome ε γ c) :
    (first.andThen second).andThen third =
      first.andThen fun value c => (second value c).andThen third := by
  obtain ⟨result, cursor, ahead, journal⟩ := first
  cases result with
  | error fault => rfl
  | ok value =>
    apply Outcome.ext <;> cases h : (second value cursor).result <;> simp [andThen, h]

end Outcome

namespace Decoder

variable {ε ε' α β γ : Type}

/-- Decoders in sequence obey the laws of a monad. -/
instance : LawfulMonad (Decoder ε) :=
  LawfulMonad.mk' _ (fun decoder => funext fun start => (decoder start).andThen_pure)
    (fun _ _ => rfl)
    (fun decoder second third => funext fun start => (decoder start).andThen_andThen second third)

section Bind

variable {first : Decoder ε α} {next : α → Decoder ε β} {start : Cursor}

/-- Behind a success, the result is that of the second step. -/
lemma result_bind_of_ok {value : α} (h : (first start).result = .ok value) :
    ((first >>= next) start).result = (next value (first start).cursor).result := by
  rw [bind_apply_of_ok h]

/-- Behind a success, the cursor is that of the second step. -/
lemma cursor_bind_of_ok {value : α} (h : (first start).result = .ok value) :
    ((first >>= next) start).cursor = (next value (first start).cursor).cursor := by
  rw [bind_apply_of_ok h]

/-- Behind a success, the second step adds its notes to those of the first one. -/
lemma journal_bind_of_ok {value : α} (h : (first start).result = .ok value) :
    ((first >>= next) start).journal =
      (first start).journal ++ (next value (first start).cursor).journal := by
  rw [bind_apply_of_ok h]

/-- Behind a failure, the result is that failure. -/
lemma result_bind_of_error {fault : ε} (h : (first start).result = .error fault) :
    ((first >>= next) start).result = .error fault := by
  rw [bind_apply_of_error h]

/-- Behind a failure, the cursor stays where the first step left it. -/
lemma cursor_bind_of_error {fault : ε} (h : (first start).result = .error fault) :
    ((first >>= next) start).cursor = (first start).cursor := by
  rw [bind_apply_of_error h]

end Bind

/-- A result from elsewhere does not move the cursor. -/
lemma cursor_given (found : Except ε α) (start : Cursor) : (given found start).cursor = start := by
  cases found <;> rfl

/-- A result from elsewhere is the result. -/
lemma result_given (found : Except ε α) (start : Cursor) : (given found start).result = found := by
  cases found <;> rfl

/-- A step that only changes the value found changes the value of the outcome. -/
lemma bind_pure_apply (decoder : Decoder ε α) (f : α → β) (start : Cursor) :
    (decoder >>= fun value => pure (f value)) start = (decoder start).map f := by
  cases h : (decoder start).result with
  | ok value =>
    rw [bind_apply_of_ok h]
    exact Outcome.ext (by simp [Outcome.map, h, Except.map]; rfl) rfl (List.append_nil _)
  | error fault =>
    rw [bind_apply_of_error h]
    exact Outcome.ext (by simp [Outcome.map, h, Except.map]) rfl rfl

/-- A decoder whose faults are changed fails where it would fail otherwise. -/
lemma exists_of_mapFault_error {decoder : Decoder ε α} {f : ε → ε'} {start : Cursor} {fault : ε'}
    (h : (decoder.mapFault f start).result = .error fault) :
    ∃ cause, (decoder start).result = .error cause ∧ f cause = fault := by
  change (decoder start).result.mapError f = _ at h
  cases hresult : (decoder start).result with
  | ok value =>
    rw [hresult] at h
    cases h
  | error cause =>
    rw [hresult] at h
    cases h
    exact ⟨cause, rfl, rfl⟩

/-! ## A fixed count of items -/

/-- Decodes `count` further items behind `items`, each with the ones before it in view. -/
def growOnto (next : Array α → Decoder ε α) : Nat → Array α → Decoder ε (Array α)
  | 0, items => pure items
  | count + 1, items => do
    let item ← next items
    growOnto next count (items.push item)

/-- What was noted so far only stands in front of what is still to come. -/
lemma growFrom_eq (next : Array α → Decoder ε α) {start c : Cursor} (count : Nat) (items : Array α)
    (hc : start ≤ c) (log : List Event) :
    growFrom start (fun items c _ => next items c) count items c hc log =
      { result := (growOnto next count items c).result
        cursor := (growOnto next count items c).cursor
        ahead := Cursor.le_trans hc (growOnto next count items c).ahead
        journal := log.reverse ++ (growOnto next count items c).journal } := by
  induction count generalizing items c log with
  | zero => exact Outcome.ext rfl rfl (List.append_nil _).symm
  | succ count ih =>
    cases h : (next items c).result with
    | ok item =>
      have hsteps : growOnto next (count + 1) items c = _ := bind_apply_of_ok h
      rw [growFrom]
      simp only [hsteps]
      split
      · next found hfound =>
        rw [h] at hfound
        cases hfound
        rw [ih]
        simp
      · next fault hfault =>
        rw [h] at hfault
        cases hfault
    | error fault =>
      have hsteps : growOnto next (count + 1) items c = _ := bind_apply_of_error h
      rw [growFrom]
      simp only [hsteps]
      split
      · next found hfound =>
        rw [h] at hfound
        cases hfound
      · next fault hfault =>
        rw [h] at hfault
        cases hfault
        simp

/-- Growing a list is taking one item after the other. -/
theorem grow_eq_growOnto (count : Nat) (next : Array α → Decoder ε α) :
    grow count next = growOnto next count #[] := by
  funext start
  rw [grow, growFrom_eq]
  rfl

/-- Only the steps that are taken matter: those behind fewer items than there are in the end. -/
lemma growOnto_congr {next next' : Array α → Decoder ε α} {count : Nat} {items : Array α}
    (h : ∀ found, found.size < items.size + count → next found = next' found) :
    growOnto next count items = growOnto next' count items := by
  induction count generalizing items with
  | zero => rfl
  | succ count ih =>
    simp only [growOnto]
    rw [h items (by omega)]
    refine bind_congr fun item => ih fun found hfound => h found ?_
    rw [Array.size_push] at hfound
    omega

/-- Repetitions are the same if their items are, behind fewer items than the count. -/
lemma grow_congr {next next' : Array α → Decoder ε α} {count : Nat}
    (h : ∀ items, items.size < count → next items = next' items) :
    grow count next = grow count next' := by
  rw [grow_eq_growOnto, grow_eq_growOnto]
  exact growOnto_congr fun items hitems => h items (by simpa using hitems)

/-- Items that do not depend on those before them can be put behind them afterwards. -/
lemma growOnto_eq_bind (item : Decoder ε α) (count : Nat) (items : Array α) :
    growOnto (fun _ => item) count items = do
      let found ← growOnto (fun _ => item) count #[]
      return items ++ found := by
  induction count generalizing items with
  | zero => simp [growOnto]
  | succ count ih =>
    simp only [growOnto]
    rw [bind_assoc]
    congr 1
    funext value
    rw [ih (items.push value), ih (#[].push value)]
    simp

/-- A sequence is a repetition whose items do not look at the earlier ones. -/
lemma seq_eq_growOnto (count : Nat) (item : Decoder ε α) :
    seq count item = do return (← growOnto (fun _ => item) count #[]).toList := by
  funext start
  show (growFrom start (fun _ c _ => item c) count #[] start start.le_refl []).map Array.toList = _
  rw [growFrom_eq fun _ => item, bind_pure_apply]
  rfl

/-- A sequence of items is the first one and the others. -/
theorem seq_succ (count : Nat) (item : Decoder ε α) :
    seq (count + 1) item = do
      let first ← item
      let rest ← seq count item
      return first :: rest := by
  rw [seq_eq_growOnto, seq_eq_growOnto, growOnto, bind_assoc]
  congr 1
  funext value
  rw [growOnto_eq_bind]
  simp

/-! ## Items up to the end of the window -/

section UntilEmpty

variable {item : Decoder ε α} {advances : item.Advances} {start c : Cursor}

/-- At the end of the window, the items are complete. -/
lemma untilEmptyFrom_of_isEmpty (hempty : c.isEmpty) (items : Array α) (hc : start ≤ c)
    (log : List Event) :
    untilEmptyFrom start item advances items c hc log =
      { result := .ok items.toList, cursor := c, ahead := hc, journal := log.reverse } := by
  rw [untilEmptyFrom, if_pos hempty]

/-- Before the end of the window, an item is put behind the earlier ones. -/
lemma untilEmptyFrom_of_ok (hempty : ¬c.isEmpty) {value : α} (h : (item c).result = .ok value)
    (items : Array α) (hc : start ≤ c) (log : List Event) :
    untilEmptyFrom start item advances items c hc log =
      untilEmptyFrom start item advances (items.push value) (item c).cursor
        (Cursor.le_trans hc (item c).ahead) ((item c).journal.reverse ++ log) := by
  rw [untilEmptyFrom, if_neg hempty]
  dsimp only
  split
  · next found hfound =>
    rw [h] at hfound
    cases hfound
    rfl
  · next fault hfault =>
    rw [h] at hfault
    cases hfault

/-- Before the end of the window, an item that fails makes all fail. -/
lemma untilEmptyFrom_of_error (hempty : ¬c.isEmpty) {fault : ε} (h : (item c).result = .error fault)
    (items : Array α) (hc : start ≤ c) (log : List Event) :
    untilEmptyFrom start item advances items c hc log =
      { result := .error fault
        cursor := (item c).cursor
        ahead := Cursor.le_trans hc (item c).ahead
        journal := log.reverse ++ (item c).journal } := by
  rw [untilEmptyFrom, if_neg hempty]
  dsimp only
  split
  · next found hfound =>
    rw [h] at hfound
    cases hfound
  · next fault hfault =>
    rw [h] at hfault
    cases hfault
    simp

/-- Items and notes of the way so far only stand in front of what is still to come.

**Proof sketch.** Induction on the bytes that are left: at the end nothing is to come, and an item
leaves fewer bytes than there were before it. -/
lemma untilEmptyFrom_eq (items : Array α) (hc : start ≤ c) (log : List Event) :
    untilEmptyFrom start item advances items c hc log =
      { result := (untilEmpty item advances c).result.map (items.toList ++ ·)
        cursor := (untilEmpty item advances c).cursor
        ahead := Cursor.le_trans hc (untilEmpty item advances c).ahead
        journal := log.reverse ++ (untilEmpty item advances c).journal } := by
  generalize hn : c.remaining = n
  induction n using Nat.strongRecOn generalizing start c items log with
  | _ n ih =>
    unfold untilEmpty
    by_cases hempty : c.isEmpty
    · rw [untilEmptyFrom_of_isEmpty hempty, untilEmptyFrom_of_isEmpty hempty]
      simp [Except.map]
    · cases h : (item c).result with
      | error fault =>
        rw [untilEmptyFrom_of_error hempty h, untilEmptyFrom_of_error hempty h]
        simp [Except.map]
      | ok value =>
        have hlt := Cursor.remaining_lt_of_le (item c).ahead (advances c value h)
        rw [untilEmptyFrom_of_ok hempty h, untilEmptyFrom_of_ok hempty h,
          ih _ (hn ▸ hlt) _ _ _ rfl, ih _ (hn ▸ hlt) _ _ _ rfl]
        cases (untilEmpty item advances (item c).cursor).result <;> simp [Except.map]

end UntilEmpty

/-- Items up to the end of the window are none at the end, and otherwise the first one and the
others. -/
theorem untilEmpty_eq (item : Decoder ε α) (advances : item.Advances) :
    untilEmpty item advances = do
      if (← here).isEmpty then return []
      else
        let first ← item
        let rest ← untilEmpty item advances
        return first :: rest := by
  funext c
  show _ = (if c.isEmpty then (pure [] : Decoder ε (List α)) else _) c
  rw [untilEmpty]
  by_cases hempty : c.isEmpty
  · rw [untilEmptyFrom_of_isEmpty hempty, if_pos hempty]
    rfl
  · rw [if_neg hempty]
    cases h : (item c).result with
    | error fault =>
      rw [untilEmptyFrom_of_error hempty h, bind_apply_of_error h]
      rfl
    | ok value =>
      rw [untilEmptyFrom_of_ok hempty h, bind_apply_of_ok h, untilEmptyFrom_eq]
      simp only [bind_pure_apply]
      exact Outcome.ext rfl rfl (by simp [Outcome.map])

/-! ## Reads that move on -/

/-- Taking no more bytes than there are. -/
lemma take_apply_of_le {count : Nat} {start : Cursor} (h : count ≤ start.remaining) :
    take count start =
      { result := .ok (start.rest.take count)
        cursor := start.advance count h
        ahead := start.le_advance count h
        journal := [] } := by
  unfold take
  exact dif_pos (by rw [List.length_take]; exact Nat.min_eq_left h)

/-- Taking more bytes than there are. -/
lemma take_apply_of_lt {count : Nat} {start : Cursor} (h : start.remaining < count) :
    take count start = Outcome.fail (start.shortage start.offset count) := by
  unfold take
  refine dif_neg ?_
  rw [List.length_take]
  unfold Cursor.remaining at h
  omega

/-- A word for which there are bytes is read from them. -/
lemma word_apply_of_le [Word α] {start : Cursor} (h : Word.size α ≤ start.remaining) :
    (word : Decoder ReadFault α) start =
      { result := .ok (Word.ofBytes (start.rest.take (Word.size α)))
        cursor := start.advance (Word.size α) h
        ahead := start.le_advance (Word.size α) h
        journal := [] } := by
  rw [word, bind_pure_apply, take_apply_of_le h]
  rfl

/-- A word for which there are too few bytes is a shortage. -/
lemma word_apply_of_lt [Word α] {start : Cursor} (h : start.remaining < Word.size α) :
    (word : Decoder ReadFault α) start =
      Outcome.fail (start.shortage start.offset (Word.size α)) := by
  rw [word, bind_pure_apply, take_apply_of_lt h]
  rfl

/-- A window for which there are bytes is opened on them, and they are passed. -/
lemma split_apply_of_le {count : Nat} {start : Cursor} (h : count ≤ start.remaining) :
    split count start =
      { result := .ok (start.inner count)
        cursor := start.advance count h
        ahead := start.le_advance count h
        journal := [] } := by
  show (take count >>= fun _ => pure (start.inner count)) start = _
  rw [bind_pure_apply, take_apply_of_le h]
  rfl

/-- A window for which there are too few bytes is a shortage. -/
lemma split_apply_of_lt {count : Nat} {start : Cursor} (h : start.remaining < count) :
    split count start = Outcome.fail (start.shortage start.offset count) := by
  show (take count >>= fun _ => pure (start.inner count)) start = _
  rw [bind_pure_apply, take_apply_of_lt h]
  rfl

end Decoder

end ClassFormat
