import ClassFormat.Bytes.Cursor
import ClassFormat.Journal

/-!
# Decoders

A decoder starts at a cursor and ends with a value or a fault, at a cursor that stands in the same
window and not before the start, having written a journal. That it never leaves its window and never
goes back is part of its type, so that decoders can be repeated and nested without further argument.

## Main definitions

* `ClassFormat.Outcome`, `ClassFormat.Decoder` — what a decode ends with, and a decoder.
* `ClassFormat.Decoder.take`, `ClassFormat.Decoder.word`, `ClassFormat.Decoder.split` — the reads
  that move on: bytes, a word, and a window of its own.
* `ClassFormat.Decoder.seq`, `ClassFormat.Decoder.grow` — a fixed count of items, alike or each with
  the ones before it in view.
* `ClassFormat.Decoder.untilEmpty` — items up to the end of the window.

## Main results

* `ClassFormat.Decoder.bind_apply_of_ok`, `ClassFormat.Decoder.exists_of_bind_ok` — two steps in a
  row are one after the other.
* `ClassFormat.Decoder.take_ok` — taking bytes gives just these bytes and moves behind them.

## Design

The repetitions keep what they have got so far in accumulators, so that long ones run in constant
stack. A decoder that is repeated up to the end of the window has to move on with every item
(`ClassFormat.Decoder.Advances`).
-/

namespace ClassFormat

/-- What a decode from `start` ends with. -/
structure Outcome (ε α : Type) (start : Cursor) where
  /-- The value, or the fault. -/
  result : Except ε α
  /-- Where the decode stopped. -/
  cursor : Cursor
  ahead : start ≤ cursor
  /-- What happened on the way, in order. -/
  journal : List Event

namespace Outcome

variable {ε ε' α β : Type} {start : Cursor}

/-- A value without any reading. -/
def pure (value : α) : Outcome ε α start where
  result := .ok value
  cursor := start
  ahead := start.le_refl
  journal := []

/-- A fault without any reading. -/
def fail (fault : ε) : Outcome ε α start where
  result := .error fault
  cursor := start
  ahead := start.le_refl
  journal := []

/-- Goes on from where a decode stopped, if it gave a value. -/
def andThen (first : Outcome ε α start) (next : α → (c : Cursor) → Outcome ε β c) :
    Outcome ε β start :=
  match first.result with
  | .ok value =>
    let second := next value first.cursor
    { result := second.result
      cursor := second.cursor
      ahead := Cursor.le_trans first.ahead second.ahead
      journal := first.journal ++ second.journal }
  | .error fault =>
    { result := .error fault
      cursor := first.cursor
      ahead := first.ahead
      journal := first.journal }

/-- Goes on from where a decode stopped, knowing that it gave the value. -/
def andThenKnowing (first : Outcome ε α start)
    (next : (value : α) → first.result = .ok value → Outcome ε β first.cursor) :
    Outcome ε β start :=
  match h : first.result with
  | .ok value =>
    let second := next value h
    { result := second.result
      cursor := second.cursor
      ahead := Cursor.le_trans first.ahead second.ahead
      journal := first.journal ++ second.journal }
  | .error fault =>
    { result := .error fault
      cursor := first.cursor
      ahead := first.ahead
      journal := first.journal }

/-- A second step that makes no use of the knowledge does not need it. -/
theorem andThenKnowing_eq_andThen (first : Outcome ε α start)
    (next : α → (c : Cursor) → Outcome ε β c) :
    first.andThenKnowing (fun value _ => next value first.cursor) = first.andThen next := by
  unfold andThenKnowing andThen
  split <;> simp_all

/-- The outcome with its value changed. -/
def map (f : α → β) (outcome : Outcome ε α start) : Outcome ε β start :=
  { outcome with result := outcome.result.map f }

/-- The outcome with its fault changed. -/
def mapFault (f : ε → ε') (outcome : Outcome ε α start) : Outcome ε' α start :=
  { outcome with result := outcome.result.mapError f }

/-- The outcome of a decode in a window, seen from a cursor outside that stays where it is. The
value comes with the place where the decode ended in the window. -/
def enclosed {window : Cursor} (inner : Outcome ε α window) (start : Cursor) :
    Outcome ε (α × Cursor) start where
  result := inner.result.map fun value => (value, inner.cursor)
  cursor := start
  ahead := start.le_refl
  journal := inner.journal

end Outcome

/-- A way to decode from any cursor. -/
def Decoder (ε α : Type) : Type :=
  (start : Cursor) → Outcome ε α start

namespace Decoder

variable {ε ε' α β : Type}

/-- Decoders in sequence: the second one goes on from where the first one stopped, unless that
failed. -/
instance : Monad (Decoder ε) where
  pure value := fun _ => Outcome.pure value
  bind first next := fun start => (first start).andThen next

/-- Ends with a fault. -/
def fail (fault : ε) : Decoder ε α :=
  fun _ => Outcome.fail fault

/-- Ends with what was found without reading. -/
def given : Except ε α → Decoder ε α
  | .ok value => pure value
  | .error fault => fail fault

/-- Notes an event. -/
def note (event : Event) : Decoder ε Unit :=
  fun start => { (Outcome.pure () : Outcome ε Unit start) with journal := [event] }

/-- The cursor as it stands. -/
def here : Decoder ε Cursor :=
  fun start => Outcome.pure start

/-- The absolute position. -/
def position : Decoder ε Nat :=
  fun start => Outcome.pure start.position

/-- A decoder whose faults are changed. -/
def mapFault (f : ε → ε') (decoder : Decoder ε α) : Decoder ε' α :=
  fun start => (decoder start).mapFault f

/-! ## Reads that move on -/

/-- The next `count` bytes. -/
def take (count : Nat) : Decoder ReadFault Bytes :=
  fun start =>
    let found := start.rest.take count
    if h : found.length = count then
      have hle := start.le_remaining_of_length_take h
      { result := .ok found
        cursor := start.advance count hle
        ahead := start.le_advance count hle
        journal := [] }
    else
      Outcome.fail (start.shortage start.offset count)

/-- The next word. -/
def word [Word α] : Decoder ReadFault α := do
  let bytes ← take (Word.size α)
  return Word.ofBytes bytes

/-- A window of the next `count` bytes. -/
def split (count : Nat) : Decoder ReadFault Cursor := do
  let start ← here
  let _ ← take count
  return start.inner count

/-- Decodes inside a window, and tells where that ended there. -/
def inside (window : Cursor) (decoder : Decoder ε α) : Decoder ε (α × Cursor) :=
  fun start => (decoder window).enclosed start

/-- Reads bytes that have to be the given ones; otherwise the first that differs is blamed. -/
def expect (bytes : Bytes) : Decoder ReadFault Unit :=
  fun start =>
    let outcome := take bytes.length start
    match outcome.result with
    | .error fault => Outcome.fail fault
    | .ok found =>
      match (found.zip bytes).findIdx? fun (a, b) => a != b with
      | some i => Outcome.fail (.mismatch (start.position + i))
      | none => outcome.map fun _ => ()

/-! ## Repetition -/

/-- Decodes `count` further items behind `items`, each with the ones before it in view, on the way
from `start`; `log` holds the journal so far in reverse. -/
def growFrom (start : Cursor)
    (next : Array α → (c : Cursor) → start ≤ c → Outcome ε α c) :
    Nat → Array α → (c : Cursor) → start ≤ c → List Event → Outcome ε (Array α) start
  | 0, items, c, hc, log =>
    { result := .ok items, cursor := c, ahead := hc, journal := log.reverse }
  | count + 1, items, c, hc, log =>
    let outcome := next items c hc
    let log := outcome.journal.reverse ++ log
    have ahead := Cursor.le_trans hc outcome.ahead
    match outcome.result with
    | .ok item => growFrom start next count (items.push item) outcome.cursor ahead log
    | .error fault =>
      { result := .error fault, cursor := outcome.cursor, ahead := ahead, journal := log.reverse }

/-- Decodes `count` items, each with the ones before it in view. -/
def grow (count : Nat) (next : Array α → Decoder ε α) : Decoder ε (Array α) :=
  fun start => growFrom start (fun items c _ => next items c) count #[] start start.le_refl []

/-- Decodes `count` items on the way from `start`, by a decoder that is defined ahead of `start`
only. -/
def seqFrom (start : Cursor) (count : Nat) (item : (c : Cursor) → start ≤ c → Outcome ε α c) :
    Outcome ε (List α) start :=
  (growFrom start (fun _ c hc => item c hc) count #[] start start.le_refl []).map Array.toList

/-- Decodes `count` items. -/
def seq (count : Nat) (item : Decoder ε α) : Decoder ε (List α) :=
  fun start => seqFrom start count fun c _ => item c

/-- A decoder that moves on whenever it gives a value. -/
def Advances (decoder : Decoder ε α) : Prop :=
  ∀ start value, (decoder start).result = .ok value → start.offset < (decoder start).cursor.offset

/-- Decodes items up to the end of the window, behind `items`, on the way from `start`; `log` holds
the journal so far in reverse. -/
def untilEmptyFrom (start : Cursor) (item : Decoder ε α) (advances : item.Advances)
    (items : Array α) (c : Cursor) (hc : start ≤ c) (log : List Event) :
    Outcome ε (List α) start :=
  if c.isEmpty then
    { result := .ok items.toList, cursor := c, ahead := hc, journal := log.reverse }
  else
    let outcome := item c
    let log := outcome.journal.reverse ++ log
    have ahead := Cursor.le_trans hc outcome.ahead
    match h : outcome.result with
    | .ok value =>
      have := Cursor.remaining_lt_of_le outcome.ahead (advances c value h)
      untilEmptyFrom start item advances (items.push value) outcome.cursor ahead log
    | .error fault =>
      { result := .error fault, cursor := outcome.cursor, ahead := ahead, journal := log.reverse }
termination_by c.remaining

/-- Decodes items up to the end of the window. -/
def untilEmpty (item : Decoder ε α) (advances : item.Advances) : Decoder ε (List α) :=
  fun start => untilEmptyFrom start item advances #[] start start.le_refl []

/-! ## What a decode in two steps does -/

/-- If the first step gives a value, the second one goes on from where it stopped. -/
theorem bind_apply_of_ok {first : Decoder ε α} {next : α → Decoder ε β} {start : Cursor} {value : α}
    (h : (first start).result = .ok value) :
    (first >>= next) start =
      { result := (next value (first start).cursor).result
        cursor := (next value (first start).cursor).cursor
        ahead := Cursor.le_trans (first start).ahead (next value (first start).cursor).ahead
        journal := (first start).journal ++ (next value (first start).cursor).journal } := by
  show Outcome.andThen _ _ = _
  unfold Outcome.andThen
  rw [h]

/-- If the first step fails, so do both. -/
theorem bind_apply_of_error {first : Decoder ε α} {next : α → Decoder ε β} {start : Cursor}
    {fault : ε} (h : (first start).result = .error fault) :
    (first >>= next) start =
      { result := .error fault
        cursor := (first start).cursor
        ahead := (first start).ahead
        journal := (first start).journal } := by
  show Outcome.andThen _ _ = _
  unfold Outcome.andThen
  rw [h]

/-- Two steps that give a value do so one after the other. -/
theorem exists_of_bind_ok {first : Decoder ε α} {next : α → Decoder ε β} {start : Cursor}
    {value : β} (h : ((first >>= next) start).result = .ok value) :
    ∃ middle, (first start).result = .ok middle ∧
      (next middle (first start).cursor).result = .ok value ∧
      ((first >>= next) start).cursor = (next middle (first start).cursor).cursor := by
  cases hfirst : (first start).result with
  | ok middle =>
    rw [bind_apply_of_ok hfirst] at h ⊢
    exact ⟨middle, rfl, h, rfl⟩
  | error fault =>
    rw [bind_apply_of_error hfirst] at h
    cases h

/-- Taking bytes succeeds with just these bytes, and moves behind them. -/
theorem take_ok {count : Nat} {start : Cursor} {bytes : Bytes}
    (h : (take count start).result = .ok bytes) :
    bytes = start.rest.take count ∧ count ≤ start.remaining ∧
      (take count start).cursor.offset = start.offset + count := by
  unfold take at h ⊢
  dsimp only at h ⊢
  split at h
  · next hlength =>
    cases h
    rw [List.length_take] at hlength
    rw [dif_pos (by rw [List.length_take]; exact hlength)]
    exact ⟨rfl, by rw [Cursor.remaining]; omega, rfl⟩
  · cases h

/-- A decoder gives the same values, whatever becomes of its faults. -/
theorem mapFault_ok_iff {decoder : Decoder ε α} {f : ε → ε'} {start : Cursor} {value : α} :
    (decoder.mapFault f start).result = .ok value ↔ (decoder start).result = .ok value := by
  show (decoder start).result.mapError f = _ ↔ _
  cases (decoder start).result with
  | ok found =>
    constructor
    · exact fun h => congrArg Except.ok (Except.ok.inj h)
    · exact fun h => congrArg Except.ok (Except.ok.inj h)
  | error fault => exact ⟨nofun, nofun⟩

/-- A window of the next bytes is the one that begins at the cursor. -/
theorem split_ok {count : Nat} {start window : Cursor}
    (h : (split count start).result = .ok window) : window = start.inner count := by
  obtain ⟨cursor, hhere, htake, _⟩ := exists_of_bind_ok h
  obtain ⟨_, _, hreturn, _⟩ := exists_of_bind_ok htake
  cases hhere
  cases hreturn
  rfl

/-! ## Decoders that move on -/

/-- Taking bytes moves on, if there are any to take. -/
theorem advances_take {count : Nat} (h : 0 < count) : (take count).Advances := by
  intro start value hok
  have hoffset := (take_ok hok).2.2
  omega

/-- Two steps move on if the first one does. -/
theorem Advances.bind {first : Decoder ε α} {next : α → Decoder ε β} (h : first.Advances) :
    (first >>= next).Advances := by
  intro start value hok
  obtain ⟨middle, hfirst, _, hcursor⟩ := exists_of_bind_ok hok
  have hlt := h start middle hfirst
  have hle := (next middle (first start).cursor).ahead.2.2
  rw [hcursor]
  omega

/-- Two steps move on if the second one does, whatever the first one gives. -/
theorem advances_bind_of_next {first : Decoder ε α} {next : α → Decoder ε β}
    (h : ∀ value, (next value).Advances) : (first >>= next).Advances := by
  intro start value hok
  obtain ⟨middle, _, hnext, hcursor⟩ := exists_of_bind_ok hok
  have hle := (first start).ahead.2.2
  have hlt := h middle (first start).cursor value hnext
  rw [hcursor]
  omega

/-- Faults have no part in whether a decoder moves on. -/
theorem Advances.mapFault {decoder : Decoder ε α} {f : ε → ε'} (h : decoder.Advances) :
    (decoder.mapFault f).Advances := by
  intro start value hok
  exact h start value (mapFault_ok_iff.mp hok)

end Decoder

end ClassFormat
