import ClassFormat.Proofs.Decoder.Steps

/-!
# Decoders in a window that goes on

Put further bytes behind a window. A decoder that only ever reads from its cursor on does not
notice, unless it ran into the end of the window; and if it did, it either reads past the old end
now or fails. This module states that of a decoder, and proves it of the steps that decoders are
made of.

## Main definitions

* `ClassFormat.Cursor.extend` — a cursor with further bytes behind its window.
* `ClassFormat.ReadFault.IsShortage`, `ClassFormat.Fault.IsShortage` — the fault of a read that the
  end of a window cut short.
* `ClassFormat.Decoder.Extends` — a decode compared with the one in the longer window.
* `ClassFormat.Decoder.Extensible` — a decoder that compares so from everywhere.

## Main results

* `ClassFormat.Decoder.Extensible.bind`, `ClassFormat.Decoder.Extensible.seq`,
  `ClassFormat.Decoder.Extensible.grow` — sequences and repetitions of extensible decoders.
* `ClassFormat.Record.Extensible.table` — tables of extensible records.

## Design

A decode inside a window of its own never sees the bytes behind the outer window, whatever it does
there. So nothing is asked of the decoders of payloads, and the nesting of attributes plays no part.
-/

namespace ClassFormat

namespace Cursor

/-- The cursor with further bytes behind its window. -/
def extend (c : Cursor) (tail : Bytes) : Cursor where
  window := c.window ++ tail
  base := c.base
  offset := c.offset
  rest := c.rest ++ tail
  rest_eq := by rw [c.rest_eq, List.drop_append_of_le_length c.offset_le]
  offset_le := by
    have := c.offset_le
    rw [List.length_append]
    omega

/-- The absolute position behind the window. -/
def finish (c : Cursor) : Nat :=
  c.base + c.window.length

/-- More bytes behind a window do not move its first byte. -/
@[simp] lemma extend_base (c : Cursor) (tail : Bytes) : (c.extend tail).base = c.base := rfl

/-- More bytes behind a window do not move a cursor in it. -/
@[simp] lemma extend_offset (c : Cursor) (tail : Bytes) : (c.extend tail).offset = c.offset := rfl

/-- More bytes behind a window come behind what is left to read. -/
@[simp] lemma extend_rest (c : Cursor) (tail : Bytes) : (c.extend tail).rest = c.rest ++ tail := rfl

/-- More bytes behind a window are more bytes left to read. -/
@[simp] lemma extend_remaining (c : Cursor) (tail : Bytes) :
    (c.extend tail).remaining = c.remaining + tail.length := by
  simp [remaining]

/-- A longer input is a longer window. -/
@[simp] lemma ofBytes_extend (bytes tail : Bytes) :
    (ofBytes bytes).extend tail = ofBytes (bytes ++ tail) :=
  rfl

/-- It does not matter whether bytes are passed before or after the window is extended. -/
lemma extend_advance (c : Cursor) (tail : Bytes) {count : Nat} (h : count ≤ c.remaining)
    (h' : count ≤ (c.extend tail).remaining) :
    (c.extend tail).advance count h' = (c.advance count h).extend tail :=
  ext rfl rfl rfl

/-- A window inside the old one is the same in the longer one. -/
lemma inner_extend (c : Cursor) (tail : Bytes) {count : Nat} (h : count ≤ c.remaining) :
    (c.extend tail).inner count = c.inner count :=
  ext (List.take_append_of_le_length h) rfl rfl

/-- A window ends where it ends, wherever a cursor stands in it. -/
lemma finish_eq_of_le {c d : Cursor} (h : c ≤ d) : d.finish = c.finish := by
  rw [finish, finish, h.1, h.2.1]

end Cursor

/-- A read that wanted more than the bytes up to the position `finish`. -/
def ReadFault.IsShortage (finish : Nat) : ReadFault → Prop
  | outOfBounds offset wanted available => offset + available = finish ∧ available < wanted
  | mismatch _ => False

/-- A fault that is a read of more than the bytes up to the position `finish`. -/
def Fault.IsShortage (finish : Nat) : Fault → Prop
  | truncated cause => cause.IsShortage finish
  | _ => False

/-- A read of more bytes than are left runs into the end of the window. -/
lemma Cursor.isShortage_shortage {c : Cursor} {count : Nat} (h : c.remaining < count) :
    (c.shortage c.offset count).IsShortage c.finish := by
  have hoffset := c.offset_add_remaining
  unfold shortage finish
  constructor <;> omega

/-- A shortage is a read out of bounds, with all its numbers. -/
lemma Fault.IsShortage.exists_eq {finish : Nat} {fault : Fault} (h : fault.IsShortage finish) :
    ∃ offset wanted available, fault = .truncated (.outOfBounds offset wanted available) ∧
      offset + available = finish ∧ available < wanted := by
  cases fault with
  | truncated cause =>
    cases cause with
    | outOfBounds offset wanted available => exact ⟨offset, wanted, available, rfl, h⟩
    | mismatch offset => exact h.elim
  | _ => exact h.elim

/-- A shortage knows its position, so it is pinned to no record. -/
lemma Fault.IsShortage.pinnedAt {finish : Nat} {fault : Fault} (h : fault.IsShortage finish)
    (offset : Nat) : (fault.pinnedAt offset).IsShortage finish := by
  cases fault with
  | truncated cause => exact h
  | _ => exact h.elim

namespace Decoder

variable {ε ε' α β : Type} {short : Nat → ε → Prop} {short' : Nat → ε' → Prop}

/-- A decode from `start`, compared with the one in a window that goes on with `tail`. -/
inductive Extends (short : Nat → ε → Prop) (decoder : Decoder ε α) (start : Cursor) (tail : Bytes) :
    Prop where
  /-- The decode stays in the window, and the bytes behind it make no difference. -/
  | within (hresult : (decoder (start.extend tail)).result = (decoder start).result)
      (hcursor : (decoder (start.extend tail)).cursor = (decoder start).cursor.extend tail)
  /-- The decode runs into the end of the window. With the bytes behind it, it fails or reads some
  of them. -/
  | beyond {fault : ε} (hresult : (decoder start).result = .error fault)
      (hshort : short start.finish fault)
      (hpast : ∀ value, (decoder (start.extend tail)).result = .ok value →
        start.window.length < (decoder (start.extend tail)).cursor.offset)

/-- A decoder that, from everywhere, does not notice the bytes behind its window unless it runs into
the window's end. -/
def Extensible (short : Nat → ε → Prop) (decoder : Decoder ε α) : Prop :=
  ∀ start tail, Extends short decoder start tail

/-! ## Steps that do not read -/

/-- A decoder that stays where it is, with a result that does not depend on the place. -/
lemma extensible_of_still {decoder : Decoder ε α} {result : Except ε α}
    (hresult : ∀ start, (decoder start).result = result)
    (hcursor : ∀ start, (decoder start).cursor = start) : Extensible short decoder := by
  intro start tail
  apply Extends.within
  · rw [hresult, hresult]
  · rw [hcursor, hcursor]

/-- To give a value does not depend on what follows. -/
lemma extensible_pure (value : α) : Extensible short (pure value : Decoder ε α) :=
  extensible_of_still (fun _ => rfl) fun _ => rfl

/-- To fail does not depend on what follows. -/
lemma extensible_fail (fault : ε) : Extensible short (fail fault : Decoder ε α) :=
  extensible_of_still (fun _ => rfl) fun _ => rfl

/-- A note does not depend on what follows. -/
lemma extensible_note (event : Event) : Extensible short (note event : Decoder ε Unit) :=
  extensible_of_still (fun _ => rfl) fun _ => rfl

/-- A result from elsewhere does not depend on what follows. -/
lemma extensible_given (found : Except ε α) : Extensible short (given found) := by
  cases found with
  | ok value => exact extensible_pure value
  | error fault => exact extensible_fail fault

/-- What is decoded in a window of its own does not depend on the bytes around it. -/
lemma extensible_inside (window : Cursor) (decoder : Decoder ε α) :
    Extensible short (inside window decoder) :=
  extensible_of_still (fun _ => rfl) fun _ => rfl

/-- The position does not depend on what follows. -/
lemma extensible_position : Extensible short (position : Decoder ε Nat) :=
  fun _ _ => .within rfl rfl

/-! ## Steps that read -/

/-- Taking bytes does not depend on what follows them, unless some are missing. -/
lemma extensible_take (count : Nat) : Extensible ReadFault.IsShortage (take count) := by
  intro start tail
  by_cases h : count ≤ start.remaining
  · have h' : count ≤ (start.extend tail).remaining := by
      rw [Cursor.extend_remaining]
      omega
    apply Extends.within
    · rw [take_apply_of_le h, take_apply_of_le h']
      simp only [Cursor.extend_rest]
      rw [List.take_append_of_le_length h]
    · rw [take_apply_of_le h, take_apply_of_le h']
      exact start.extend_advance tail h h'
  · have hlt : start.remaining < count := Nat.lt_of_not_le h
    refine .beyond (by rw [take_apply_of_lt hlt]; rfl) (Cursor.isShortage_shortage hlt) ?_
    intro value hok
    have hoffset := (take_ok hok).2.2
    have hwindow := start.offset_add_remaining
    rw [hoffset, Cursor.extend_offset]
    omega

/-- A window of the next bytes does not depend on what follows them, unless some are missing. -/
lemma extensible_split (count : Nat) : Extensible ReadFault.IsShortage (split count) := by
  intro start tail
  by_cases h : count ≤ start.remaining
  · have h' : count ≤ (start.extend tail).remaining := by
      rw [Cursor.extend_remaining]
      omega
    apply Extends.within
    · rw [split_apply_of_le h, split_apply_of_le h']
      simp only [start.inner_extend tail h]
    · rw [split_apply_of_le h, split_apply_of_le h']
      exact start.extend_advance tail h h'
  · have hlt : start.remaining < count := Nat.lt_of_not_le h
    refine .beyond (by rw [split_apply_of_lt hlt]; rfl) (Cursor.isShortage_shortage hlt) ?_
    intro value hok
    by_cases h' : count ≤ (start.extend tail).remaining
    · have hwindow := start.offset_add_remaining
      rw [split_apply_of_le h']
      simp only [Cursor.advance, Cursor.extend_offset]
      omega
    · rw [split_apply_of_lt (Nat.lt_of_not_le h')] at hok
      cases hok

/-! ## Steps in a row -/

/-- Two extensible steps in a row.

**Proof sketch.** If the first step stays in the window, the second one starts at the same place of
both windows. If the first step runs into the end, so does the whole; and with further bytes the
second step starts behind the old end, and does not go back. -/
lemma Extensible.bind {first : Decoder ε α} {next : α → Decoder ε β}
    (hfirst : Extensible short first) (hnext : ∀ value, Extensible short (next value)) :
    Extensible short (first >>= next) := by
  intro start tail
  cases hfirst start tail with
  | within hresult hcursor =>
    cases h : (first start).result with
    | error fault =>
      rw [h] at hresult
      apply Extends.within
      · rw [result_bind_of_error h, result_bind_of_error hresult]
      · rw [cursor_bind_of_error h, cursor_bind_of_error hresult, hcursor]
    | ok value =>
      rw [h] at hresult
      cases hnext value (first start).cursor tail with
      | within hresult' hcursor' =>
        apply Extends.within
        · rw [result_bind_of_ok h, result_bind_of_ok hresult, hcursor, hresult']
        · rw [cursor_bind_of_ok h, cursor_bind_of_ok hresult, hcursor, hcursor']
      | beyond hresult' hshort hpast =>
        refine .beyond (by rw [result_bind_of_ok h, hresult'])
          (by rw [← Cursor.finish_eq_of_le (first start).ahead]; exact hshort) ?_
        rw [result_bind_of_ok hresult, cursor_bind_of_ok hresult, hcursor, ← (first start).ahead.1]
        exact hpast
  | beyond hresult hshort hpast =>
    refine .beyond (result_bind_of_error hresult) hshort ?_
    intro value hok
    obtain ⟨middle, hmiddle, _, hcursor⟩ := exists_of_bind_ok hok
    have hlt := hpast middle hmiddle
    have hle := (next middle (first (start.extend tail)).cursor).ahead.2.2
    rw [hcursor]
    omega

/-- An extensible decoder whose faults are changed, if shortages stay shortages. -/
lemma Extensible.mapFault {decoder : Decoder ε α} (h : Extensible short decoder) {f : ε → ε'}
    (hf : ∀ finish fault, short finish fault → short' finish (f fault)) :
    Extensible short' (decoder.mapFault f) := by
  intro start tail
  cases h start tail with
  | within hresult hcursor =>
    refine .within ?_ hcursor
    show Except.mapError f _ = Except.mapError f _
    rw [hresult]
  | beyond hresult hshort hpast =>
    refine .beyond ?_ (hf _ _ hshort) ?_
    · show Except.mapError f _ = _
      rw [hresult]
      rfl
    · intro value hok
      exact hpast value (mapFault_ok_iff.mp hok)

/-- A repetition depends on what follows no more than its items do, behind any items. -/
lemma Extensible.growOnto {next : Array α → Decoder ε α}
    (h : ∀ items, Extensible short (next items)) (count : Nat) (items : Array α) :
    Extensible short (growOnto next count items) := by
  induction count generalizing items with
  | zero => exact extensible_pure items
  | succ count ih => exact (h items).bind fun item => ih (items.push item)

/-- A repetition depends on what follows no more than its items do. -/
lemma Extensible.grow {next : Array α → Decoder ε α} (h : ∀ items, Extensible short (next items))
    (count : Nat) : Extensible short (grow count next) := by
  rw [grow_eq_growOnto]
  exact Extensible.growOnto h count #[]

/-- A sequence of items depends on what follows no more than the items do. -/
lemma Extensible.seq {item : Decoder ε α} (h : Extensible short item) (count : Nat) :
    Extensible short (seq count item) := by
  induction count with
  | zero => exact extensible_pure []
  | succ count ih =>
    rw [seq_succ]
    exact h.bind fun first => ih.bind fun rest => extensible_pure (first :: rest)

end Decoder

namespace Record

open Decoder hiding word split Extensible

variable {α : Type}

/-- A decoder of the file that does not notice the bytes behind its window unless it runs into the
window's end. -/
abbrev Extensible (decoder : Decoder Fault α) : Prop :=
  Decoder.Extensible Fault.IsShortage decoder

/-- A read depends on what follows as much as a part of a record as it does by itself. -/
lemma extensible_read {decoder : Decoder ReadFault α}
    (h : Decoder.Extensible ReadFault.IsShortage decoder) : Extensible (read decoder) :=
  h.mapFault fun _ _ hshort => hshort

/-- A word does not depend on what follows it. -/
lemma extensible_word [Word α] : Extensible (word : Decoder Fault α) :=
  extensible_read ((extensible_take _).bind fun _ => extensible_pure _)

/-- A window does not depend on what follows it. -/
lemma extensible_split (count : Nat) : Extensible (split count) :=
  extensible_read (Decoder.extensible_split count)

/-- A record that is pinned to its first byte: the place is the same in both windows. -/
lemma Extensible.located {record : Decoder Fault α} (h : Extensible record) :
    Extensible (located record) := by
  intro start tail
  have hpinned := h.mapFault (f := fun fault => fault.pinnedAt start.position)
    (fun _ _ hshort => Fault.IsShortage.pinnedAt hshort start.position) start tail
  cases hpinned with
  | within hresult hcursor => exact .within hresult hcursor
  | beyond hresult hshort hpast => exact .beyond hresult hshort hpast

/-- A table depends on what follows no more than its records do. -/
lemma Extensible.table {record : Decoder Fault α} (h : Extensible record) :
    Extensible (table record) :=
  extensible_word.bind fun count => (Extensible.located h).seq count.toNat

end Record

end ClassFormat
