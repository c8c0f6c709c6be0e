import ClassFormat.Proofs.Decoder.Steps
import ClassFormat.Proofs.Text.Faults

/-!
# Decoders further on

Read the same bytes further on in the input. A decoder that never looks behind its cursor finds the
same there, and if it fails, only the absolute positions in its fault have grown. This module
compares two decodes in this way, and passes the comparison on through the steps that decoders are
made of.

## Main definitions

* `ClassFormat.Cursor.Displaced` — the same unread bytes, further on.
* `ClassFormat.Cursor.Moved` — the same place in the same window, where the window stands further
  on.
* `ClassFormat.Fault.displaced` — a fault with all its absolute positions further on.
* `ClassFormat.Outcome.Alike` — two decodes that end alike, the second one further on.
* `ClassFormat.Decoder.Same` — a decoder that ends alike from two cursors, with the same value or
  fault.

## Main results

* `ClassFormat.Decoder.alike_bind`, `ClassFormat.Decoder.Same.seq`,
  `ClassFormat.Decoder.Same.untilEmpty` — sequences and repetitions.
* `ClassFormat.Record.same_word`, `ClassFormat.Record.alike_split` — words and windows.
* `ClassFormat.Record.same_located`, `ClassFormat.Record.same_table` — records that are pinned to
  their first byte, and tables of them.

## Design

The two decodes may find different things on the way, such as cursors in windows of their own, so
the comparison carries a relation between the values. Most decoders only care for the unread bytes.
Those of instructions count from the start of their window, and are compared at moved cursors.
-/

namespace ClassFormat

variable {shift : Nat}

namespace Cursor

variable {c c' d d' : Cursor}

/-- The unread bytes of `d` are those of `c`, and stand `shift` positions further on. -/
structure Displaced (shift : Nat) (c d : Cursor) : Prop where
  rest : d.rest = c.rest
  position : d.position = c.position + shift

/-- The cursor `d` stands at the same place of the same window as `c`, and the window stands `shift`
positions further on. -/
structure Moved (shift : Nat) (c d : Cursor) : Prop where
  window : d.window = c.window
  base : d.base = c.base + shift
  offset : d.offset = c.offset

/-- A displaced cursor has as many bytes left. -/
lemma Displaced.remaining (h : Displaced shift c d) : d.remaining = c.remaining :=
  congrArg List.length h.rest

/-- A displaced cursor is at its end exactly if the cursor is. -/
lemma Displaced.isEmpty (h : Displaced shift c d) : d.isEmpty = c.isEmpty :=
  congrArg List.isEmpty h.rest

/-- Cursors that pass as many bytes stay as far apart. -/
lemma Displaced.advance (h : Displaced shift c d) {count : Nat} (hc : count ≤ c.remaining)
    (hd : count ≤ d.remaining) : Displaced shift (c.advance count hc) (d.advance count hd) := by
  refine ⟨congrArg (List.drop count) h.rest, ?_⟩
  have hposition := h.position
  unfold Cursor.position at hposition ⊢
  simp only [Cursor.advance]
  omega

/-- Windows of the next bytes are the same window, further on. -/
lemma Displaced.inner (h : Displaced shift c d) (count : Nat) :
    Moved shift (c.inner count) (d.inner count) :=
  ⟨congrArg (List.take count) h.rest, h.position, rfl⟩

/-- Moving a whole window displaces the cursors in it. -/
lemma Moved.displaced (h : Moved shift c d) : Displaced shift c d := by
  refine ⟨?_, ?_⟩
  · rw [d.rest_eq, c.rest_eq, h.window, h.offset]
  · rw [position, position, h.base, h.offset]
    omega

/-- Cursors that have passed as many bytes of the same window stand at the same place of it. -/
lemma Moved.mono (h : Moved shift c d) (hc : c ≤ c') (hd : d ≤ d')
    (hdisplaced : Displaced shift c' d') : Moved shift c' d' := by
  have hbase : d'.base = c'.base + shift := by rw [hd.2.1, hc.2.1, h.base]
  refine ⟨by rw [hd.1, hc.1, h.window], hbase, ?_⟩
  have hposition := hdisplaced.position
  unfold position at hposition
  omega

end Cursor

/-! ## Faults further on -/

/-- A failed read whose position is further on. -/
def ReadFault.displaced (shift : Nat) : ReadFault → ReadFault
  | outOfBounds offset wanted available => outOfBounds (offset + shift) wanted available
  | mismatch offset => mismatch (offset + shift)

/-- A read that fails lacks the same bytes in both places. -/
lemma Cursor.Displaced.shortage {c d : Cursor} (h : Displaced shift c d) (count : Nat) :
    d.shortage d.offset count = (c.shortage c.offset count).displaced shift := by
  have hc := c.offset_add_remaining
  have hd := d.offset_add_remaining
  have hremaining := h.remaining
  have hposition : d.base + d.offset = c.base + c.offset + shift := h.position
  have havailable : d.window.length - d.offset = c.window.length - c.offset := by omega
  rw [Cursor.shortage, Cursor.shortage, havailable, hposition]
  rfl

namespace Fault

/-- A fault with all its absolute positions further on. Offsets in the code are not absolute. -/
def displaced (shift : Nat) : Fault → Fault
  | truncated cause => truncated (cause.displaced shift)
  | invalidText cause => invalidText (cause.displaced shift)
  | located offset inner => located (offset + shift) (inner.displaced shift)
  | fault => fault

/-- A fault knows a position here exactly if it knows one further on. -/
lemma isSome_location?_displaced (fault : Fault) :
    (fault.displaced shift).location?.isSome = fault.location?.isSome := by
  cases fault <;> rfl

/-- The first byte of a record is as far on as the record. -/
lemma displaced_pinnedAt (fault : Fault) (offset : Nat) :
    (fault.pinnedAt offset).displaced shift =
      (fault.displaced shift).pinnedAt (offset + shift) := by
  unfold pinnedAt
  rw [isSome_location?_displaced]
  split <;> rfl

end Fault

/-! ## Decodes that end alike -/

section Alike

variable {α α' : Type} {R : α → α' → Prop} {c d : Cursor}

/-- The decode `far` from `d` ends like the decode `near` from `c`, but further on: with a value
that is related to the other one, or with the same fault at displaced positions. -/
inductive Outcome.Alike (shift : Nat) (R : α → α' → Prop) (near : Outcome Fault α c)
    (far : Outcome Fault α' d) :
    Prop where
  | ok {value : α} {value' : α'} (hnear : near.result = .ok value) (hfar : far.result = .ok value')
      (hvalues : R value value') (hcursor : near.cursor.Displaced shift far.cursor)
  | error {fault : Fault} (hnear : near.result = .error fault)
      (hfar : far.result = .error (fault.displaced shift))
      (hcursor : near.cursor.Displaced shift far.cursor)

/-- Outcomes whose faults are changed alike. -/
lemma Outcome.Alike.mapFault {near : Outcome Fault α c} {far : Outcome Fault α' d}
    (h : near.Alike shift R far) {f g : Fault → Fault}
    (hfaults : ∀ fault, g (fault.displaced shift) = (f fault).displaced shift) :
    (near.mapFault f).Alike shift R (far.mapFault g) := by
  cases h with
  | ok hnear hfar hvalues hcursor =>
    exact .ok (congrArg (Except.mapError f) hnear)
      (congrArg (Except.mapError g) hfar) hvalues hcursor
  | @error fault hnear hfar hcursor =>
    refine .error (congrArg (Except.mapError f) hnear) ?_ hcursor
    rw [← hfaults]
    exact congrArg (Except.mapError g) hfar

/-- Outcomes whose values are changed to related ones. -/
lemma Outcome.Alike.map {β β' : Type} {S : β → β' → Prop} {near : Outcome Fault α c}
    {far : Outcome Fault α' d} (h : near.Alike shift R far) {f : α → β} {g : α' → β'}
    (hvalues : ∀ value value', R value value' → S (f value) (g value')) :
    (near.map f).Alike shift S (far.map g) := by
  cases h with
  | ok hnear hfar hrelated hcursor =>
    exact .ok (congrArg (Except.map f) hnear) (congrArg (Except.map g) hfar)
      (hvalues _ _ hrelated) hcursor
  | error hnear hfar hcursor =>
    exact .error (congrArg (Except.map f) hnear) (congrArg (Except.map g) hfar) hcursor

/-- Decodes in two windows end alike outside if they do so inside. -/
lemma Outcome.Alike.enclosed {window window' : Cursor} {near : Outcome Fault α window}
    {far : Outcome Fault α' window'} (h : near.Alike shift R far) (houtside : c.Displaced shift d) :
    (near.enclosed c).Alike shift
      (fun found found' => R found.1 found'.1 ∧ found.2.Displaced shift found'.2)
      (far.enclosed d) := by
  cases h with
  | ok hnear hfar hvalues hcursor =>
    exact .ok (congrArg (Except.map fun value => (value, near.cursor)) hnear)
      (congrArg (Except.map fun value => (value, far.cursor)) hfar) ⟨hvalues, hcursor⟩ houtside
  | error hnear hfar _ =>
    exact .error (congrArg (Except.map fun value => (value, near.cursor)) hnear)
      (congrArg (Except.map fun value => (value, far.cursor)) hfar) houtside

end Alike

namespace Decoder

variable {α α' β β' : Type} {R : α → α' → Prop} {S : β → β' → Prop} {c d : Cursor}

/-- A decoder that finds the same from `d` as from `c`, but further on. -/
abbrev Same (shift : Nat) (decoder : Decoder Fault α) (c d : Cursor) : Prop :=
  (decoder c).Alike shift Eq (decoder d)

/-! ## Steps that do not read -/

/-- Values that are given correspond if they are given as corresponding ones. -/
lemma alike_pure {value : α} {value' : α'} (hvalues : R value value') (h : c.Displaced shift d) :
    ((pure value : Decoder Fault α) c).Alike shift R ((pure value' : Decoder Fault α') d) :=
  .ok rfl rfl hvalues h

/-- To give a value is the same everywhere. -/
lemma same_pure (value : α) (h : c.Displaced shift d) : Same shift (pure value) c d :=
  alike_pure rfl h

/-- A fault without an absolute position is the same everywhere. -/
lemma same_fail {fault : Fault} (hfault : fault.displaced shift = fault) (h : c.Displaced shift d) :
    Same shift (fail fault : Decoder Fault α) c d :=
  .error rfl (congrArg Except.error hfault.symm) h

/-- A result from elsewhere is the same everywhere, if its faults have no position. -/
lemma same_given {found : Except Fault α}
    (hfaults : ∀ fault, found = .error fault → fault.displaced shift = fault)
    (h : c.Displaced shift d) : Same shift (given found) c d := by
  cases found with
  | ok value => exact same_pure value h
  | error fault => exact same_fail (hfaults fault rfl) h

/-- The cursors that two decodes see are their own. -/
lemma alike_here (h : c.Displaced shift d) :
    ((here : Decoder Fault Cursor) c).Alike shift (fun near far => near = c ∧ far = d) (here d) :=
  .ok rfl rfl ⟨rfl, rfl⟩ h

/-- Notes make no difference to what is found. -/
lemma alike_note (event event' : Event) (h : c.Displaced shift d) :
    ((note event : Decoder Fault Unit) c).Alike shift Eq ((note event' : Decoder Fault Unit) d) :=
  .ok rfl rfl rfl h

/-- A note is the same everywhere. -/
lemma same_note (event : Event) (h : c.Displaced shift d) : Same shift (note event) c d :=
  alike_note event event h

/-! ## Steps in a row -/

/-- Two steps in a row. The second ones start where the first ones stopped, from related values. -/
lemma alike_bind {near : Decoder Fault α} {far : Decoder Fault α'} {next : α → Decoder Fault β}
    {next' : α' → Decoder Fault β'} (h : (near c).Alike shift R (far d))
    (hnext : ∀ value value', (near c).result = .ok value → R value value' →
      (near c).cursor.Displaced shift (far d).cursor →
      (next value (near c).cursor).Alike shift S (next' value' (far d).cursor)) :
    ((near >>= next) c).Alike shift S ((far >>= next') d) := by
  cases h with
  | error hnear hfar hcursor =>
    rw [bind_apply_of_error hnear, bind_apply_of_error hfar]
    exact .error rfl rfl hcursor
  | @ok value value' hnear hfar hvalues hcursor =>
    rw [bind_apply_of_ok hnear, bind_apply_of_ok hfar]
    cases hnext value value' hnear hvalues hcursor with
    | ok hnear' hfar' hvalues' hcursor' => exact .ok hnear' hfar' hvalues' hcursor'
    | error hnear' hfar' hcursor' => exact .error hnear' hfar' hcursor'

/-- Two steps in a row, where nothing is known of the first ones but that they ended alike. -/
lemma alike_bind_of_forall {near : Decoder Fault α} {far : Decoder Fault α'}
    {next : α → Decoder Fault β} {next' : α' → Decoder Fault β'}
    (h : (near c).Alike shift R (far d))
    (hnext : ∀ value value' c' d', R value value' → c ≤ c' → d ≤ d' → c'.Displaced shift d' →
      (next value c').Alike shift S (next' value' d')) :
    ((near >>= next) c).Alike shift S ((far >>= next') d) :=
  alike_bind h fun value value' _ hvalues hcursor =>
    hnext value value' _ _ hvalues (near c).ahead (far d).ahead hcursor

/-- Two steps in a row, of which the first one finds the same in both places. -/
lemma Same.bind {first : Decoder Fault α} {next : α → Decoder Fault β}
    {next' : α → Decoder Fault β'} (h : Same shift first c d)
    (hnext : ∀ value c' d', c'.Displaced shift d' →
      (next value c').Alike shift S (next' value d')) :
    ((first >>= next) c).Alike shift S ((first >>= next') d) := by
  refine alike_bind_of_forall h ?_
  rintro value _ c' d' rfl _ _ hcursor
  exact hnext value c' d' hcursor

/-! ## Repetition -/

/-- Items that are found alike one by one are found alike in a row. -/
lemma Same.seq {item : Decoder Fault α} (h : c.Displaced shift d)
    (hitem : ∀ c' d', c ≤ c' → c'.Displaced shift d' → Same shift item c' d') (count : Nat) :
    Same shift (seq count item) c d := by
  induction count generalizing c d with
  | zero => exact same_pure [] h
  | succ count ih =>
    rw [Same, seq_succ]
    refine alike_bind_of_forall (hitem c d c.le_refl h) ?_
    rintro first _ c' d' rfl hc _ hcursor
    refine Same.bind (ih hcursor fun e e' he => hitem e e' (Cursor.le_trans hc he)) ?_
    exact fun rest e e' hcursor => same_pure _ hcursor

/-- Items up to the end of the same window, further on.

**Proof sketch.** Induction on the bytes that are left. Both windows end at the same time, and
behind an item both cursors stand at the same place again. -/
lemma Same.untilEmpty {item : Decoder Fault α} (advances : item.Advances) (h : c.Moved shift d)
    (hitem : ∀ c' d', c'.Moved shift d' → Same shift item c' d') :
    Same shift (untilEmpty item advances) c d := by
  generalize hn : c.remaining = n
  induction n using Nat.strongRecOn generalizing c d with
  | _ n ih =>
    have hdisplaced := h.displaced
    rw [Same, untilEmpty_eq]
    refine alike_bind (alike_here hdisplaced) ?_
    rintro _ _ - ⟨rfl, rfl⟩ -
    rw [hdisplaced.isEmpty]
    split
    · exact same_pure [] hdisplaced
    · refine alike_bind (hitem _ _ h) ?_
      rintro first _ hfirst rfl hcursor
      have hlt := Cursor.remaining_lt_of_le (item _).ahead (advances _ first hfirst)
      have hmoved := h.mono (item _).ahead (item _).ahead hcursor
      refine Same.bind (ih _ (hn ▸ hlt) hmoved rfl) ?_
      exact fun rest e e' hcursor => same_pure _ hcursor

end Decoder

/-! ## Reads, records and tables -/

namespace Record

open Decoder hiding word split

variable {α : Type} {c d : Cursor}

/-- Bytes are taken the same elsewhere, and missed as far apart. -/
lemma same_take (count : Nat) (h : c.Displaced shift d) : Same shift (read (take count)) c d := by
  have hremaining := h.remaining
  unfold Same read mapFault
  by_cases hc : count ≤ c.remaining
  · have hd : count ≤ d.remaining := by omega
    rw [take_apply_of_le hc, take_apply_of_le hd]
    exact .ok rfl rfl (congrArg (List.take count) h.rest.symm) (h.advance hc hd)
  · rw [take_apply_of_lt (Nat.lt_of_not_le hc), take_apply_of_lt (by omega)]
    exact .error rfl (congrArg (Except.error ∘ Fault.truncated) (h.shortage count)) h

/-- A read whose value is changed, and whose failure is a fault of the file. -/
lemma read_bind_pure_apply {β : Type} (decoder : Decoder ReadFault α) (f : α → β) (start : Cursor) :
    read (decoder >>= fun value => pure (f value)) start = (read decoder start).map f := by
  show ((decoder >>= fun value => pure (f value)) start).mapFault Fault.truncated = _
  rw [bind_pure_apply]
  refine Outcome.ext ?_ rfl rfl
  show ((decoder start).result.map f).mapError Fault.truncated =
    ((decoder start).result.mapError Fault.truncated).map f
  cases (decoder start).result <;> rfl

/-- A word is read the same elsewhere. -/
lemma same_word [Word α] (h : c.Displaced shift d) : Same shift (word : Decoder Fault α) c d := by
  unfold Same word Decoder.word
  rw [read_bind_pure_apply, read_bind_pure_apply]
  exact (same_take (Word.size α) h).map fun _ _ => congrArg Word.ofBytes

/-- Windows of the next bytes are opened in both places. -/
lemma alike_split (count : Nat) (h : c.Displaced shift d) :
    (split count c).Alike shift (Cursor.Moved shift) (split count d) := by
  have hsplit :
      ∀ start, split count start = (read (take count) start).map fun _ => start.inner count :=
    fun start => read_bind_pure_apply (take count) (fun _ => start.inner count) start
  rw [hsplit, hsplit]
  exact (same_take count h).map fun _ _ _ => h.inner count

/-- A record that finds the same in both places, pinned to its first byte. -/
lemma same_located {record : Decoder Fault α} (hrecord : Same shift record c d)
    (h : c.Displaced shift d) : Same shift (located record) c d := by
  refine hrecord.mapFault fun fault => ?_
  rw [h.position, Fault.displaced_pinnedAt]

/-- A table is read the same elsewhere if its records are. -/
lemma same_table {record : Decoder Fault α} (h : c.Displaced shift d)
    (hrecord : ∀ c' d', c'.Displaced shift d' → Same shift record c' d') :
    Same shift (table record) c d := by
  refine (same_word h).bind fun count c' d' hcursor => ?_
  exact Same.seq hcursor (fun e e' _ he => same_located (hrecord e e' he) he) count.toNat

end Record

end ClassFormat
