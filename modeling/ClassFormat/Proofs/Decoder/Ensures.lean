import ClassFormat.Proofs.Decoder.View

/-!
# What decoders give

A decoder that gives a value says something by it: about the value, about the bytes that it passed,
and about the cursor behind them. This module states that of a decoder as a condition on its values,
and passes it on through sequences and repetitions. A decoder that fails promises nothing.

## Main definitions

* `ClassFormat.Cursor.Passes` — the bytes between two cursors.
* `ClassFormat.Decoder.Ensures` — a condition on whatever a decoder gives from a cursor.

## Main results

* `ClassFormat.Decoder.Ensures.bind` — two steps in a row.
* `ClassFormat.Decoder.Ensures.seq`, `ClassFormat.Decoder.Ensures.grow`,
  `ClassFormat.Decoder.Ensures.untilEmpty` — repetitions, with an invariant where items depend on
  those before them.
* `ClassFormat.Decoder.Ensures.seq_passes` — a repetition passes a block of bytes for each item.
* `ClassFormat.Record.ensures_word`, `ClassFormat.Record.ensures_take`,
  `ClassFormat.Record.ensures_split` — the reads that move on pass the bytes that they give.
-/

namespace ClassFormat

namespace Cursor

/-- Between the cursors `c` and `d` of one window stand the bytes `bytes`. -/
structure Passes (c : Cursor) (bytes : Bytes) (d : Cursor) : Prop where
  ahead : c ≤ d
  rest_eq : c.rest = bytes ++ d.rest

namespace Passes

variable {c d e : Cursor} {bytes bytes' : Bytes}

/-- The cursor behind the next bytes has passed them. -/
lemma of_isPrefix (hahead : c ≤ d) (hfront : bytes <+: c.rest)
    (hposition : d.position = c.position + bytes.length) : c.Passes bytes d := by
  have hoffset : d.offset - c.offset = bytes.length := by
    have hbase := hahead.2.1
    unfold position at hposition
    omega
  refine ⟨hahead, ?_⟩
  rw [rest_eq_drop_of_le hahead, hoffset]
  exact (List.prefix_iff_eq_append.mp hfront).symm

/-- To pass bytes and then others is to pass both. -/
lemma trans (h : c.Passes bytes d) (h' : d.Passes bytes' e) : c.Passes (bytes ++ bytes') e := by
  refine ⟨le_trans h.ahead h'.ahead, ?_⟩
  rw [h.rest_eq, h'.rest_eq, List.append_assoc]

/-- The bytes that are passed are no longer left. -/
lemma remaining_eq (h : c.Passes bytes d) : c.remaining = bytes.length + d.remaining := by
  simp only [remaining, h.rest_eq, List.length_append]

/-- The offset grows by the bytes that are passed. -/
lemma offset_eq (h : c.Passes bytes d) : d.offset = c.offset + bytes.length := by
  have hlength := h.remaining_eq
  have hc := c.offset_add_remaining
  have hd := d.offset_add_remaining
  rw [h.ahead.1] at hd
  omega

end Passes

/-- Bytes that can be taken stand between the cursor and the one behind them. -/
lemma passes_advance (c : Cursor) {count : Nat} (h : count ≤ c.remaining) :
    c.Passes (c.rest.take count) (c.advance count h) :=
  ⟨c.le_advance count h, (List.take_append_drop count c.rest).symm⟩

end Cursor

namespace Decoder

variable {ε ε' α β : Type} {start : Cursor}

/-- Whatever the decoder gives from `start`, the condition holds of it and of the cursor behind it.
-/
def Ensures (decoder : Decoder ε α) (start : Cursor) (post : α → Cursor → Prop) : Prop :=
  ∀ value, (decoder start).result = .ok value → post value (decoder start).cursor

variable {post post' : α → Cursor → Prop}

/-- A given value is as it should be if it is so at the start. -/
lemma ensures_pure {value : α} (h : post value start) :
    Ensures (pure value : Decoder ε α) start post := by
  rintro _ ⟨⟩
  exact h

/-- A failure ensures everything, since it gives no value. -/
lemma ensures_fail (fault : ε) : Ensures (fail fault) start post :=
  nofun

/-- The cursor that is seen is the one at the start, and nothing moves. -/
lemma ensures_here :
    Ensures (here : Decoder ε Cursor) start fun found c => found = start ∧ c = start := by
  rintro _ ⟨⟩
  exact ⟨rfl, rfl⟩

/-- The position that is seen is the one at the start, and nothing moves. -/
lemma ensures_position :
    Ensures (position : Decoder ε Nat) start fun found c => found = start.position ∧ c = start := by
  rintro _ ⟨⟩
  exact ⟨rfl, rfl⟩

/-- A note does not move the cursor. -/
lemma ensures_note (event : Event) :
    Ensures (note event : Decoder ε Unit) start fun _ c => c = start :=
  fun _ _ => rfl

/-- A result from elsewhere is given as it is, and nothing moves. -/
lemma ensures_given (found : Except ε α) :
    Ensures (given found) start fun value c => found = .ok value ∧ c = start := by
  intro value hvalue
  rw [result_given] at hvalue
  exact ⟨hvalue, cursor_given found start⟩

/-- What is found in a window is what a decoder gives there. -/
lemma ensures_inside {window : Cursor} {decoder : Decoder ε α} (h : Ensures decoder window post) :
    Ensures (inside window decoder) start fun found _ => post found.1 found.2 := by
  rintro ⟨value, stop⟩ hvalue
  change (decoder window).result.map _ = _ at hvalue
  cases hresult : (decoder window).result with
  | error fault =>
    rw [hresult] at hvalue
    cases hvalue
  | ok found =>
    rw [hresult] at hvalue
    cases hvalue
    exact h value hresult

/-- A condition can be replaced by a weaker one. -/
lemma Ensures.imp {decoder : Decoder ε α} (h : Ensures decoder start post)
    (himp : ∀ value c, start ≤ c → post value c → post' value c) : Ensures decoder start post' :=
  fun value hvalue => himp value _ (decoder start).ahead (h value hvalue)

/-- What is ensured about values does not depend on faults. -/
lemma Ensures.mapFault {decoder : Decoder ε α} {f : ε → ε'} (h : Ensures decoder start post) :
    Ensures (decoder.mapFault f) start post :=
  fun value hvalue => h value (mapFault_ok_iff.mp hvalue)

/-- What is ensured about values does not depend on faults, in either direction. -/
lemma ensures_mapFault_iff {decoder : Decoder ε α} {f : ε → ε'} :
    Ensures (decoder.mapFault f) start post ↔ Ensures decoder start post :=
  ⟨fun h value hvalue => h value (mapFault_ok_iff.mpr hvalue), Ensures.mapFault⟩

/-- Two steps in a row, where the second one is known to start at the first one's end. -/
lemma ensures_bind {first : Decoder ε α} {next : α → Decoder ε β} {post : β → Cursor → Prop}
    (hnext : ∀ value, (first start).result = .ok value →
      Ensures (next value) (first start).cursor post) :
    Ensures (first >>= next) start post := by
  intro value hvalue
  obtain ⟨middle, hmiddle, hrest, hcursor⟩ := exists_of_bind_ok hvalue
  rw [hcursor]
  exact hnext middle hmiddle value hrest

/-- Two steps in a row, where the second one knows nothing of the first but what that ensures. -/
lemma Ensures.bind {first : Decoder ε α} {next : α → Decoder ε β} {post' : β → Cursor → Prop}
    (hfirst : Ensures first start post)
    (hnext : ∀ value c, start ≤ c → post value c → Ensures (next value) c post') :
    Ensures (first >>= next) start post' :=
  ensures_bind fun value hvalue => hnext value _ (first start).ahead (hfirst value hvalue)

/-- Two steps in a row, where nothing is known of the first one but that it does not go back. -/
lemma ensures_bind_ahead {outer : Cursor} {first : Decoder ε α} {next : α → Decoder ε β}
    {post : β → Cursor → Prop} (hle : outer ≤ start)
    (hnext : ∀ value c, outer ≤ c → Ensures (next value) c post) :
    Ensures (first >>= next) start post :=
  ensures_bind fun value _ => hnext value _ (Cursor.le_trans hle (first start).ahead)

/-! ## Repetition -/

/-- Each item of a sequence is what the decoder of items gives. -/
lemma Ensures.seq {item : Decoder ε α} {P : α → Prop}
    (h : ∀ c, start ≤ c → Ensures item c fun value _ => P value) (count : Nat) :
    Ensures (seq count item) start fun values _ => ∀ value ∈ values, P value := by
  induction count generalizing start with
  | zero => exact ensures_pure (by simp)
  | succ count ih =>
    rw [seq_succ]
    refine (h start start.le_refl).bind fun first c hc hfirst => ?_
    refine (ih fun d hd => h d (Cursor.le_trans hc hd)).bind fun rest d _ hrest => ?_
    exact ensures_pure (List.forall_mem_cons.mpr ⟨hfirst, hrest⟩)

/-- Items that each pass bytes of their own pass them one behind the other.

**Proof sketch.** Induction on the count; the block of the first item stands before those of the
others. -/
lemma Ensures.seq_passes {item : Decoder ε α} {R : α → Bytes → Prop}
    (h : ∀ c, start ≤ c → Ensures item c fun value d => ∃ bytes, R value bytes ∧ c.Passes bytes d)
    (count : Nat) :
    Ensures (Decoder.seq count item) start fun values d => values.length = count ∧
      ∃ blocks, List.Forall₂ R values blocks ∧ start.Passes blocks.flatten d := by
  induction count generalizing start with
  | zero => exact ensures_pure ⟨rfl, [], .nil, start.le_refl, rfl⟩
  | succ count ih =>
    rw [seq_succ]
    refine (h start start.le_refl).bind ?_
    rintro first c hc ⟨bytes, hfirst, hbytes⟩
    refine (ih fun d hd => h d (Cursor.le_trans hc hd)).bind ?_
    rintro rest d _ ⟨hlength, blocks, hrest, hblocks⟩
    exact ensures_pure
      ⟨congrArg Nat.succ hlength, bytes :: blocks, .cons hfirst hrest, hbytes.trans hblocks⟩

/-- An invariant of the items found so far, and of the cursor behind them, holds of all items.

**Proof sketch.** Induction on the count. Each item is found with the ones before it in view, of
which the invariant holds already. -/
lemma Ensures.grow {next : Array α → Decoder ε α} {Inv : Array α → Cursor → Prop}
    (hinit : Inv #[] start)
    (hstep : ∀ items c, Inv items c → Ensures (next items) c fun item d => Inv (items.push item) d)
    (count : Nat) :
    Ensures (grow count next) start fun items c => items.size = count ∧ Inv items c := by
  have honto : ∀ count items c, Inv items c → Ensures (growOnto next count items) c
      fun found d => found.size = items.size + count ∧ Inv found d := by
    intro count
    induction count with
    | zero => exact fun items c hinv => ensures_pure ⟨rfl, hinv⟩
    | succ count ih =>
      intro items c hinv
      refine (hstep items c hinv).bind fun item d _ hpushed => (ih _ d hpushed).imp ?_
      rintro found e _ ⟨hsize, hfound⟩
      rw [Array.size_push] at hsize
      exact ⟨by omega, hfound⟩
  rw [grow_eq_growOnto]
  exact (honto count #[] start hinit).imp fun items c _ h => ⟨by simpa using h.1, h.2⟩

/-- What holds of no items at the end of a window, and passes from the items behind an item to all
of them, holds of the items up to the end. -/
lemma Ensures.untilEmpty {item : Decoder ε α} (advances : item.Advances)
    {R : Cursor → List α → Prop} (hnil : ∀ c, c.isEmpty → R c [])
    (hcons : ∀ c, Ensures item c fun value d => ∀ values, R d values → R c (value :: values))
    (start : Cursor) : Ensures (untilEmpty item advances) start fun values _ => R start values := by
  generalize hn : start.remaining = n
  induction n using Nat.strongRecOn generalizing start with
  | _ n ih =>
    rw [untilEmpty_eq]
    refine ensures_here.bind ?_
    rintro _ start _ ⟨rfl, rfl⟩
    split
    · next hempty => exact ensures_pure (hnil start hempty)
    · refine ensures_bind fun first hfirst => ?_
      have hlt := Cursor.remaining_lt_of_le (item start).ahead (advances start first hfirst)
      refine (ih _ (hn ▸ hlt) _ rfl).bind fun rest d _ hrest => ?_
      exact ensures_pure (hcons start first hfirst rest hrest)

end Decoder

/-! ## Reads, windows and tables -/

namespace Record

open Decoder hiding word split split_ok

variable {α : Type} {start : Cursor}

/-- A word that was read stands between the two cursors. -/
lemma ensures_word [Word α] :
    Ensures word start fun (value : α) c => start.Passes (Word.toBytes value) c := by
  intro value hvalue
  obtain ⟨hfront, hposition⟩ := word_ok hvalue
  rw [← Word.length_toBytes value] at hposition
  exact Cursor.Passes.of_isPrefix (word start).ahead hfront hposition

/-- Bytes that were taken are as many as were asked for, and stand between the two cursors. -/
lemma ensures_take (count : Nat) :
    Ensures (read (take count)) start fun bytes c =>
      bytes.length = count ∧ start.Passes bytes c := by
  refine Ensures.mapFault fun bytes hbytes => ?_
  obtain ⟨rfl, hle, _⟩ := take_ok hbytes
  rw [take_apply_of_le hle]
  exact ⟨by rw [List.length_take]; exact Nat.min_eq_left hle, start.passes_advance hle⟩

/-- A window holds as many bytes as were asked for, and its bytes stand between the two cursors. -/
lemma ensures_split (count : Nat) :
    Ensures (split count) start fun window c =>
      window.offset = 0 ∧ window.rest.length = count ∧ start.Passes window.rest c := by
  refine Ensures.mapFault fun window hwindow => ?_
  by_cases hle : count ≤ start.remaining
  · rw [split_apply_of_le hle] at hwindow ⊢
    cases hwindow
    have hlength : (start.inner count).remaining = count := by
      rw [Cursor.remaining_inner]
      omega
    exact ⟨rfl, hlength, start.passes_advance hle⟩
  · rw [split_apply_of_lt (Nat.lt_of_not_le hle)] at hwindow
    cases hwindow

/-- What a record ensures does not depend on where its faults are located. -/
lemma ensures_located {record : Decoder Fault α} {post : α → Cursor → Prop}
    (h : Ensures record start post) : Ensures (located record) start post :=
  h.mapFault

/-- Each record of a table is what the decoder of records gives, at or behind the start of the
table. -/
lemma ensures_table_ahead {record : Decoder Fault α} {P : α → Prop}
    (h : ∀ c, start ≤ c → Ensures record c fun value _ => P value) :
    Ensures (table record) start fun values _ => ∀ value ∈ values, P value := by
  refine ensures_word.bind fun count c hc _ => Ensures.seq (fun d hd => ?_) count.toNat
  exact ensures_located (h d (Cursor.le_trans hc hd))

/-- Each record of a table is what the decoder of records gives. -/
lemma ensures_table {record : Decoder Fault α} {P : α → Prop}
    (h : ∀ c, Ensures record c fun value _ => P value) :
    Ensures (table record) start fun values _ => ∀ value ∈ values, P value :=
  ensures_table_ahead fun c _ => h c

end Record

end ClassFormat
