import ClassFormat.Pool.Reader
import ClassFormat.Proofs.Decoder.Ensures
import ClassFormat.Proofs.Pool.Lookup

/-!
# The slots of a pool

The slots of a pool are numbered from one by words of sixteen bits, and a wide constant takes two of
them. This module says which slots are second halves in a pool that was read, what is found at each
index, and that no number outgrows its word.

## Main definitions

* `ClassFormat.Pool.WideAt`, `ClassFormat.Pool.Paired` — a wide constant in a slot, and slots in
  which each of them has its second half.
* `ClassFormat.Pool.checkedReader`, `ClassFormat.Pool.checkedEntries` — the reading of a pool and
  the listing of its constants, with every step of the numbering checked.
* `ClassFormat.Pool.Numbered` — what the slots of a pool hold, and what is found at their indices.

## Main results

* `ClassFormat.Pool.ensures_reader` — each wide constant of a pool that is read has its second half,
  and there are no others.
* `ClassFormat.Pool.checkedReader_eq`, `ClassFormat.Pool.checkedEntries_eq` — the checks never fail.
* `ClassFormat.Pool.mem_entries_iff` — the constants that are listed are those that are found.
* `ClassFormat.Pool.numbered_of_reader` — all of it, for every pool that is read.
-/

namespace ClassFormat

open Decoder hiding word split split_ok
open Record

namespace Pool

variable {pool : Pool} {slots : Array Slot}

/-! ## Second halves -/

/-- A long or double constant stands in the slot at a place, counted from zero. -/
def WideAt (pool : Pool) (place : Nat) : Prop :=
  ∃ constant, pool.slots[place]? = some (.entry constant) ∧
    (constant.kind = .long ∨ constant.kind = .double)

/-- A slot is wide exactly if a constant of two slots stands there. -/
lemma any_isWide_iff {place : Nat} :
    pool.slots[place]?.any Slot.isWide = true ↔ pool.WideAt place := by
  unfold WideAt
  cases pool.slots[place]? with
  | none => simp
  | some slot =>
    cases slot with
    | upperHalf => simp [Slot.isWide]
    | entry constant => cases constant <;> simp [Slot.isWide, Constant.isWide, Constant.kind]

/-- Slots so far in which a second half stands behind each wide constant, and nowhere else. Behind
the last slot there is none yet. -/
structure Paired (slots : Array Slot) : Prop where
  first : slots[0]? ≠ some .upperHalf
  next : ∀ place, place + 1 < slots.size →
    (slots[place + 1]? = some .upperHalf ↔ slots[place]?.any Slot.isWide = true)

/-- Slots end in a wide one if there is a last one and it is wide. -/
lemma endsWide_eq (slots : Array Slot) :
    endsWide slots = slots[slots.size - 1]?.any Slot.isWide := by
  rw [endsWide, Array.back?_eq_getElem?]

/-- An empty array of slots is paired. -/
lemma paired_empty : Paired #[] :=
  ⟨nofun, fun _ h => absurd h (Nat.not_lt_zero _)⟩

/-- A slot more is a second half exactly if it has to be one. -/
lemma Paired.push (h : Paired slots) {slot : Slot}
    (hslot : slot = .upperHalf ↔ endsWide slots = true) : Paired (slots.push slot) := by
  constructor
  · by_cases hsize : slots.size = 0
    · obtain rfl : slots = #[] := Array.eq_empty_of_size_eq_zero hsize
      have hends : endsWide #[] = false := rfl
      simpa [hends] using hslot
    · rw [Array.getElem?_push, if_neg (Ne.symm hsize)]
      exact h.first
  · intro place hplace
    rw [Array.size_push] at hplace
    rw [Array.getElem?_push, Array.getElem?_push, if_neg (show place ≠ slots.size by omega)]
    by_cases hlast : place + 1 = slots.size
    · rw [if_pos hlast, Option.some_inj, hslot, endsWide_eq, ← hlast, Nat.add_sub_cancel]
    · rw [if_neg hlast]
      exact h.next place (by omega)

/-- Where the last slot is not wide either, a slot is a second half exactly behind a wide constant.
-/
lemma Paired.getElem?_eq_upperHalf_iff (h : Paired slots) (hends : endsWide slots = false)
    (place : Nat) : slots[place + 1]? = some .upperHalf ↔ slots[place]?.any Slot.isWide = true := by
  by_cases hplace : place + 1 < slots.size
  · exact h.next place hplace
  · have hnone : slots[place + 1]? = none := Array.getElem?_eq_none (by omega)
    refine iff_of_false (by simp [hnone]) ?_
    by_cases hlast : place + 1 = slots.size
    · rw [endsWide_eq, ← hlast, Nat.add_sub_cancel] at hends
      simp [hends]
    · have hnone : slots[place]? = none := Array.getElem?_eq_none (by omega)
      simp [hnone]

/-- A slot is the second half of a constant exactly if the slot before it is wide. -/
lemma ensures_slotReader (slots : Array Slot) (start : Cursor) :
    Ensures (slotReader slots) start fun slot _ => slot = .upperHalf ↔ endsWide slots = true := by
  unfold slotReader
  split
  · next hends => exact ensures_pure (iff_of_true rfl hends)
  · next hends =>
    exact ensures_bind fun constant _ =>
      ensures_bind fun _ _ => ensures_pure (iff_of_false nofun hends)

/-- A pool that is read takes its length from the count before it, and each wide constant in it has
its second half.

**Proof sketch.** The slots are filled one after the other, and `Paired` holds of those filled so
far. The check behind the last slot closes the only gap. -/
theorem ensures_reader (start : Cursor) :
    Ensures reader start fun pool c => c.offset = start.offset + pool.byteLength ∧
      ∃ declared : UInt16, Word.toBytes declared <+: start.rest ∧ pool.size + 1 = declared.toNat ∧
        Paired pool.slots ∧ endsWide pool.slots = false := by
  unfold reader
  refine ensures_position.bind ?_
  rintro _ start _ ⟨rfl, rfl⟩
  refine ensures_word.bind fun declared c hc hpasses => ?_
  split
  · exact ensures_fail _
  · next hzero =>
    have hpositive : declared.toNat ≠ 0 := fun h => hzero (UInt16.toNat_inj.mp h)
    have hgrow : Ensures (grow (declared.toNat - 1) slotReader) c fun slots _ =>
        slots.size = declared.toNat - 1 ∧ Paired slots :=
      Ensures.grow paired_empty
        (fun slots c hslots => (ensures_slotReader slots c).imp fun slot _ _ => hslots.push) _
    refine hgrow.bind ?_
    rintro slots d hd ⟨hsize, hpaired⟩
    split
    · exact ensures_fail _
    · next hends =>
      refine ensures_position.bind ?_
      rintro _ d _ ⟨rfl, rfl⟩
      refine (ensures_note _).bind ?_
      rintro _ d _ rfl
      have hahead := Cursor.le_trans hc hd
      have hposition : d.position = start.position + (d.offset - start.offset) := by
        simp only [Cursor.position, hahead.2.1]
        have := hahead.2.2
        omega
      refine ensures_pure ⟨?_, declared, ⟨c.rest, hpasses.rest_eq.symm⟩, ?_, hpaired,
        Bool.eq_false_iff.mpr hends⟩
      · have := hahead.2.2
        dsimp only
        omega
      · show slots.size + 1 = _
        omega

/-! ## Numbers that fit -/

/-- The index with a number, or a fault if there is none. -/
def checkedIndex (overflow : Fault) (number : Nat) : Decoder Fault Index :=
  if number < UInt16.size then return UInt16.ofNat number else fail overflow

/-- The slot behind those filled so far, with its index checked. -/
def checkedSlotReader (overflow : Fault) (slots : Array Slot) : Decoder Fault Slot :=
  if endsWide slots then
    return .upperHalf
  else do
    let index ← checkedIndex overflow (slots.size + 1)
    let constant ← located (Constant.reader index)
    note (.constant index constant.kind)
    return .entry constant

/-- A constant pool, with every index checked: those of the slots, and that of a second half that is
missing behind the last one. -/
def checkedReader (overflow : Fault) : Decoder Fault Pool := do
  let start ← position
  let declared : UInt16 ← word
  if declared = 0 then
    fail (.malformedPool .zeroSize)
  else
    let count := declared.toNat - 1
    let slots ← grow count (checkedSlotReader overflow)
    if endsWide slots then
      fail (.malformedPool (.outOfRange (← checkedIndex overflow (count + 1)) count))
    else
      let byteLength := (← position) - start
      note (.pool count byteLength)
      return { slots, byteLength }

/-- The index behind another one. -/
def successor? (index : Index) : Option Index :=
  if index.toNat + 1 < UInt16.size then some (index + 1) else none

/-- The constants of slots with their indices, counted on from `index`. The count is one ahead: it
fails where there is no index behind the last slot. -/
def checkedEntriesFrom : Index → List Slot → Option (List (Index × Constant))
  | _, [] => some []
  | index, slot :: slots => do
    let next ← successor? index
    let entries ← checkedEntriesFrom next slots
    return (slot.constant?.map fun constant => (index, constant)).toList ++ entries

/-- Every constant of a pool with its index, by a count that is checked. -/
def checkedEntries (pool : Pool) : Option (List (Index × Constant)) :=
  checkedEntriesFrom 1 pool.slots.toList

/-- An index that fits is passed on unchanged. -/
lemma checkedIndex_of_lt (overflow : Fault) {number : Nat} (h : number < UInt16.size) :
    checkedIndex overflow number = return UInt16.ofNat number :=
  if_pos h

/-- As long as the index fits, a slot is read the same with the check and without. -/
lemma checkedSlotReader_eq (overflow : Fault) (h : slots.size + 1 < UInt16.size) :
    checkedSlotReader overflow slots = slotReader slots := by
  unfold checkedSlotReader slotReader
  rw [checkedIndex_of_lt overflow h, pure_bind]

/-- **No index of a slot outgrows its word**: the checks of the indices change nothing.

**Proof sketch.** The slots are one less than a word can count, and a slot is only read as long as
there are fewer. -/
theorem checkedReader_eq (overflow : Fault) : checkedReader overflow = reader := by
  unfold checkedReader reader
  refine bind_congr fun start => bind_congr fun declared => ?_
  split
  · rfl
  · next hzero =>
    have hpositive : declared.toNat ≠ 0 := fun h => hzero (UInt16.toNat_inj.mp h)
    have hlt : declared.toNat < UInt16.size := declared.toNat_lt
    have hgrow : grow (declared.toNat - 1) (checkedSlotReader overflow) =
        grow (declared.toNat - 1) slotReader :=
      grow_congr fun slots hslots => checkedSlotReader_eq overflow (by omega)
    have hindex : checkedIndex overflow (declared.toNat - 1 + 1) = return declared := by
      rw [Nat.sub_add_cancel (by omega), checkedIndex_of_lt overflow hlt, UInt16.ofNat_toNat]
    dsimp only
    rw [hgrow, hindex]
    rfl

/-- Constants are listed from an index on as long as all their slots have one. -/
lemma checkedEntriesFrom_eq {slots : List Slot} {index : Index}
    (h : index.toNat + slots.length < UInt16.size) :
    checkedEntriesFrom index slots =
      some ((slots.zipIdx index.toNat).filterMap fun (slot, number) =>
      slot.constant?.map fun constant => (UInt16.ofNat number, constant)) := by
  induction slots generalizing index with
  | nil => rfl
  | cons slot slots ih =>
    rw [List.length_cons] at h
    have hnext : (index + 1).toNat = index.toNat + 1 := by
      rw [UInt16.toNat_add, UInt16.toNat_one]
      exact Nat.mod_eq_of_lt (show index.toNat + 1 < UInt16.size by omega)
    have hfits : (index + 1).toNat + slots.length < UInt16.size := by omega
    rw [checkedEntriesFrom, successor?, if_pos (by omega)]
    show (checkedEntriesFrom (index + 1) slots).bind _ = _
    rw [ih hfits, hnext, List.zipIdx_cons]
    cases slot <;> simp [Slot.constant?]

/-- **No index of a constant outgrows its word**: counting them one by one never fails. -/
theorem checkedEntries_eq (h : pool.size + 1 < UInt16.size) :
    pool.checkedEntries = some pool.entries :=
  checkedEntriesFrom_eq (by rw [UInt16.toNat_one, Array.length_toList, Nat.add_comm]; exact h)

/-! ## What is found -/

/-- The listed constants are those of the slots, numbered from one. -/
lemma mem_entries_iff_exists {entry : Index × Constant} :
    entry ∈ pool.entries ↔ ∃ place, pool.slots[place]? = some (.entry entry.2) ∧
      entry.1 = UInt16.ofNat (place + 1) := by
  obtain ⟨index, constant⟩ := entry
  rw [entries, List.mem_filterMap]
  constructor
  · rintro ⟨⟨slot, number⟩, hmem, hentry⟩
    obtain ⟨hpositive, hslot⟩ := List.mk_mem_zipIdx_iff_le_and_getElem?_sub.mp hmem
    cases slot with
    | upperHalf => cases hentry
    | entry found =>
      cases hentry
      refine ⟨number - 1, by rwa [Array.getElem?_toList] at hslot, ?_⟩
      rw [Nat.sub_add_cancel hpositive]
  · rintro ⟨place, hslot, rfl⟩
    refine ⟨(.entry constant, place + 1), ?_, rfl⟩
    refine List.mk_mem_zipIdx_iff_le_and_getElem?_sub.mpr ⟨by omega, ?_⟩
    rwa [Nat.add_sub_cancel, Array.getElem?_toList]

/-- A constant is listed with an index exactly if it is found there. -/
theorem mem_entries_iff (h : pool.size < UInt16.size) {entry : Index × Constant} :
    entry ∈ pool.entries ↔ pool.get entry.1 = .ok entry.2 := by
  rw [mem_entries_iff_exists, get_eq_ok_iff, Holds]
  constructor
  · rintro ⟨place, hslot, hindex⟩
    have hplace : place < pool.size := (Array.getElem?_eq_some_iff.mp hslot).1
    have hnumber : entry.1.toNat = place + 1 := by
      rw [hindex]
      exact UInt16.toNat_ofNat_of_lt' (by omega)
    refine ⟨fun hzero => ?_, by rwa [hnumber, Nat.add_sub_cancel]⟩
    rw [hzero] at hnumber
    cases hnumber
  · rintro ⟨hzero, hslot⟩
    have hpositive : entry.1.toNat ≠ 0 := fun h => hzero (UInt16.toNat_inj.mp h)
    refine ⟨_, hslot, ?_⟩
    rw [Nat.sub_add_cancel (by omega), UInt16.ofNat_toNat]

/-- The constants are listed in the order of their indices. -/
theorem pairwise_entries (h : pool.size < UInt16.size) :
    pool.entries.Pairwise fun a b => a.1 < b.1 := by
  have hnumbers : (pool.slots.toList.zipIdx 1).Pairwise fun a b => a.2 < b.2 := by
    rw [← List.pairwise_map (f := Prod.snd), List.zipIdx_map_snd]
    exact List.pairwise_lt_range'
  have hbounded : (pool.slots.toList.zipIdx 1).Pairwise fun a b =>
      a.2 < b.2 ∧ b.2 < UInt16.size := by
    refine hnumbers.imp_of_mem fun {_ b} _ hb hlt => ⟨hlt, ?_⟩
    have hbound := List.snd_lt_of_mem_zipIdx hb
    have hsize : pool.slots.toList.length = pool.size := Array.length_toList
    omega
  refine hbounded.filterMap _ ?_
  rintro ⟨slot, number⟩ ⟨slot', number'⟩ ⟨hlt, hbound⟩ entry hentry entry' hentry'
  obtain ⟨constant, _, rfl⟩ := Option.map_eq_some_iff.mp hentry
  obtain ⟨constant', _, rfl⟩ := Option.map_eq_some_iff.mp hentry'
  dsimp only at hlt hbound
  rw [UInt16.lt_iff_toNat_lt, UInt16.toNat_ofNat_of_lt' (by omega),
    UInt16.toNat_ofNat_of_lt' hbound]
  exact hlt

/-- An index finds what the slot with its number says. -/
lemma get_of_toNat_eq {index : Index} {place : Nat} (h : index.toNat = place + 1) :
    pool.get index =
      match pool.slots[place]? with
      | some (.entry constant) => .ok constant
      | some .upperHalf => .error (.upperHalf index)
      | none => .error (.outOfRange index pool.size) := by
  have hzero : index ≠ 0 := by
    rintro rfl
    cases h
  rewrite [get, if_neg hzero, h, Nat.add_sub_cancel]
  rfl

/-- Beyond the last slot, nothing is found. -/
lemma get_of_size_lt {index : Index} (h : pool.size < index.toNat) :
    pool.get index = .error (.outOfRange index pool.size) := by
  have hindex : index.toNat = index.toNat - 1 + 1 := by omega
  have hnone : pool.slots[index.toNat - 1]? = none :=
    Array.getElem?_eq_none (show pool.size ≤ index.toNat - 1 by omega)
  rw [get_of_toNat_eq hindex, hnone]

/-- A slot that is no second half holds what is found at its index. -/
lemma get_of_ne_upperHalf {index : Index} {place : Nat} (hindex : index.toNat = place + 1)
    (hplace : place < pool.size) (h : pool.slots[place]? ≠ some .upperHalf) :
    ∃ constant, pool.slots[place]? = some (.entry constant) ∧ pool.get index = .ok constant := by
  have hslot : pool.slots[place]? = some pool.slots[place] := Array.getElem?_eq_getElem hplace
  cases hfound : pool.slots[place] with
  | upperHalf => exact absurd (hslot.trans (by rw [hfound])) h
  | entry constant =>
    rw [hfound] at hslot
    exact ⟨constant, hslot, by rw [get_of_toNat_eq hindex, hslot]⟩

/-- The slots of a pool behind its count: second halves stand exactly behind wide constants, every
index finds what its slot says, and the constants are listed as they are found, in order and without
a number that outgrows its word. -/
structure Numbered (pool : Pool) (declared : UInt16) : Prop where
  size : pool.size + 1 = declared.toNat
  first : pool.slots[0]? ≠ some .upperHalf
  upperHalf_iff : ∀ place, pool.slots[place + 1]? = some .upperHalf ↔ pool.WideAt place
  get_zero : pool.get 0 = .error .nullIndex
  get_beyond : ∀ index : Index, pool.size < index.toNat →
    pool.get index = .error (.outOfRange index pool.size)
  get_behind_wide : ∀ (index : Index) (place : Nat), index.toNat = place + 2 → pool.WideAt place →
    pool.get index = .error (.upperHalf index)
  get_otherwise : ∀ (index : Index) (place : Nat), index.toNat = place + 1 → place < pool.size →
    (∀ before, place = before + 1 → ¬pool.WideAt before) →
    ∃ constant, pool.slots[place]? = some (.entry constant) ∧ pool.get index = .ok constant
  entries : ∀ entry, entry ∈ pool.entries ↔ pool.get entry.1 = .ok entry.2
  increasing : pool.entries.Pairwise fun a b => a.1 < b.1
  counted : pool.checkedEntries = some pool.entries

/-- Slots that are paired to the end are numbered by their count. -/
lemma Paired.numbered {declared : UInt16} (h : Paired pool.slots)
    (hends : endsWide pool.slots = false) (hsize : pool.size + 1 = declared.toNat) :
    pool.Numbered declared := by
  have hlt : declared.toNat < UInt16.size := declared.toNat_lt
  have hupper : ∀ place, pool.slots[place + 1]? = some .upperHalf ↔ pool.WideAt place :=
    fun place => (h.getElem?_eq_upperHalf_iff hends place).trans any_isWide_iff
  refine ⟨hsize, h.first, hupper, rfl, fun index => get_of_size_lt, ?_, ?_,
    fun entry => mem_entries_iff (by omega),
    pairwise_entries (by omega), checkedEntries_eq (by omega)⟩
  · intro index place hindex hwide
    rw [get_of_toNat_eq hindex, (hupper place).mpr hwide]
  · intro index place hindex hplace hbefore
    refine get_of_ne_upperHalf hindex hplace fun hslot => ?_
    cases place with
    | zero => exact h.first hslot
    | succ before => exact hbefore before rfl ((hupper before).mp hslot)

/-- **The slots of a pool that is read**: wherever it starts, it moves on by its length, its slots
are numbered by the count at its start, and no index outgrows its word on the way, whether the pool
can be read or not. -/
theorem numbered_of_reader (start : Cursor) (overflow : Fault) :
    checkedReader overflow start = reader start ∧
      ∀ pool, (reader start).result = .ok pool →
        (reader start).cursor.offset = start.offset + pool.byteLength ∧
          ∃ declared : UInt16, Word.toBytes declared <+: start.rest ∧ pool.Numbered declared := by
  refine ⟨congrFun (checkedReader_eq overflow) start, fun pool hpool => ?_⟩
  obtain ⟨hlength, declared, hdeclared, hsize, hpaired, hends⟩ := ensures_reader start pool hpool
  exact ⟨hlength, declared, hdeclared, hpaired.numbered hends hsize⟩

/-- A pool with a long constant in its first two slots and a text behind them. -/
theorem numbered_of_reader_long :
    ∃ pool, (reader (.ofBytes [0, 4, 5, 0, 0, 0, 0, 0, 0, 0, 7, 1, 0, 1, 65])).result = .ok pool ∧
      pool.slots = #[.entry (.long 7), .upperHalf, .entry (.utf8 "A")] ∧ pool.Numbered 4 := by
  refine ⟨⟨#[.entry (.long 7), .upperHalf, .entry (.utf8 "A")], 15⟩, rfl, rfl, ?_⟩
  obtain ⟨_, declared, hdeclared, hnumbered⟩ := (numbered_of_reader
    (.ofBytes [0, 4, 5, 0, 0, 0, 0, 0, 0, 0, 7, 1, 0, 1, 65]) (.badMagic 0)).2 _ rfl
  obtain rfl : declared = 4 := UInt16.toNat_inj.mp hnumbered.size.symm
  exact hnumbered

end Pool

end ClassFormat
