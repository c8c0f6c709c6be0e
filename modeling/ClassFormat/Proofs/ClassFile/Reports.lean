import ClassFormat.Proofs.ClassFile.Blame
import ClassFormat.Proofs.ClassFile.Journal
import ClassFormat.Proofs.Decoder.Ensures
import ClassFormat.Proofs.Instruction.Layout

/-!
# How faults are reported

A fault that is found deep inside a class file passes through many records on its way out. It is
pinned to the first of them, if it has no position of its own, and its pin is taken off where its
section reports it. This module shows what is left: which faults are reported at all, and where.

## Main definitions

* `ClassFormat.Fault.Possible` — the faults that are reported.
* `ClassFormat.Fault.Placed` — a fault that is possible, and whose position lies in its part of the
  input.
* `ClassFormat.Overruns` — a switch at the end of its code array, whose header would stand behind
  it.
* `ClassFormat.ClassFault.Reported` — what every report keeps to.

## Main results

* `ClassFormat.Record.places_located` — a record pins faults to itself, and no fault twice.
* `ClassFormat.Instruction.places_reader` — only switches look behind the end of the input.
* `ClassFormat.ClassFile.reported_of_decode` — how a class file reports its faults.
-/

namespace ClassFormat

open Decoder hiding word split split_ok
open Record

/-! ## Faults in their places -/

/-- The opcode of a switch stands at the position `offset`. -/
def IsSwitchAt (input : Bytes) (offset : Nat) : Prop :=
  StandsAt input offset [Opcode.tableswitch.byte] ∨ StandsAt input offset [Opcode.lookupswitch.byte]

/-- In a code array of `length` bytes from the position `base` on stands a switch whose header goes
on at the position `offset`, where the array has ended. -/
def Overruns (input : Bytes) (base length offset : Nat) : Prop :=
  ∃ pc < length, IsSwitchAt input (base + pc) ∧
    offset = base + (pc + 1 + Instruction.switchPadding pc + 4) ∧
    base + length ≤ offset

/-- Bytes that stand in the input end in it. -/
lemma StandsAt.add_length_le {input bytes : Bytes} {offset : Nat} (h : StandsAt input offset bytes)
    (hbytes : 0 < bytes.length) : offset + bytes.length ≤ input.length := by
  have hle := List.IsPrefix.length_le h
  rw [List.length_drop] at hle
  omega

/-- The header of a switch is looked for at most seven bytes behind the input: three of padding and
the four of the default. -/
lemma Overruns.le_length_add {input : Bytes} {base length offset : Nat}
    (h : Overruns input base length offset) : offset ≤ input.length + 7 := by
  obtain ⟨pc, _, hswitch, hoffset, _⟩ := h
  have hpadding : Instruction.switchPadding pc ≤ 3 := by
    unfold Instruction.switchPadding
    omega
  have hlt : base + pc + 1 ≤ input.length := by
    rcases hswitch with h | h <;> exact h.add_length_le (Nat.succ_pos _)
  omega

namespace Fault

/-- The faults that are reported. No read compares bytes, no attribute is refused for its length
alone, the index zero finds nothing rather than an invalid slot, and a pin is no part of a report.
-/
def Possible : Fault → Prop
  | truncated (.mismatch _) | malformedPool .nullIndex | attributeTooLarge _ | located .. => False
  | _ => True

/-- A fault that is possible once its pin is off. If it knows a position, this lies between `low`
and the end of the input, or the fault is that of a header of four bytes which would stand behind
the end. A fault is only pinned if it has no position of its own. -/
structure Placed (input : Bytes) (low : Nat) (beyond : Nat → Prop) (fault : Fault) : Prop where
  possible : fault.unpinned.Possible
  location?_eq : ∀ offset, fault.unpinned.location? = some offset → fault.location? = some offset
  le_location : ∀ offset, fault.location? = some offset → low ≤ offset
  location_le : ∀ offset, fault.location? = some offset →
    offset ≤ input.length ∨ fault = .truncated (.outOfBounds offset 4 0) ∧ beyond offset

variable {input : Bytes} {low : Nat} {beyond : Nat → Prop} {fault : Fault}

/-- A fault without a position has none to lose. -/
lemma unpinned_of_location?_eq_none (h : fault.location? = none) : fault.unpinned = fault := by
  cases fault with
  | located offset fault => cases h
  | _ => rfl

/-- A fault without a position is in its place wherever it was found. -/
lemma placed_of_location?_eq_none (hpossible : fault.Possible)
    (hlocation : fault.location? = none) : fault.Placed input low beyond := by
  refine ⟨?_, ?_, ?_, ?_⟩
  · rw [unpinned_of_location?_eq_none hlocation]
    exact hpossible
  · rw [unpinned_of_location?_eq_none hlocation]
    exact fun _ => id
  · rw [hlocation]
    exact nofun
  · rw [hlocation]
    exact nofun

/-- A fault without a position that is pinned to a record in the input. -/
lemma placed_located {offset : Nat} (hpossible : fault.Possible)
    (hlocation : fault.location? = none) (hlow : low ≤ offset) (hhigh : offset ≤ input.length) :
    (fault.located offset).Placed input low beyond := by
  refine ⟨hpossible, ?_, ?_, ?_⟩
  · show ∀ _, fault.location? = _ → _
    rw [hlocation]
    exact nofun
  · rintro _ ⟨⟩
    exact hlow
  · rintro _ ⟨⟩
    exact .inl hhigh

/-- Records pin what has no position yet, and nothing else. -/
lemma Placed.pinnedAt {offset : Nat} (h : fault.Placed input low beyond) (hlow : low ≤ offset)
    (hhigh : offset ≤ input.length) : (fault.pinnedAt offset).Placed input low beyond := by
  unfold Fault.pinnedAt
  split
  · exact h
  · next hnone =>
    have hlocation := Option.not_isSome_iff_eq_none.mp hnone
    have hpossible := h.possible
    rw [unpinned_of_location?_eq_none hlocation] at hpossible
    exact placed_located hpossible hlocation hlow hhigh

/-- A fault stays in its place if more positions are allowed behind the end. -/
lemma Placed.imp {beyond' : Nat → Prop} (h : fault.Placed input low beyond)
    (himp : ∀ offset, beyond offset → beyond' offset) : fault.Placed input low beyond' := by
  refine ⟨h.possible, h.location?_eq, h.le_location, fun offset hoffset => ?_⟩
  exact (h.location_le offset hoffset).imp_right (And.imp_right (himp offset))

/-- A fault that is reported at its position, or at `home` if it knows none, is not reported before
`home`. -/
lemma Placed.le_reported {home : Nat} (h : fault.Placed input home beyond) :
    home ≤ fault.location?.getD home := by
  cases hlocation : fault.location? with
  | none => exact Nat.le_refl home
  | some offset => exact h.le_location offset hlocation

/-- If it is reported behind the end of the input, four bytes of a header would stand there. -/
lemma Placed.beyond_of_reported {home : Nat} (h : fault.Placed input home beyond)
    (hhome : home ≤ input.length) (hlt : input.length < fault.location?.getD home) :
    fault.unpinned = .truncated (.outOfBounds (fault.location?.getD home) 4 0) ∧
      beyond (fault.location?.getD home) := by
  cases hlocation : fault.location? with
  | none =>
    rw [hlocation] at hlt
    exact absurd hlt (Nat.not_lt_of_le hhome)
  | some offset =>
    rw [hlocation] at hlt
    rcases h.location_le offset hlocation with hle | ⟨rfl, hbeyond⟩
    · exact absurd hlt (Nat.not_lt_of_le hle)
    · exact ⟨rfl, hbeyond⟩

/-- The fault of a reference has no position, so it is in its place anywhere. -/
lemma IsReference.placed (h : fault.IsReference) : fault.Placed input low beyond := by
  unfold IsReference at h
  split at h
  · exact placed_of_location?_eq_none trivial rfl
  · exact placed_of_location?_eq_none trivial rfl
  · cases h

end Fault

/-! ## Cursors and reads -/

section Readers

variable {input : Bytes} {low : Nat} {beyond : Nat → Prop} {start : Cursor}

/-- The cursor stands in a window of the input, at the position `low` or behind it. -/
structure Cursor.Shows (input : Bytes) (low : Nat) (c : Cursor) : Prop where
  views : c.Views input
  low_le : low ≤ c.position
  le_length : c.base + c.window.length ≤ input.length

namespace Cursor.Shows

variable {c d : Cursor}

/-- A cursor further on shows the same input. -/
lemma mono (h : c.Shows input low) (hle : c ≤ d) : d.Shows input low := by
  refine ⟨h.views.mono hle, Nat.le_trans h.low_le (position_le_of_le hle), ?_⟩
  rw [hle.1, hle.2.1]
  exact h.le_length

/-- A window of the next bytes shows the same input. -/
lemma inner (h : c.Shows input low) (count : Nat) : (c.inner count).Shows input low := by
  refine ⟨h.views.inner count, h.low_le, ?_⟩
  have hlength := h.le_length
  have hremaining := c.offset_add_remaining
  show c.base + c.offset + (c.rest.take count).length ≤ input.length
  rw [List.length_take]
  unfold remaining at hremaining
  omega

/-- A cursor that shows the input does not stand behind its end. -/
lemma position_le (h : c.Shows input low) : c.position ≤ input.length := by
  have hlength := h.le_length
  have hoffset := c.offset_le
  unfold position
  omega

/-- A read that fails in the input is in its place. -/
lemma placed_shortage (h : c.Shows input low) {offset wanted : Nat} (hlow : low ≤ c.base + offset)
    (hbeyond : input.length < c.base + offset → wanted = 4 ∧ beyond (c.base + offset)) :
    (Fault.truncated (c.shortage offset wanted)).Placed input low beyond := by
  refine ⟨trivial, fun _ => id, ?_, ?_⟩
  · rintro _ ⟨⟩
    exact hlow
  · rintro _ ⟨⟩
    by_cases hle : c.base + offset ≤ input.length
    · exact .inl hle
    · obtain ⟨rfl, hposition⟩ := hbeyond (Nat.lt_of_not_le hle)
      have hlength := h.le_length
      have havailable : c.window.length - offset = 0 := by omega
      rw [shortage, havailable]
      exact .inr ⟨rfl, hposition⟩

/-- So is a read at the cursor. -/
lemma placed_here (h : c.Shows input low) (wanted : Nat) :
    (Fault.truncated (c.shortage c.offset wanted)).Placed input low beyond :=
  h.placed_shortage h.low_le fun hlt => absurd hlt (Nat.not_lt_of_le h.position_le)

end Cursor.Shows

/-- A decoder whose faults are in their places. -/
abbrev Decoder.Places {α : Type} (input : Bytes) (low : Nat) (beyond : Nat → Prop)
    (decoder : Decoder Fault α) (start : Cursor) : Prop :=
  Obeys (Law.ofFault (Fault.Placed input low beyond)) decoder start

/-- A fault without a position that can occur is in its place anywhere. -/
lemma Decoder.places_fail {α : Type} {fault : Fault} (hpossible : fault.Possible)
    (hlocation : fault.location? = none) :
    Places input low beyond (fail fault : Decoder Fault α) start :=
  obeys_fail (Fault.placed_of_location?_eq_none hpossible hlocation)

/-- A look-up that fails has no position, so it is in its place anywhere. -/
lemma Decoder.places_refers {α : Type} {found : Except Fault α} (h : Refers found) :
    Places input low beyond (given found) start :=
  obeys_given fun fault hfault => (h fault hfault).placed

/-- A decoder that fails only because bytes are missing at the cursor. -/
abbrev Decoder.Lacks {α : Type} (decoder : Decoder ReadFault α) (start : Cursor) : Prop :=
  Obeys
    (Law.ofFault fun cause => ∃ wanted, cause = start.shortage start.offset wanted) decoder start

namespace Record

variable {α : Type}

/-- A read that fails lacks bytes at the cursor. -/
lemma lacks_take (count : Nat) : Lacks (take count) start := by
  intro cause hcause
  by_cases hle : count ≤ start.remaining
  · rw [take_apply_of_le hle] at hcause
    cases hcause
  · rw [take_apply_of_lt (Nat.lt_of_not_le hle)] at hcause
    cases hcause
    exact ⟨count, rfl⟩

/-- A read that lacks bytes is reported at the cursor. -/
lemma places_read {decoder : Decoder ReadFault α} (h : start.Shows input low)
    (hlacks : Lacks decoder start) : Places input low beyond (read decoder) start := by
  intro fault hfault
  obtain ⟨cause, hcause, rfl⟩ := exists_of_mapFault_error hfault
  obtain ⟨wanted, rfl⟩ := hlacks cause hcause
  exact h.placed_here wanted

/-- Bytes that are missing are reported at the cursor. -/
lemma places_take (count : Nat) (h : start.Shows input low) :
    Places input low beyond (read (take count)) start :=
  places_read h (lacks_take count)

/-- A word that is missing is reported at the cursor. -/
lemma places_word [Word α] (h : start.Shows input low) :
    Places input low beyond (word : Decoder Fault α) start :=
  places_read h ((lacks_take _).bind fun _ _ => obeys_pure _ _)

/-- A window that is missing is reported at the cursor. -/
lemma places_split (count : Nat) (h : start.Shows input low) :
    Places input low beyond (split count) start :=
  places_read h
    ((obeys_here start).bind fun _ _ => (lacks_take count).bind fun _ _ => obeys_pure _ _)

/-- A record pins faults to its first byte, which is in the input. -/
lemma places_located {record : Decoder Fault α} (h : start.Shows input low)
    (hrecord : Places input low beyond record start) :
    Places input low beyond (located record) start := by
  intro fault hfault
  obtain ⟨cause, hcause, rfl⟩ := exists_of_mapFault_error hfault
  exact (hrecord cause hcause).pinnedAt h.low_le h.position_le

/-- The faults of a table are in their places if those of its records are. -/
lemma places_table {record : Decoder Fault α} (h : start.Shows input low)
    (hrecord : ∀ c, c.Shows input low → Places input low beyond record c) :
    Places input low beyond (table record) start := by
  refine (places_word h).bind fun count _ => Obeys.seq (fun c hc => ?_) count.toNat
  have hc := (h.mono (word (α := UInt16) start).ahead).mono hc
  exact places_located hc (hrecord c hc)

end Record

/-! ## The constant pool -/

namespace Constant

/-- The byte of a text that is blamed is one of the text's own. -/
lemma places_textReader (h : start.Shows input low) : Places input low beyond textReader start := by
  intro fault hfault
  unfold textReader at hfault
  split at hfault
  · cases hfault
  · next cause hcause =>
    cases hfault
    have hbase := Modified.le_of_decode_error hcause
    have hend :=
      (Modified.standsAt_of_decode_error h.views.rest hcause).add_length_le (Nat.succ_pos _)
    refine ⟨trivial, fun _ => id, ?_, ?_⟩
    · rintro _ ⟨⟩
      exact Nat.le_trans h.low_le hbase
    · rintro _ ⟨⟩
      exact .inl (Nat.le_of_succ_le hend)

/-- The faults of a constant's content are in their places. -/
lemma places_contentReader (index : Index) (kind : Kind) (h : start.Shows input low) :
    Places input low beyond (contentReader index kind) start := by
  have hword : ∀ {α : Type} [Word α] {β : Type} (f : α → β),
      Places input low beyond (do return f (← word)) start :=
    fun f => (places_word h).bind fun _ _ => obeys_pure _ _
  have hwords : ∀ {β : Type} (f : UInt16 → UInt16 → β),
      Places input low beyond (do return f (← word) (← word)) start :=
    fun f => (places_word h).bind fun _ _ =>
      (places_word (h.mono (word start).ahead)).bind fun _ _ => obeys_pure _ _
  cases kind with
  | utf8 => exact (places_textReader h).bind fun _ _ => obeys_pure _ _
  | integer | float | long | double | label => exact hword _
  | member | nameAndType | dynamic => exact hwords _
  | methodHandle =>
    refine (places_word h).bind fun code _ => ?_
    split
    · exact (places_word (h.mono (word start).ahead)).bind fun _ _ => obeys_pure _ _
    · exact places_fail trivial rfl

/-- The faults of a constant's length are in their places. -/
lemma places_lengthReader (kind : Kind) (h : start.Shows input low) :
    Places input low beyond (lengthReader kind) start := by
  unfold lengthReader
  split
  · exact obeys_pure _ _
  · exact (places_word h).bind fun _ _ => obeys_pure _ _

/-- The faults of a constant are in their places. -/
lemma places_reader (index : Index) (h : start.Shows input low) :
    Places input low beyond (Constant.reader index) start := by
  unfold Constant.reader
  refine (places_word h).bind fun tag _ => ?_
  have h := h.mono (word (α := UInt8) start).ahead
  split
  · next kind _ =>
    refine (places_lengthReader kind h).bind fun length _ => ?_
    have h := h.mono (lengthReader kind _).ahead
    refine (places_split length h).bind fun window hwindow => ?_
    have hinner := h.inner length
    rw [← split_ok hwindow] at hinner
    exact (obeys_inside (places_contentReader index kind hinner)).bind fun _ _ => obeys_pure _ _
  · exact places_fail trivial rfl

end Constant

namespace Pool

/-- The faults of a slot are in their places. -/
lemma places_slotReader (slots : Array Slot) (h : start.Shows input low) :
    Places input low beyond (slotReader slots) start := by
  unfold slotReader
  split
  · exact obeys_pure _ _
  · refine (places_located h (Constant.places_reader _ h)).bind fun constant _ => ?_
    exact (obeys_note _).bind fun _ _ => obeys_pure _ _

/-- The faults of a constant pool are in their places. -/
lemma places_reader (h : start.Shows input low) : Places input low beyond Pool.reader start := by
  unfold Pool.reader
  refine (obeys_position start).bind fun _ _ => (places_word h).bind fun declared _ => ?_
  have h := h.mono (word (α := UInt16) start).ahead
  split
  · exact places_fail trivial rfl
  · refine (Obeys.grow (fun items c hc => places_slotReader items (h.mono hc)) _).bind
      fun slots _ => ?_
    split
    · exact places_fail trivial rfl
    · refine (obeys_position _).bind fun stop _ => ?_
      exact (obeys_note _).bind fun _ _ => obeys_pure _ _

end Pool

/-! ## Instructions and handlers -/

namespace Instruction

/-- A word of the window that is not found is reported at its place. -/
lemma places_wordAt {α : Type} [Word α] {offset : Nat} (h : start.Shows input low)
    (hlow : low ≤ start.base + offset)
    (hbeyond : input.length < start.base + offset →
      Word.size α = 4 ∧ beyond (start.base + offset)) :
    Places input low beyond (wordAt offset : Decoder Fault α) start := by
  refine (obeys_here start).bind fun c hc => obeys_given fun fault hfault => ?_
  cases hc
  have hplaced := h.placed_shortage hlow hbeyond
  unfold Cursor.wordAt Cursor.bytesAt at hfault
  dsimp only at hfault
  split at hfault
  · cases hfault
  · cases hfault
    exact hplaced

/-- The second bound of a table stands in the input if the first one does. -/
lemma places_tableLength {pc : Nat} (h : start.Shows input low) (hlow : low ≤ start.base + pc)
    (hbeyond : input.length < start.base + (pc + 1 + switchPadding pc + 4) →
      beyond (start.base + (pc + 1 + switchPadding pc + 4))) :
    Places input low beyond (tableLength pc) start := by
  unfold tableLength
  refine (places_wordAt h (by omega) fun hlt => ⟨rfl, hbeyond hlt⟩).bind fun first hfirst => ?_
  rw [cursor_wordAt]
  have hstands :=
    (standsAt_of_wordAt h.views hfirst).add_length_le (by rw [Word.length_toBytes]; decide)
  rw [Word.length_toBytes] at hstands
  change start.base + (pc + 1 + switchPadding pc + 4) + 4 ≤ input.length at hstands
  refine (places_wordAt h (by omega) fun hlt => ?_).bind fun last _ => ?_
  · omega
  · split
    · exact places_fail trivial rfl
    · exact obeys_pure _ _

/-- Of a list of pairs, only the number of pairs can be looked for behind the end of the input. -/
lemma places_lookupLength {pc : Nat} (h : start.Shows input low) (hlow : low ≤ start.base + pc)
    (hbeyond : input.length < start.base + (pc + 1 + switchPadding pc + 4) →
      beyond (start.base + (pc + 1 + switchPadding pc + 4))) :
    Places input low beyond (lookupLength pc) start := by
  unfold lookupLength
  refine (places_wordAt h (by omega) fun hlt => ⟨rfl, hbeyond hlt⟩).bind fun count _ => ?_
  split
  · exact places_fail trivial rfl
  · exact obeys_pure _ _

/-- The opcode behind `wide` would stand at the end of the window at the latest. -/
lemma places_wideLength {pc : Nat} (h : start.Shows input low) (hlow : low ≤ start.base + pc)
    (hpc : pc < start.window.length) : Places input low beyond (wideLength pc) start := by
  have hlength := h.le_length
  unfold wideLength
  refine (places_wordAt h (by omega) fun hlt => by omega).bind fun modified _ => ?_
  split
  · exact obeys_pure _ _
  · exact places_fail trivial rfl

/-- Of operands, only the header of a switch can be looked for behind the end of the input. -/
lemma places_operandLength {pc : Nat} {opcode : Opcode} (h : start.Shows input low)
    (hlow : low ≤ start.base + pc) (hpc : pc < start.window.length)
    (hopcode : StandsAt input (start.base + pc) [opcode.byte]) :
    Places input low (Overruns input start.base start.window.length)
      (operandLength pc opcode) start := by
  have hbeyond : IsSwitchAt input (start.base + pc) →
      input.length < start.base + (pc + 1 + switchPadding pc + 4) →
      Overruns input start.base start.window.length
        (start.base + (pc + 1 + switchPadding pc + 4)) := by
    intro hswitch hlt
    have hlength := h.le_length
    exact ⟨pc, hpc, hswitch, rfl, by omega⟩
  unfold operandLength
  split
  · exact obeys_pure _ _
  · next hdependent =>
    rcases Opcode.eq_of_dependent hdependent with rfl | rfl | rfl
    · exact places_tableLength h hlow (hbeyond (.inl hopcode))
    · exact places_lookupLength h hlow (hbeyond (.inr hopcode))
    · exact places_wideLength h hlow hpc

/-- Only switches look behind the end of the input. -/
lemma places_reader (h : start.Shows input low) :
    Places input low (Overruns input start.base start.window.length) Instruction.reader start := by
  unfold Instruction.reader
  refine (obeys_here start).bind fun c hc => (places_word h).bind fun byte hbyte => ?_
  cases hc
  have hstands := standsAt_of_byte h.views hbyte
  have hahead := (word (α := UInt8) start).ahead
  have hlt := advances_word (α := UInt8) (by decide) start byte hbyte
  have hoffset := (word (α := UInt8) start).cursor.offset_le
  have hlow := h.low_le
  have h := h.mono hahead
  -- behind the opcode, the window is still the same
  unfold Cursor.position at hstands hlow
  rw [← hahead.2.1] at hstands hlow
  rw [← hahead.1, ← hahead.2.1]
  split
  · next opcode hopcode =>
    have hopcodeByte := Opcode.byte_of_ofByte? hopcode
    refine (places_operandLength h hlow (by omega) (hopcodeByte ▸ hstands)).bind fun length _ => ?_
    refine (places_take length (h.mono (operandLength _ opcode _).ahead)).bind fun operands _ => ?_
    exact (obeys_note _).bind fun _ _ => obeys_pure _ _
  · exact places_fail trivial rfl

/-- The faults of a code array are in their places, or a switch overruns the array. -/
lemma places_allReader (h : start.Shows input low) :
    Places input low (Overruns input start.base start.window.length) allReader start := by
  refine Obeys.untilEmpty _ fun c hc => ?_
  have h := h.mono hc
  rw [← hc.1, ← hc.2.1]
  exact places_located h (places_reader h)

end Instruction

/-- The faults of a handler are in their places. -/
lemma Handler.places_reader (pool : Pool) (codeLength : Nat) (h : start.Shows input low) :
    Places input low beyond (Handler.reader pool codeLength) start := by
  unfold Handler.reader
  refine (places_word h).bind fun first _ => ?_
  have h := h.mono (word (α := UInt16) _).ahead
  refine (places_word h).bind fun last _ => ?_
  have h := h.mono (word (α := UInt16) _).ahead
  refine (places_word h).bind fun target _ => ?_
  have h := h.mono (word (α := UInt16) _).ahead
  refine (places_word h).bind fun catches _ => ?_
  have hchecks : ∀ name c, Places input low beyond (do
      let handler ← given (Handler.ofRange first.toNat last.toNat target.toNat name)
      if codeLength < last.toNat then fail (.malformedRange first.toNat last.toNat)
      else return handler) c := by
    intro name c
    refine (obeys_given fun fault hfault => ?_).bind fun handler _ => ?_
    · obtain rfl := Handler.eq_of_ofRange_error hfault
      exact Fault.placed_of_location?_eq_none trivial rfl
    · split
      · exact places_fail trivial rfl
      · exact obeys_pure _ _
  by_cases hcatches : catches = 0
  · simp only [hcatches, if_true]
    exact (obeys_pure _ _).bind fun name _ => hchecks name _
  · simp only [hcatches, if_false]
    refine Obeys.bind ?_ fun name _ => hchecks name _
    exact (places_refers (pool.refers_className catches)).bind fun _ _ => obeys_pure _ _

/-! ## Attributes and members -/

/-- A switch overruns the code array whose length stands before it in the input. -/
def CodeOverruns (input : Bytes) (offset : Nat) : Prop :=
  ∃ (home : Nat) (length : UInt32), StandsAt input home (Word.toBytes length) ∧
    Overruns input (home + 4) length.toNat offset

namespace Attribute

/-- The faults of a frame are in their places. -/
lemma places_frameReader (pool : Pool) (h : start.Shows input low) :
    Places input low beyond (frameReader pool) start := by
  unfold frameReader
  refine (places_word h).bind fun nameIndex _ =>
    (places_refers (pool.refers_utf8 _)).bind fun name _ => ?_
  rw [cursor_given]
  have h := h.mono (word (α := Index) start).ahead
  refine (places_word h).bind fun length _ => ?_
  have h := h.mono (word (α := UInt32) _).ahead
  exact (places_split _ h).bind fun payload _ => obeys_pure _ _

/-- The payload of a frame shows the same input. -/
lemma shows_payload {pool : Pool} {frame : Frame} (h : start.Shows input low)
    (hframe : (frameReader pool start).result = .ok frame) : frame.payload.Shows input low := by
  obtain ⟨c, length, hc, hpayload⟩ := exists_payload_eq_inner hframe
  rw [hpayload]
  exact (h.mono hc).inner length

/-- A body that has been read has no faults any more. -/
lemma places_finishCode (frame : Frame) (body : Code) (stop : Cursor) :
    Places input low beyond (finishCode frame body stop) start := by
  unfold finishCode
  split
  · exact obeys_pure _ _
  · exact (obeys_note _).bind fun _ _ => obeys_pure _ _

end Attribute

/-- A code array that stands behind its length. -/
lemma Code.places_codeArray {codeLength : UInt32} {window : Cursor} (h : start.Shows input low)
    (hlength : (word start).result = .ok codeLength)
    (hwindow : (split codeLength.toNat (word (α := UInt32) start).cursor).result = .ok window) :
    Places input low (CodeOverruns input) Instruction.allReader window := by
  have hinner := (h.mono (word (α := UInt32) start).ahead).inner codeLength.toNat
  rw [← split_ok hwindow] at hinner
  have hbase : window.base = start.position + 4 := by
    rw [split_ok hwindow]
    exact (word_ok hlength).2
  have hsize : window.window.length = codeLength.toNat := by
    obtain ⟨hoffset, hrest, _⟩ := ensures_split codeLength.toNat window hwindow
    have htotal := window.offset_add_remaining
    unfold Cursor.remaining at htotal
    omega
  intro fault hfault
  refine (Instruction.places_allReader hinner fault hfault).imp fun offset hoverruns => ?_
  rw [hsize, hbase] at hoverruns
  exact ⟨start.position, codeLength, standsAt_of_word h.views hlength, hoverruns⟩

/-- The faults of the head of a body are in their places, or a switch overruns its code array. -/
lemma Code.places_headReader (pool : Pool) (h : start.Shows input low) :
    Places input low (CodeOverruns input) (Code.headReader pool) start := by
  unfold Code.headReader
  refine (places_word h).bind fun maxStack _ => ?_
  have h := h.mono (word (α := UInt16) _).ahead
  refine (places_word h).bind fun maxLocals _ => ?_
  have h := h.mono (word (α := UInt16) _).ahead
  refine (places_word h).bind fun codeLength hlength => ?_
  have hbehind := h.mono (word (α := UInt32) _).ahead
  refine (places_split _ hbehind).bind fun window hwindow => ?_
  refine (obeys_inside (Code.places_codeArray h hlength hwindow)).bind fun _ _ => ?_
  have hbehind := hbehind.mono (split codeLength.toNat _).ahead
  refine (places_table hbehind fun c hc => Handler.places_reader pool _ hc).bind
    fun handlers _ => ?_
  exact obeys_pure _ _

namespace Attribute

/-- At or behind `low`, the faults of the decoder are in their places. -/
def PlacesAnywhere {α : Type} (input : Bytes) (low : Nat) (decoder : Decoder Fault α)
    (start : Cursor) : Prop :=
  start.Shows input low → Places input low (CodeOverruns input) decoder start

/-- The faults of attributes are in their places at any depth, or a switch overruns its code array.
-/
theorem places_readers (pool : Pool) (start : Cursor) :
    PlacesAnywhere input low (Attribute.reader pool) start ∧
      PlacesAnywhere input low (Code.reader pool) start ∧
      PlacesAnywhere input low (Attribute.listReader pool) start := by
  refine readers_induction pool ?_ ?_ ?_ start
  · intro start hbody h
    rw [Attribute.reader_eq]
    refine (places_frameReader pool h).bind fun frame hframe => ?_
    have hpayload := hbody frame hframe (shows_payload h hframe)
    split
    · exact (obeys_inside hpayload).bind fun _ _ => places_finishCode frame _ _
    · exact obeys_pure _ _
  · intro start hlist h
    rw [Code.reader_eq]
    refine (Code.places_headReader pool h).bind fun head hhead => ?_
    have h := h.mono (Code.headReader pool start).ahead
    refine (hlist head hhead h).bind fun attributes _ => ?_
    exact (obeys_note _).bind fun _ _ => obeys_pure _ _
  · intro start hitem h
    rw [Attribute.listReader_eq]
    refine (places_word h).bind fun count hcount => Obeys.seq (fun c hc => ?_) count.toNat
    have h := (h.mono (word (α := UInt16) start).ahead).mono hc
    exact places_located h (hitem count hcount c hc h)

/-- The faults of a list of attributes are in their places, or a switch overruns its code array. -/
lemma places_listReader (pool : Pool) (h : start.Shows input low) :
    Places input low (CodeOverruns input) (Attribute.listReader pool) start :=
  (places_readers pool start).2.2 h

end Attribute

/-- The faults of flags are in their places. -/
lemma Access.places_reader (options : Options) (target : AccessTarget) (h : start.Shows input low) :
    Places input low beyond (Access.reader options target) start := by
  unfold Access.reader
  refine (places_word h).bind fun raw _ => ?_
  dsimp only
  split
  · refine (obeys_given fun fault hfault => ?_).bind fun _ _ => obeys_pure _ _
    obtain rfl := Access.eq_of_validate_error hfault
    exact Fault.placed_of_location?_eq_none trivial rfl
  · exact obeys_pure _ _

/-- Members begin alike: with flags, a name and a descriptor. -/
lemma places_member {α : Type} (pool : Pool) (options : Options) (target : AccessTarget)
    (h : start.Shows input low) {next : Access → String → String → Decoder Fault α}
    (hnext : ∀ access name descriptor c, c.Shows input low →
      Places input low beyond (next access name descriptor) c) :
    Places input low beyond (do
      let access ← Access.reader options target
      let name ← given (pool.utf8 (← word))
      let descriptor ← given (pool.utf8 (← word))
      next access name descriptor) start := by
  refine (Access.places_reader options target h).bind fun access _ => ?_
  have h := h.mono (Access.reader options target start).ahead
  refine (places_word h).bind fun nameIndex _ =>
    (places_refers (pool.refers_utf8 _)).bind fun name _ => ?_
  rw [cursor_given]
  have h := h.mono (word (α := Index) _).ahead
  refine (places_word h).bind fun index _ =>
    (places_refers (pool.refers_utf8 _)).bind fun descriptor _ => ?_
  rw [cursor_given]
  exact hnext access name descriptor _ (h.mono (word (α := Index) _).ahead)

/-- The faults of a field are in their places, or a switch overruns its code array. -/
lemma Field.places_reader (pool : Pool) (options : Options) (h : start.Shows input low) :
    Places input low (CodeOverruns input) (Field.reader pool options) start := by
  refine places_member pool options .field h fun access name descriptor c hc => ?_
  refine (obeys_given fun fault hfault => ?_).bind fun type _ => ?_
  · obtain rfl := TypeDescriptor.eq_of_parse_error hfault
    exact Fault.placed_of_location?_eq_none trivial rfl
  · rw [cursor_given]
    split
    · exact places_fail trivial rfl
    · exact (Attribute.places_listReader pool hc).bind fun attributes _ => obeys_pure _ _

/-- The faults of a method are in their places, or a switch overruns its code array. -/
lemma Method.places_reader (pool : Pool) (options : Options) (h : start.Shows input low) :
    Places input low (CodeOverruns input) (Method.reader pool options) start := by
  refine places_member pool options .method h fun access name descriptor c hc => ?_
  refine (obeys_given fun fault hfault => ?_).bind fun signature _ => ?_
  · obtain rfl := Signature.eq_of_parse_error hfault
    exact Fault.placed_of_location?_eq_none trivial rfl
  · rw [cursor_given]
    exact (Attribute.places_listReader pool hc).bind fun attributes _ => obeys_pure _ _

/-! ## Sections -/

namespace ClassFile

/-- The magic number is pinned to the start of the file, and the version to its own. -/
lemma places_headerReader (options : Options) (h : start.Shows input 0) :
    Places input 0 beyond (headerReader options) start := by
  unfold headerReader
  refine (places_word h).bind fun found _ => ?_
  have h := h.mono (word (α := UInt32) start).ahead
  split
  · exact obeys_fail (Fault.placed_located trivial rfl (Nat.le_refl 0) (Nat.zero_le _))
  · refine (obeys_position _).bind fun position hposition => ?_
    cases hposition
    refine (places_word h).bind fun minor _ => ?_
    refine (places_word (h.mono (word (α := UInt16) _).ahead)).bind fun major _ => ?_
    split
    · exact obeys_fail (Fault.placed_located trivial rfl h.low_le h.position_le)
    · exact obeys_pure _ _

/-- The faults of the section of the constant pool are in their places. -/
lemma places_poolReader (options : Options) (h : start.Shows input low) :
    Places input low beyond (poolReader options) start := by
  unfold poolReader
  refine (Pool.places_reader h).bind fun pool _ => ?_
  split
  · exact (places_refers pool.refers_verify).bind fun _ _ => obeys_pure _ _
  · exact obeys_pure _ _

/-- The faults of the names of a class are in their places. -/
lemma places_namesReader (pool : Pool) (h : start.Shows input low) :
    Places input low beyond (namesReader pool) start := by
  unfold namesReader
  refine (places_word h).bind fun this _ => ?_
  refine (places_word (h.mono (word (α := Index) start).ahead)).bind fun super _ => ?_
  refine (places_refers (pool.refers_className _)).bind fun name _ => ?_
  split
  · exact (obeys_pure _ _).bind fun superName _ => obeys_pure _ _
  · exact (places_refers (pool.refers_className _)).bind fun superName _ => obeys_pure _ _

/-- The faults of an interface are in their places. -/
lemma places_interfaceReader (pool : Pool) (h : start.Shows input low) :
    Places input low beyond (interfaceReader pool) start :=
  (places_word h).bind fun _ _ => places_refers (pool.refers_className _)

end ClassFile

end Readers

/-! ## Reports -/

/-- What every report of a fault keeps to, of an input and the journal of its decode. -/
structure ClassFault.Reported (input : Bytes) (journal : List Event) (fault : ClassFault) :
    Prop where
  possible : fault.cause.Possible
  /-- A fault that knows its position is reported there. -/
  offset_eq : ∀ offset, fault.cause.location? = some offset → fault.offset = offset
  /-- The section has begun, and no section has begun behind the fault. -/
  begun : ∃ first, .beginning fault.part first ∈ journal
  begun_le : ∀ part first, .beginning part first ∈ journal → first ≤ fault.offset
  offset_le : fault.offset ≤ input.length + 7
  /-- Behind the end of the input, the fault is that of a switch at the end of its code array, of
  whose header four bytes are wanted and none are there. -/
  overruns : input.length < fault.offset →
    fault.cause = .truncated (.outOfBounds fault.offset 4 0) ∧ CodeOverruns input fault.offset

/-- Notes that were made before change nothing about a report, if their sections began before the
fault. -/
lemma ClassFault.Reported.append {input : Bytes} {journal earlier : List Event} {fault : ClassFault}
    (h : fault.Reported input journal)
    (hearlier : ∀ part first, .beginning part first ∈ earlier → first ≤ fault.offset) :
    fault.Reported input (earlier ++ journal) := by
  obtain ⟨first, hfirst⟩ := h.begun
  refine { h with begun := ⟨first, List.mem_append_right _ hfirst⟩, begun_le := ?_ }
  intro part first hmem
  rcases List.mem_append.mp hmem with hmem | hmem
  · exact hearlier part first hmem
  · exact h.begun_le part first hmem

/-- The law of outcomes that began their sections on the way, and that report faults behind their
start. -/
def Law.reporting (input : Bytes) : Law ClassFault where
  Holds {_ start} outcome :=
    (∀ part first, .beginning part first ∈ outcome.journal → first ≤ outcome.cursor.position) ∧
      ∀ fault, outcome.result = .error fault →
        start.position ≤ fault.offset ∧ fault.Reported input outcome.journal
  pure _ := ⟨nofun, nofun⟩
  andThen {_ _ start first next} hfirst hnext := by
    unfold Outcome.andThen
    split
    · next value h =>
      obtain ⟨hbegun, hreported⟩ := hnext value h
      have hahead := Cursor.position_le_of_le (next value first.cursor).ahead
      refine ⟨fun part position hmem => ?_, fun fault hfault => ?_⟩
      · rcases List.mem_append.mp hmem with hmem | hmem
        · exact Nat.le_trans (hfirst.1 part position hmem) hahead
        · exact hbegun part position hmem
      · obtain ⟨hoffset, hreport⟩ := hreported fault hfault
        refine ⟨Nat.le_trans (Cursor.position_le_of_le first.ahead) hoffset, ?_⟩
        exact hreport.append fun part position hmem =>
          Nat.le_trans (hfirst.1 part position hmem) hoffset
    · next fault h =>
      refine ⟨hfirst.1, ?_⟩
      rintro _ ⟨⟩
      exact hfirst.2 fault h

namespace ClassFile

variable {input : Bytes} {start : Cursor}

/-- A section reports its faults behind its own beginning, which is the only one that it notes. -/
lemma reporting_inSection {α : Type} (part : Section) {content : Decoder Fault α}
    (h : Places input start.position (CodeOverruns input) content start)
    (hquiet : Quiet content start) (hshows : start.Shows input start.position) :
    Obeys (Law.reporting input) (inSection part content) start := by
  have hbeginning : ∀ found first,
      .beginning found first ∈ (inSection part content start).journal → first = start.position := by
    intro found first hmem
    rw [inSection_journal] at hmem
    rcases List.mem_cons.mp hmem with hmem | hmem
    · cases hmem
      rfl
    · cases hquiet _ hmem
  refine ⟨fun found first hmem => ?_, fun fault hfault => ?_⟩
  · rw [hbeginning found first hmem]
    exact Cursor.position_le_of_le (inSection part content start).ahead
  · obtain ⟨cause, hcause, rfl⟩ := inSection_error part start hfault
    have hplaced := h cause hcause
    have hoverruns := hplaced.beyond_of_reported hshows.position_le
    refine ⟨hplaced.le_reported, hplaced.possible, ?_, ⟨start.position, List.mem_cons_self⟩, ?_, ?_,
      hoverruns⟩
    · intro offset hoffset
      rw [hplaced.location?_eq offset hoffset]
      rfl
    · intro found first hmem
      rw [hbeginning found first hmem]
      exact hplaced.le_reported
    · by_cases hle : cause.location?.getD start.position ≤ input.length
      · exact Nat.le_add_right_of_le hle
      · obtain ⟨_, home, length, _, hoverrun⟩ := hoverruns (Nat.lt_of_not_le hle)
        exact hoverrun.le_length_add

/-- Sections in a row are sections of the same input. -/
lemma reporting_bind {α β : Type} {part : Section} {content : Decoder Fault α}
    {next : α → Decoder ClassFault β} (hshows : start.Shows input 0)
    (h : start.Shows input start.position →
      Places input start.position (CodeOverruns input) content start)
    (hquiet : Quiet content start)
    (hnext : ∀ value c, c.Shows input 0 → Obeys (Law.reporting input) (next value) c) :
    Obeys (Law.reporting input) (inSection part content >>= next) start := by
  have hhere : start.Shows input start.position := ⟨hshows.views, Nat.le_refl _, hshows.le_length⟩
  refine (reporting_inSection part (h hhere) hquiet hhere).bind fun value _ => hnext value _ ?_
  exact hshows.mono (inSection part content start).ahead

/-- The notes at the end begin no section. -/
lemma reporting_finish (file : ClassFile) (start : Cursor) :
    Obeys (Law.reporting input) (finish file) start := by
  have hnote : ∀ (event : Event) (c : Cursor), event.beginning? = none →
      Obeys (Law.reporting input) (note event) c := by
    intro event c hevent
    refine ⟨fun part first hmem => ?_, nofun⟩
    rw [← List.mem_singleton.mp hmem] at hevent
    cases hevent
  unfold finish
  refine (obeys_here start).bind fun stop _ => ?_
  split
  · exact (hnote _ _ rfl).bind fun _ _ => obeys_pure _ _
  · exact (hnote _ _ rfl).bind fun _ _ => (hnote _ _ rfl).bind fun _ _ => obeys_pure _ _

/-- The sections of a class file, decoded from the start of the input, report their faults. -/
theorem reporting_sectionsReader (raw : Bytes) (options : Options) :
    Obeys (Law.reporting input) (sectionsReader raw options) (.ofBytes input) := by
  unfold sectionsReader
  have hshows : (Cursor.ofBytes input).Shows input 0 :=
    ⟨Cursor.views_ofBytes input, Nat.zero_le _, Nat.le_of_eq (Nat.zero_add _)⟩
  refine reporting_bind hshows (places_headerReader options) (quiet_headerReader options _) ?_
  intro version c hshows
  refine reporting_bind hshows (places_poolReader options) (quiet_poolReader options c) ?_
  intro pool c hshows
  refine reporting_bind hshows (Access.places_reader options _) (Access.quiet_reader options _ c) ?_
  intro access c hshows
  refine reporting_bind hshows (places_namesReader pool) (quiet_namesReader pool c) ?_
  rintro ⟨name, superName⟩ c hshows
  refine reporting_bind hshows (fun h => places_table h fun d => places_interfaceReader pool)
    (quiet_table fun d _ => quiet_interfaceReader pool d) ?_
  intro interfaces c hshows
  refine reporting_bind hshows (fun h => places_table h fun d => Field.places_reader pool options)
    (quiet_table fun d _ => Field.quiet_reader pool options d) ?_
  intro fields c hshows
  refine reporting_bind hshows (fun h => places_table h fun d => Method.places_reader pool options)
    (quiet_table fun d _ => Method.quiet_reader pool options d) ?_
  intro methods c hshows
  refine reporting_bind hshows (Attribute.places_listReader pool)
    (Attribute.quiet_listReader pool c) ?_
  intro attributes c _
  exact reporting_finish _ c

/-- **How a class file reports its faults.** The fault that is reported carries no pin, and is none
of those that cannot occur. It is reported at its own position if it has one, and never before its
section. The position lies in the input or at its end, unless a switch at the end of a code array
wants to look behind it, by seven bytes at most.

**Proof sketch.** Every fault of every reader is placed: it is possible, it is pinned only if it has
no position, and its position lies between the start of the section and the end of the input, since
windows are parts of the input. The exception is the header of a switch, which is looked for ahead
of the cursor. -/
theorem reported_of_decode {bytes : Bytes} {options : Options} {fault : ClassFault}
    (h : decode bytes options = .error fault) :
    fault.Reported bytes (reader options (.ofBytes bytes)).journal :=
  ((reporting_sectionsReader bytes options).2 fault h).2

/-- A class file that ends in a code array of one byte, which is the opcode of a switch. -/
def endingInSwitch : Bytes :=
  [0xCA, 0xFE, 0xBA, 0xBE, 0, 0, 0, 52] ++
    -- the pool: `A`, the class of that name, `()V` and `Code`
    [0, 5, 1, 0, 1, 65, 7, 0, 1, 1, 0, 3, 40, 41, 86, 1, 0, 4, 67, 111, 100, 101] ++
    [0, 0x21, 0, 2, 0, 0, 0, 0, 0, 0] ++
    [0, 1, 0, 1, 0, 1, 0, 3, 0, 1] ++
    [0, 4, 0, 0, 0, 9, 0, 0, 0, 0, 0, 0, 0, 1, 0xAA]

/-- The header of the switch is missed seven bytes behind the end of the file. -/
theorem reported_of_decode_endingInSwitch :
    decode endingInSwitch {} = .error ⟨.methods, 72, .truncated (.outOfBounds 72 4 0)⟩ ∧
    endingInSwitch.length + 7 = 72 ∧
    ClassFault.Reported endingInSwitch (reader {} (.ofBytes endingInSwitch)).journal
      ⟨.methods, 72, .truncated (.outOfBounds 72 4 0)⟩ := by
  have hfault :
      decode endingInSwitch {} = .error ⟨.methods, 72, .truncated (.outOfBounds 72 4 0)⟩ :=
    decode_eq_error_iff.mpr (by decide +kernel)
  exact ⟨hfault, by decide, reported_of_decode hfault⟩

end ClassFile

end ClassFormat
