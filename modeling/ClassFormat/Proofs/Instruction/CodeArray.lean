import ClassFormat.Proofs.Decoder.Ensures
import ClassFormat.Proofs.Instruction.Layout

/-!
# Code and its instructions

Instructions stand in the code without gaps, so the place of each one is decided by all that stand
before it. Code is read into instructions exactly if it consists of well-formed ones; then there is
only one way to take it apart, and any other code is refused.

## Main definitions

* `ClassFormat.Instruction.Contiguous` — each instruction begins where the ones before it end.
* `ClassFormat.Instruction.Spells` — instructions that make up the code.

## Main results

* `ClassFormat.Instruction.ensures_reader` — an instruction that was read is well-formed and stands
  where it was read.
* `ClassFormat.Instruction.ensures_allReader` — so do all instructions of a window.
* `ClassFormat.Instruction.allReader_eq_ok_iff` — code is read exactly as what spells it.
-/

namespace ClassFormat

/-! ## Words inside operands -/

section Words

variable {α : Type} [Word α] {bytes : Bytes} {offset : Nat}

/-- Where a word was seen, the bytes go on with the word. -/
lemma drop_eq_toBytes_append {rest : Bytes} {value : α}
    (hword : Word.toBytes value <+: rest.drop offset) (hbytes : bytes <+: rest)
    (hlength : offset + Word.size α ≤ bytes.length) :
    bytes.drop offset = Word.toBytes value ++ bytes.drop (offset + Word.size α) := by
  have hprefix : Word.toBytes value <+: bytes.drop offset := by
    refine List.prefix_of_prefix_length_le hword (hbytes.drop offset) ?_
    rw [Word.length_toBytes, List.length_drop]
    omega
  have happend := List.prefix_iff_eq_append.mp hprefix
  rw [Word.length_toBytes, List.drop_drop] at happend
  exact happend.symm

/-- Any bytes are those of some word, if there are enough of them. -/
lemma exists_drop_eq_toBytes_append (hlength : offset + Word.size α ≤ bytes.length) :
    ∃ value : α, bytes.drop offset = Word.toBytes value ++ bytes.drop (offset + Word.size α) := by
  have htake : ((bytes.drop offset).take (Word.size α)).length = Word.size α := by
    rw [List.length_take, List.length_drop]
    omega
  have hword : Word.toBytes (Word.ofBytes ((bytes.drop offset).take (Word.size α)) : α) <+:
      bytes.drop offset := by
    rw [Word.toBytes_ofBytes htake]
    exact List.take_prefix _ _
  exact ⟨_, drop_eq_toBytes_append hword List.prefix_rfl hlength⟩

end Words

namespace Instruction

open Decoder hiding word split
open Record

/-! ## Operands of the right length -/

section Operands

variable {start : Cursor} {pc : Nat}

/-- A word that was looked at stands ahead of the cursor, which stays where it is. -/
lemma ensures_wordAt {α : Type} [Word α] {offset : Nat} (ahead : Nat)
    (hoffset : offset = start.offset + ahead) :
    Ensures (wordAt offset) start fun (value : α) c =>
      c = start ∧ Word.toBytes value <+: start.rest.drop ahead := by
  refine ensures_here.bind ?_
  rintro _ start _ ⟨rfl, rfl⟩
  refine (ensures_given _).imp ?_
  rintro value start _ ⟨hvalue, rfl⟩
  refine ⟨rfl, ?_⟩
  have hword : start.wordAt offset = .ok value := by
    cases hfound : start.wordAt (α := α) offset <;> rw [hfound] at hvalue <;> cases hvalue
    rfl
  have hprefix := Cursor.isPrefix_of_wordAt hword
  rwa [hoffset, ← List.drop_drop, ← start.rest_eq] at hprefix

/-- Operands of a length at a place: whatever bytes of this length stand at the cursor are
well-formed. -/
def Suits (pc : Nat) (opcode : Opcode) (start : Cursor) (length : Nat) : Prop :=
  ∀ operands, operands <+: start.rest → operands.length = length → WellFormed ⟨pc, opcode, operands⟩

/-- The length that is found for a table suits the operands that stand there. -/
lemma ensures_tableLength (hpc : start.offset = pc + 1) :
    Ensures (tableLength pc) start fun length c =>
      c = start ∧ Suits pc .tableswitch start length := by
  unfold tableLength
  refine (ensures_wordAt (switchPadding pc + 4) (by omega)).bind ?_
  rintro low start _ ⟨rfl, hlow⟩
  refine (ensures_wordAt (switchPadding pc + 8) (by omega)).bind ?_
  rintro high start _ ⟨rfl, hhigh⟩
  split
  · exact ensures_fail _
  · next hrange =>
    refine ensures_pure ⟨rfl, fun operands hoperands hlength => ?_⟩
    have hsize : Word.size Int32 = 4 := rfl
    obtain ⟨default, hdefault⟩ : ∃ default : Int32, operands.drop (switchPadding pc) = _ :=
      exists_drop_eq_toBytes_append (by omega)
    have hlow := drop_eq_toBytes_append hlow hoperands (by omega)
    have hhigh := drop_eq_toBytes_append hhigh hoperands (by omega)
    have hsplit : operands = operands.take (switchPadding pc) ++ Word.toBytes default ++
        Word.toBytes low ++ Word.toBytes high ++ operands.drop (switchPadding pc + 12) := by
      conv_lhs => rw [← List.take_append_drop (switchPadding pc) operands, hdefault]
      simp only [hsize, Nat.add_assoc, hlow, hhigh, List.append_assoc]
    rw [hsplit]
    refine .tableswitch default ?_ (by omega) ?_
    · rw [List.length_take]
      omega
    · rw [List.length_drop]
      omega

/-- The length that is found for a list of pairs suits the operands that stand there. -/
lemma ensures_lookupLength (hpc : start.offset = pc + 1) :
    Ensures (lookupLength pc) start fun length c =>
      c = start ∧ Suits pc .lookupswitch start length := by
  unfold lookupLength
  refine (ensures_wordAt (switchPadding pc + 4) (by omega)).bind ?_
  rintro count start _ ⟨rfl, hcount⟩
  split
  · exact ensures_fail _
  · next hnegative =>
    refine ensures_pure ⟨rfl, fun operands hoperands hlength => ?_⟩
    have hsize : Word.size Int32 = 4 := rfl
    obtain ⟨default, hdefault⟩ : ∃ default : Int32, operands.drop (switchPadding pc) = _ :=
      exists_drop_eq_toBytes_append (by omega)
    have hcount := drop_eq_toBytes_append hcount hoperands (by omega)
    have hsplit : operands = operands.take (switchPadding pc) ++ Word.toBytes default ++
        Word.toBytes count ++ operands.drop (switchPadding pc + 8) := by
      conv_lhs => rw [← List.take_append_drop (switchPadding pc) operands, hdefault]
      simp only [hsize, Nat.add_assoc, hcount, List.append_assoc]
    rw [hsplit]
    refine .lookupswitch default ?_ (by omega) ?_
    · rw [List.length_take]
      omega
    · rw [List.length_drop]
      omega

/-- Only loads, stores and returns from subroutines have a wide form of three bytes, and only the
increment has one of five. -/
lemma wideLength?_eq_some {modified : UInt8} {length : Nat}
    (h : wideLength? modified = some length) :
    modified ∈ widened ∧ length = 3 ∨ modified = increment ∧ length = 5 := by
  unfold wideLength? at h
  dsimp only at h
  split at h
  · next hrange =>
    refine .inl ⟨?_, (Option.some.inj h).symm⟩
    simp only [widened, List.mem_cons, List.not_mem_nil, ← UInt8.toNat_inj]
    simp
    omega
  · split at h
    · next heq => exact .inr ⟨UInt8.toNat_inj.mp heq, (Option.some.inj h).symm⟩
    · cases h

/-- The length that is found for a widened instruction suits the operands that stand there. -/
lemma ensures_wideLength (hpc : start.offset = pc + 1) :
    Ensures (wideLength pc) start fun length c => c = start ∧ Suits pc .wide start length := by
  unfold wideLength
  refine (ensures_wordAt 0 (by omega)).bind ?_
  rintro modified start _ ⟨rfl, hmodified⟩
  split
  · next length hfound =>
    refine ensures_pure ⟨rfl, fun operands hoperands hlength => ?_⟩
    have hbyte : Word.size UInt8 = 1 := rfl
    have hsize : Word.size UInt16 = 2 := rfl
    have hsize' : Word.size Int16 = 2 := rfl
    have hlarge : 3 ≤ operands.length := by
      rcases wideLength?_eq_some hfound with ⟨_, hlength⟩ | ⟨_, hlength⟩ <;> omega
    have hmodified := drop_eq_toBytes_append hmodified hoperands (by omega)
    obtain ⟨number, hnumber⟩ : ∃ number : UInt16, operands.drop 1 = _ :=
      exists_drop_eq_toBytes_append (by omega)
    rw [List.drop_zero, Word.toBytes_byte, hbyte, Nat.zero_add, hnumber, hsize] at hmodified
    rcases wideLength?_eq_some hfound with ⟨hmem, hthree⟩ | ⟨rfl, hfive⟩
    · have hrest : operands.drop (1 + 2) = [] := List.drop_eq_nil_of_le (by omega)
      rw [hmodified, hrest, List.append_nil]
      exact .wide hmem number
    · obtain ⟨amount, hamount⟩ : ∃ amount : Int16, operands.drop (1 + 2) = _ :=
        exists_drop_eq_toBytes_append (by omega)
      have hrest : operands.drop (1 + 2 + Word.size Int16) = [] := List.drop_eq_nil_of_le (by omega)
      rw [hmodified, hamount, hrest, List.append_nil]
      exact .wideIncrement number amount
  · exact ensures_fail _

/-- An opcode asks for operands of a length that makes them well-formed. -/
lemma ensures_operandLength (opcode : Opcode) (hpc : start.offset = pc + 1) :
    Ensures (operandLength pc opcode) start fun length c =>
      c = start ∧ Suits pc opcode start length := by
  unfold operandLength
  split
  · next count hfixed =>
    refine ensures_pure ⟨rfl, fun operands _ hlength => .fixed ?_⟩
    rw [hfixed, hlength]
  · next hdependent =>
    rcases Opcode.eq_of_dependent hdependent with rfl | rfl | rfl
    · exact ensures_tableLength hpc
    · exact ensures_lookupLength hpc
    · exact ensures_wideLength hpc

end Operands

/-! ## Instructions that were read -/

/-- An instruction that was read is well-formed at its place, and its bytes are the ones that were
passed. -/
theorem ensures_reader (start : Cursor) :
    Ensures Instruction.reader start fun instruction c =>
      instruction.pc = start.offset ∧ instruction.WellFormed ∧
      start.Passes instruction.bytes c := by
  unfold Instruction.reader
  refine ensures_here.bind ?_
  rintro _ start _ ⟨rfl, rfl⟩
  refine ensures_word.bind fun byte c _ hbyte => ?_
  have hpc : c.offset = start.offset + 1 := hbyte.offset_eq
  rw [Word.toBytes_byte] at hbyte
  split
  · next opcode hopcode =>
    refine (ensures_operandLength opcode hpc).bind ?_
    rintro length d _ ⟨rfl, hsuits⟩
    refine (ensures_take length).bind ?_
    rintro operands d _ ⟨hlength, hoperands⟩
    refine (ensures_note _).bind ?_
    rintro _ _ _ rfl
    refine ensures_pure ⟨rfl, hsuits operands ⟨_, hoperands.rest_eq.symm⟩ hlength, ?_⟩
    rw [← Opcode.byte_of_ofByte? hopcode] at hbyte
    exact hbyte.trans hoperands
  · exact ensures_fail _

/-- The instructions of a window are well-formed, stand one behind the other, and fill it.

**Proof sketch.** Each instruction begins at the cursor and passes its own bytes, so the next one
begins at the place behind them; at the end no bytes are left. -/
theorem ensures_allReader (start : Cursor) :
    Ensures allReader start fun instructions _ =>
      LaidOut start.offset instructions ∧ start.rest = instructions.flatMap Instruction.bytes := by
  refine Ensures.untilEmpty _ (R := fun c instructions =>
    LaidOut c.offset instructions ∧ c.rest = instructions.flatMap Instruction.bytes) ?_ ?_ start
  · intro c hempty
    exact ⟨trivial, List.isEmpty_iff.mp hempty⟩
  · intro c
    refine ensures_located ((ensures_reader c).imp ?_)
    rintro instruction d _ ⟨hpc, hwellFormed, hpasses⟩ instructions ⟨hlaidOut, hrest⟩
    have hoffset : d.offset = c.offset + instruction.length := by
      rw [hpasses.offset_eq]
      exact congrArg (c.offset + ·) (Nat.add_comm _ 1)
    rw [hoffset] at hlaidOut
    refine ⟨⟨hpc, hwellFormed, hlaidOut⟩, ?_⟩
    rw [hpasses.rest_eq, hrest, List.flatMap_cons]

/-! ## Code that is spelled -/

/-- The sum of the lengths of instructions. -/
def totalLength : List Instruction → Nat
  | [] => 0
  | instruction :: rest => instruction.length + totalLength rest

/-- Each instruction begins where the ones before it end, and the first one at zero. -/
def Contiguous (instructions : List Instruction) : Prop :=
  ∀ before instruction after, instructions = before ++ instruction :: after →
    instruction.pc = totalLength before

/-- Instructions are laid out from a place on if they are well-formed, and the ones before each of
them lead from there to its place. -/
lemma laidOut_iff {pc : Nat} {instructions : List Instruction} :
    LaidOut pc instructions ↔
      (∀ before instruction after, instructions = before ++ instruction :: after →
        instruction.pc = pc + totalLength before) ∧
      ∀ instruction ∈ instructions, instruction.WellFormed := by
  induction instructions generalizing pc with
  | nil => simp [LaidOut]
  | cons first rest ih =>
    rw [LaidOut, ih, List.forall_mem_cons]
    constructor
    · rintro ⟨hpc, hfirst, hplaces, hrest⟩
      refine ⟨fun before instruction after heq => ?_, hfirst, hrest⟩
      cases before with
      | nil =>
        cases heq
        simpa [totalLength] using hpc
      | cons other before =>
        cases heq
        rw [hplaces before instruction after rfl, totalLength]
        omega
    · rintro ⟨hplaces, hfirst, hrest⟩
      refine ⟨by simpa [totalLength] using hplaces [] first rest rfl, hfirst, ?_, hrest⟩
      rintro before instruction after rfl
      rw [hplaces (first :: before) instruction after rfl, totalLength]
      omega

/-- Well-formed instructions whose bytes, one behind the other, are the code. -/
structure Spells (instructions : List Instruction) (code : Bytes) : Prop where
  contiguous : Contiguous instructions
  wellFormed : ∀ instruction ∈ instructions, instruction.WellFormed
  bytes : instructions.flatMap Instruction.bytes = code

/-- Instructions spell a code array exactly if they lie end to end from its beginning and their
bytes make it up. -/
lemma spells_iff {instructions : List Instruction} {code : Bytes} :
    Spells instructions code ↔
      LaidOut 0 instructions ∧ code = instructions.flatMap Instruction.bytes := by
  rw [laidOut_iff]
  simp only [Nat.zero_add]
  exact ⟨fun h => ⟨⟨h.contiguous, h.wellFormed⟩, h.bytes.symm⟩, fun h => ⟨h.1.1, h.1.2, h.2.symm⟩⟩

/-- The bytes of instructions are as many as their lengths add up to. -/
lemma length_flatMap_bytes (instructions : List Instruction) :
    (instructions.flatMap Instruction.bytes).length = totalLength instructions := by
  induction instructions with
  | nil => rfl
  | cons instruction rest ih =>
    have hlength : instruction.bytes.length = instruction.length := Nat.add_comm _ _
    rw [List.flatMap_cons, List.length_append, hlength, ih, totalLength]

/-- **Code is read exactly as the instructions that spell it**, and refused if none do. -/
theorem allReader_eq_ok_iff (code : Bytes) :
    (∀ instructions, (allReader (.ofBytes code)).result = .ok instructions ↔
      Spells instructions code) ∧
    ((∃ fault, (allReader (.ofBytes code)).result = .error fault) ↔
      ∀ instructions, ¬Spells instructions code) := by
  have hok : ∀ instructions,
      (allReader (.ofBytes code)).result = .ok instructions ↔ Spells instructions code := by
    intro instructions
    rw [spells_iff]
    constructor
    · exact ensures_allReader (.ofBytes code) instructions
    · rintro ⟨hlaidOut, hcode⟩
      exact result_allReader hlaidOut hcode
  refine ⟨hok, ?_⟩
  simp only [← hok]
  cases (allReader (.ofBytes code)).result <;> simp

end Instruction

end ClassFormat
