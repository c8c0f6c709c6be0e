import ClassFormat.Instruction.Reader
import ClassFormat.Proofs.Decoder.Reading
import Mathlib.Data.List.Infix

/-!
# The layout of code

An instruction has as many operand bytes as its opcode asks for. Most opcodes have a fixed count;
the two switches are aligned to their place and hold a table, and `wide` holds the opcode that it
modifies with its longer operands. Instructions that keep to this, one behind the other, are read
back from their bytes.

## Main definitions

* `ClassFormat.Instruction.WellFormed` — the operands are what the opcode asks for at its place.
* `ClassFormat.Instruction.LaidOut` — well-formed instructions one behind the other.

## Main results

* `ClassFormat.Instruction.reads_reader` — an instruction is read back from its bytes.
* `ClassFormat.Instruction.result_allReader` — so are all instructions that fill a window.
-/

namespace ClassFormat.Instruction

open Decoder hiding word split
open Record

/-- The opcodes with a local variable that `wide` can modify: the loads, the stores, and the return
from a subroutine. -/
def widened : List UInt8 :=
  [0x15, 0x16, 0x17, 0x18, 0x19, 0x36, 0x37, 0x38, 0x39, 0x3A, 0xA9]

/-- The increment of a local variable, which `wide` can modify too. -/
def increment : UInt8 :=
  0x84

/-- The operands are what the opcode asks for at its place. -/
inductive WellFormed : Instruction → Prop
  | fixed {pc : Nat} {opcode : Opcode} {operands : Bytes}
    (hlength : opcode.operandLength = .fixed operands.length) : WellFormed ⟨pc, opcode, operands⟩
  /-- Padding, the default target, the range of keys, and a target for each of them. -/
  | tableswitch {pc : Nat} {padding targets : Bytes} (default : Int32) {low high : Int32}
    (hpadding : padding.length = switchPadding pc) (hrange : low.toInt ≤ high.toInt)
    (htargets : targets.length = 4 * (high.toInt - low.toInt + 1).toNat) :
    WellFormed ⟨pc, .tableswitch, padding ++ Word.toBytes default ++ Word.toBytes low ++
      Word.toBytes high ++ targets⟩
  /-- Padding, the default target, the count of keys, and a key and a target for each. -/
  | lookupswitch {pc : Nat} {padding pairs : Bytes} (default : Int32) {count : Int32}
    (hpadding : padding.length = switchPadding pc) (hcount : 0 ≤ count.toInt)
    (hpairs : pairs.length = 8 * count.toInt.toNat) :
    WellFormed ⟨pc, .lookupswitch, padding ++ Word.toBytes default ++ Word.toBytes count ++ pairs⟩
  /-- The modified opcode and the number of a local variable. -/
  | wide {pc : Nat} {modified : UInt8} (hmodified : modified ∈ widened) (number : UInt16) :
    WellFormed ⟨pc, .wide, modified :: Word.toBytes number⟩
  /-- The modified opcode, the number of a local variable, and the amount. -/
  | wideIncrement {pc : Nat} (number : UInt16) (amount : Int16) :
    WellFormed ⟨pc, .wide, increment :: Word.toBytes number ++ Word.toBytes amount⟩

/-- Well-formed instructions one behind the other, from a place on. -/
def LaidOut : Nat → List Instruction → Prop
  | _, [] => True
  | pc, instruction :: rest =>
    instruction.pc = pc ∧ instruction.WellFormed ∧ LaidOut (pc + instruction.length) rest

/-! ## Looking ahead -/

section Ahead

variable {α : Type} {start : Cursor}

/-- Looking at a word ahead does not move the cursor. -/
lemma cursor_wordAt [Word α] (offset : Nat) : (wordAt (α := α) offset start).cursor = start :=
  cursor_given _ _

/-- A word that stands ahead of the cursor, behind `front`, is found without moving. -/
lemma reads_wordAt [Word α] {offset : Nat} {value : α} (front : Bytes)
    (hoffset : offset = start.offset + front.length)
    (h : front ++ Word.toBytes value <+: start.rest) : Reads (wordAt offset) start [] value := by
  have hvalue : Word.toBytes value <+: start.window.drop offset := by
    have hdrop := h.drop front.length
    rwa [List.drop_left, start.rest_eq, List.drop_drop, ← hoffset] at hdrop
  have hword : start.wordAt offset = .ok value := by
    have htake := List.prefix_iff_eq_take.mp hvalue
    rw [Word.length_toBytes] at htake
    unfold Cursor.wordAt Cursor.bytesAt
    dsimp only
    rw [Cursor.bytesFrom_eq_drop, ← htake, if_pos (Word.length_toBytes value)]
    exact congrArg Except.ok (Word.ofBytes_toBytes value)
  refine Reads.bind_of_nil (fun _ => ⟨rfl, rfl⟩) (reads_given ?_)
  rw [hword]
  rfl

end Ahead

section Operands

variable {start : Cursor} {pc : Nat}

/-- The first and the last key of a switch are found ahead of the cursor. -/
lemma reads_range {padding : Bytes} {default low high : Int32} (hpc : start.offset = pc + 1)
    (hpadding : padding.length = switchPadding pc)
    (hoperands : padding ++ Word.toBytes default ++ Word.toBytes low ++
      Word.toBytes high <+: start.rest) :
    Reads (wordAt (pc + 1 + switchPadding pc + 4)) start [] low ∧
      Reads (wordAt (pc + 1 + switchPadding pc + 8)) start [] high := by
  have hdefault : (Word.toBytes default).length = 4 := Word.length_toBytes default
  have hfirst : (Word.toBytes low).length = 4 := Word.length_toBytes low
  constructor
  · refine reads_wordAt (padding ++ Word.toBytes default) ?_
      ((List.prefix_append _ _).trans hoperands)
    rw [List.length_append]
    omega
  · refine reads_wordAt (padding ++ Word.toBytes default ++ Word.toBytes low) ?_ hoperands
    rw [List.length_append, List.length_append]
    omega

/-- The length of a table is found from the two ends of its keys. -/
lemma reads_tableLength {padding targets : Bytes} {default low high : Int32}
    (hpc : start.offset = pc + 1) (hpadding : padding.length = switchPadding pc)
    (hrange : low.toInt ≤ high.toInt)
    (htargets : targets.length = 4 * (high.toInt - low.toInt + 1).toNat)
    (hoperands : padding ++ Word.toBytes default ++ Word.toBytes low ++ Word.toBytes high ++
      targets <+:
      start.rest) :
    Reads (tableLength pc) start []
      (padding ++ Word.toBytes default ++ Word.toBytes low ++ Word.toBytes high ++
        targets).length := by
  have hdefault : (Word.toBytes default).length = 4 := Word.length_toBytes default
  have hfirst : (Word.toBytes low).length = 4 := Word.length_toBytes low
  have hlast : (Word.toBytes high).length = 4 := Word.length_toBytes high
  obtain ⟨hlow, hhigh⟩ := reads_range hpc hpadding ((List.prefix_append _ targets).trans hoperands)
  unfold tableLength
  refine hlow.bind_of_nil ?_
  rw [cursor_wordAt]
  refine hhigh.bind_of_nil ?_
  rw [if_neg (Int.not_lt.mpr hrange)]
  have hlength :
      (padding ++ Word.toBytes default ++ Word.toBytes low ++ Word.toBytes high ++ targets).length
      = 4 * (high.toInt - low.toInt + 1).toNat + switchPadding pc + 12 := by
    simp only [List.length_append, hdefault, hfirst, hlast, hpadding, htargets]
    omega
  rw [hlength]
  exact reads_pure _

/-- The length of a list of pairs is found from their number. -/
lemma reads_lookupLength {padding pairs : Bytes} {default count : Int32}
    (hpc : start.offset = pc + 1) (hpadding : padding.length = switchPadding pc)
    (hcount : 0 ≤ count.toInt) (hpairs : pairs.length = 8 * count.toInt.toNat)
    (hoperands : padding ++ Word.toBytes default ++ Word.toBytes count ++ pairs <+: start.rest) :
    Reads (lookupLength pc) start []
      (padding ++ Word.toBytes default ++ Word.toBytes count ++ pairs).length := by
  have hdefault : (Word.toBytes default).length = 4 := Word.length_toBytes default
  have hkeys : (Word.toBytes count).length = 4 := Word.length_toBytes count
  have hword : Reads (wordAt (pc + 1 + switchPadding pc + 4)) start [] count := by
    refine reads_wordAt (padding ++ Word.toBytes default) ?_
      ((List.prefix_append _ _).trans hoperands)
    rw [List.length_append]
    omega
  unfold lookupLength
  refine hword.bind_of_nil ?_
  rw [if_neg (Int.not_lt.mpr hcount)]
  have hlength : (padding ++ Word.toBytes default ++ Word.toBytes count ++ pairs).length =
      8 * count.toInt.toNat + switchPadding pc + 8 := by
    simp only [List.length_append, hdefault, hkeys, hpadding, hpairs]
    omega
  rw [hlength]
  exact reads_pure _

/-- The length of a widened instruction is found from the opcode that it widens. -/
lemma reads_wideLength {modified : UInt8} {operands : Bytes} {length : Nat}
    (hpc : start.offset = pc + 1) (hlength : wideLength? modified = some length)
    (hoperands : modified :: operands <+: start.rest) : Reads (wideLength pc) start [] length := by
  have hword : Reads (wordAt (pc + 1)) start [] modified := by
    refine reads_wordAt [] hpc.symm ?_
    rw [Word.toBytes_byte]
    exact (List.prefix_append [modified] operands).trans hoperands
  unfold wideLength
  refine hword.bind_of_nil ?_
  rw [hlength]
  exact reads_pure _

/-- Loads, stores and returns from subroutines have a wide form with the number of a variable. -/
lemma wideLength?_of_mem_widened : ∀ modified ∈ widened, wideLength? modified = some 3 := by
  decide +kernel

/-- The operands that stand at the cursor tell their own length. -/
lemma reads_operandLength {instruction : Instruction} (h : instruction.WellFormed)
    (hpc : start.offset = instruction.pc + 1) (hoperands : instruction.operands <+: start.rest) :
    Reads (operandLength instruction.pc instruction.opcode) start []
      instruction.operands.length := by
  unfold operandLength
  cases h with
  | fixed hlength =>
    dsimp only at hlength ⊢
    rw [hlength]
    exact reads_pure _
  | tableswitch default hpadding hrange htargets =>
    exact reads_tableLength hpc hpadding hrange htargets hoperands
  | lookupswitch default hpadding hcount hpairs =>
    exact reads_lookupLength hpc hpadding hcount hpairs hoperands
  | wide hmodified number =>
    exact reads_wideLength hpc (wideLength?_of_mem_widened _ hmodified) hoperands
  | wideIncrement number amount =>
    exact reads_wideLength hpc rfl hoperands

end Operands

/-! ## Instructions -/

variable {start : Cursor}

/-- An instruction is read back from its bytes, at its place. -/
theorem reads_reader {instruction : Instruction} (h : instruction.WellFormed)
    (hpc : start.offset = instruction.pc) :
    Reads Instruction.reader start instruction.bytes instruction := by
  intro hbytes
  have hopcode : Reads word start [instruction.opcode.byte] instruction.opcode.byte := reads_byte _
  have hbyte : [instruction.opcode.byte] <+: start.rest :=
    (List.prefix_append [_] instruction.operands).trans hbytes
  have hoperands : instruction.operands <+: (word (α := UInt8) start).cursor.rest := by
    rw [hopcode.rest_eq hbyte]
    exact hbytes.drop 1
  have hoffset : (word (α := UInt8) start).cursor.offset = instruction.pc + 1 := by
    rw [(hopcode hbyte).2, hpc]
    rfl
  revert hbytes
  unfold Instruction.reader
  refine Reads.bind_of_nil (fun _ => ⟨rfl, rfl⟩) (hopcode.bind ?_)
  rw [Opcode.ofByte?_byte, hpc]
  refine Reads.bind_of_nil (reads_operandLength h hoffset hoperands) ?_
  have htake : Reads (read (take instruction.operands.length))
      (operandLength instruction.pc instruction.opcode (word (α := UInt8) start).cursor).cursor
      instruction.operands instruction.operands := reads_read (reads_take rfl)
  refine (htake.bind ?_).of_eq (List.append_nil _)
  exact (reads_note _).bind_of_nil (reads_pure _)

/-- Instructions that fill a window are read back from their bytes.

**Proof sketch.** Induction on the instructions. The window is empty behind the last one, and each
one leaves the cursor at the place of the next. -/
theorem result_allReader {instructions : List Instruction} (h : LaidOut start.offset instructions)
    (hrest : start.rest = instructions.flatMap Instruction.bytes) :
    (allReader start).result = .ok instructions := by
  unfold allReader
  have hhere : (here start : Outcome Fault Cursor start).result = .ok start := rfl
  induction instructions generalizing start with
  | nil =>
    have hempty : start.isEmpty := by
      rw [Cursor.isEmpty, hrest]
      rfl
    rw [untilEmpty_eq, result_bind_of_ok hhere, if_pos hempty]
    rfl
  | cons instruction instructions ih =>
    obtain ⟨hpc, hwellFormed, hlaidOut⟩ := h
    rw [List.flatMap_cons] at hrest
    have hempty : ¬start.isEmpty := by
      rw [Cursor.isEmpty, hrest]
      exact Bool.false_ne_true
    have hreads := reads_located (reads_reader hwellFormed hpc.symm)
    have hbytes : instruction.bytes <+: start.rest := ⟨_, hrest.symm⟩
    obtain ⟨hresult, hoffset⟩ := hreads hbytes
    have hlength : instruction.bytes.length = instruction.length := Nat.add_comm _ _
    have hothers := ih (hoffset ▸ hlength ▸ hlaidOut)
      (by rw [hreads.rest_eq hbytes, hrest, List.drop_left]) rfl
    rw [untilEmpty_eq, result_bind_of_ok hhere, if_neg hempty]
    -- `here` has not moved, so the first instruction is read from `start`
    show ((located Instruction.reader >>= _) start).result = _
    rw [result_bind_of_ok hresult, bind_pure_apply]
    show Except.map _ _ = _
    rw [hothers]
    rfl

end ClassFormat.Instruction
