import ClassFormat.Decoder

/-!
# Instructions

An instruction is an opcode and the bytes of its operands. The operands of the two switches are
aligned to four bytes, counted from the start of the code, and hold a table of jumps.

## Main definitions

* `ClassFormat.Instruction` — an instruction at its place in the code.
* `ClassFormat.Instruction.bytes` — the bytes of an instruction.
* `ClassFormat.SwitchTable` — the jumps of a switch.
* `ClassFormat.Instruction.switchTable?` — the operands of a switch as a table.
* `ClassFormat.Instruction.bisect?` — the instruction at a place, among instructions in order.
-/

namespace ClassFormat

/-- The jumps of a switch. Targets are relative to the instruction. -/
inductive SwitchTable where
  /-- The targets of the keys from `low` on, in order. -/
  | table (default low : Int32) (offsets : List Int32)
  /-- Pairs of a key and its target. -/
  | lookup (default : Int32) (pairs : List (Int32 × Int32))
  deriving DecidableEq, Repr

/-- An instruction. -/
structure Instruction where
  /-- The place of the opcode, from the start of the code. -/
  pc : Nat
  /-- The opcode. -/
  opcode : Opcode
  /-- Everything behind the opcode, with the padding of a switch. -/
  operands : Bytes
  deriving DecidableEq, Repr

namespace Instruction

/-- How many bytes an instruction takes. -/
def length (instruction : Instruction) : Nat :=
  1 + instruction.operands.length

/-- The bytes of an instruction. -/
def bytes (instruction : Instruction) : Bytes :=
  instruction.opcode.byte :: instruction.operands

/-- How many bytes stand between the opcode of a switch at `pc` and the next multiple of four. -/
def switchPadding (pc : Nat) : Nat :=
  (4 - (pc + 1) % 4) % 4

/-! ## Switches -/

open Decoder

/-- The count of keys from `low` to `high`, if it is not negative. -/
def keyCount? (low high : Int32) : Option Nat :=
  let count := high.toInt - low.toInt + 1
  if 0 ≤ count then some count.toNat else none

/-- Reads `count` items of `size` bytes, if as many are left. -/
def itemsReader {α : Type} (count? : Option Nat) (size : Nat) (item : Decoder ReadFault α) :
    Decoder Unit (List α) := do
  let rest ← here
  match count? with
  | some count =>
    if count ≤ rest.remaining / size then (seq count item).mapFault fun _ => () else fail ()
  | none => fail ()

/-- The table of a switch of consecutive keys, behind the default target. -/
def tableReader (default : Int32) : Decoder Unit SwitchTable := do
  let low : Int32 ← word.mapFault fun _ => ()
  let high : Int32 ← word.mapFault fun _ => ()
  return .table default low (← itemsReader (keyCount? low high) 4 word)

/-- The pairs of a switch by search, behind the default target. -/
def lookupReader (default : Int32) : Decoder Unit SwitchTable := do
  let count : Int32 ← word.mapFault fun _ => ()
  let pair : Decoder ReadFault (Int32 × Int32) := return (← word, ← word)
  return .lookup default
    (← itemsReader (if 0 ≤ count.toInt then some count.toInt.toNat else none) 8 pair)

/-- The operands of a switch at `pc`; anything else has no table. -/
def switchReader (pc : Nat) (opcode : Opcode) : Decoder Unit SwitchTable := do
  let _ ← (take (switchPadding pc)).mapFault fun _ => ()
  let default : Int32 ← word.mapFault fun _ => ()
  if opcode = .tableswitch then tableReader default
  else if opcode = .lookupswitch then lookupReader default
  else fail ()

/-- The operands of a switch as a table. Operands that are too short for what they announce have
none. -/
def switchTable? (instruction : Instruction) : Option SwitchTable :=
  (switchReader instruction.pc instruction.opcode (.ofBytes instruction.operands)).result.toOption

/-! ## Places -/

/-- The middle of a range of numbers. -/
def middle (first last : Nat) : Nat :=
  first + (last - first) / 2

/-- The middle of a range does not lie before its beginning. -/
theorem le_middle (first last : Nat) : first ≤ middle first last :=
  Nat.le_add_right _ _

/-- The middle of a range lies before its end. -/
theorem middle_lt {first last : Nat} (h : first < last) : middle first last < last := by
  unfold middle
  omega

/-- The upper half of a range is shorter than the range. -/
theorem sub_middle_lt {first last : Nat} (h : first < last) :
    last - (middle first last + 1) < last - first := by
  have := le_middle first last
  omega

/-- The lower half of a range is shorter than the range. -/
theorem middle_sub_lt {first last : Nat} (h : first < last) :
    middle first last - first < last - first := by
  have := middle_lt h
  omega

/-- The instruction at a place, sought among those with the numbers from `first` on and before
`last`. The instructions stand in the order of their places, so the middle one tells in which half
to go on. -/
def bisect? (instructions : Array Instruction) (pc first last : Nat)
    (hlast : last ≤ instructions.size) : Option Instruction :=
  if h : first < last then
    have hmiddle : middle first last < instructions.size := Nat.lt_of_lt_of_le (middle_lt h) hlast
    let candidate := instructions[middle first last]
    if candidate.pc = pc then some candidate
    else if candidate.pc < pc then bisect? instructions pc (middle first last + 1) last hlast
    else bisect? instructions pc first (middle first last) (Nat.le_of_lt hmiddle)
  else none
termination_by last - first
decreasing_by
  · exact sub_middle_lt h
  · exact middle_sub_lt h

end Instruction

end ClassFormat
