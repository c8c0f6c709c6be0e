import ClassFormat.Instruction.Basic
import ClassFormat.Record

/-!
# Reading instructions

The opcode decides how many operand bytes follow, except for the switches and for `wide`, whose
operands are looked at first without moving on.

## Main definitions

* `ClassFormat.Instruction.reader` — one instruction.
* `ClassFormat.Instruction.allReader` — the instructions that fill a window.

## Main results

* `ClassFormat.Instruction.advances_reader` — an instruction takes at least one byte.
-/

namespace ClassFormat.Instruction

open Decoder hiding word split
open Record

/-- A word at an offset of the window, wherever the cursor stands. -/
def wordAt {α : Type} [Word α] (offset : Nat) : Decoder Fault α := do
  let cursor ← here
  given ((cursor.wordAt offset).mapError .truncated)

/-- How many operand bytes a switch of consecutive keys at `pc` has. -/
def tableLength (pc : Nat) : Decoder Fault Nat := do
  let aligned := pc + 1 + switchPadding pc
  let low : Int32 ← wordAt (aligned + 4)
  let high : Int32 ← wordAt (aligned + 8)
  if high.toInt < low.toInt then
    fail (.malformedSwitch pc)
  else
    return 4 * (high.toInt - low.toInt + 1).toNat + switchPadding pc + 12

/-- How many operand bytes a switch by search at `pc` has. -/
def lookupLength (pc : Nat) : Decoder Fault Nat := do
  let aligned := pc + 1 + switchPadding pc
  let count : Int32 ← wordAt (aligned + 4)
  if count.toInt < 0 then
    fail (.malformedSwitch pc)
  else
    return 8 * count.toInt.toNat + switchPadding pc + 8

/-- How many operand bytes `wide` has before the opcode that it modifies: three for a load, a store
or a return from a subroutine, five for an increment. -/
def wideLength? (modified : UInt8) : Option Nat :=
  let number := modified.toNat
  if 0x15 ≤ number ∧ number ≤ 0x19 ∨ 0x36 ≤ number ∧ number ≤ 0x3A ∨ number = 0xA9 then some 3
  else if number = 0x84 then some 5
  else none

/-- How many operand bytes `wide` at `pc` has. -/
def wideLength (pc : Nat) : Decoder Fault Nat := do
  let modified : UInt8 ← wordAt (pc + 1)
  match wideLength? modified with
  | some length => return length
  | none => fail (.unsupportedOpcode (pc + 1) modified)

/-- How many operand bytes an opcode at `pc` has. -/
def operandLength (pc : Nat) (opcode : Opcode) : Decoder Fault Nat :=
  match opcode.operandLength with
  | .fixed count => return count
  | .dependent =>
    if opcode = .tableswitch then tableLength pc
    else if opcode = .lookupswitch then lookupLength pc
    else wideLength pc

/-- One instruction. Its place is the offset in the window. -/
def reader : Decoder Fault Instruction := do
  let pc := (← here).offset
  let byte : UInt8 ← word
  match Opcode.ofByte? byte with
  | some opcode =>
    let length ← operandLength pc opcode
    let operands ← read (take length)
    note (.instruction pc opcode length)
    return { pc, opcode, operands }
  | none => fail (.unsupportedOpcode pc byte)

/-- An instruction takes at least the byte of its opcode. -/
theorem advances_reader : reader.Advances :=
  advances_bind_of_next fun _ => (advances_word (by decide)).bind

/-- The instructions that fill a window. -/
def allReader : Decoder Fault (List Instruction) :=
  untilEmpty (located reader) (advances_located advances_reader)

end ClassFormat.Instruction
