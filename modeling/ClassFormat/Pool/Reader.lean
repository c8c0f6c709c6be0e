import ClassFormat.Pool.Basic
import ClassFormat.Record

/-!
# Reading the constant pool

## Main definitions

* `ClassFormat.Constant.reader` — a constant: its tag, then its content in a window of its own.
* `ClassFormat.Pool.reader` — the pool: the number of slots plus one, then the slots.

## Design

The slot behind a wide constant is filled without reading anything. A wide constant in the last slot
has no second half, which shows when all slots are filled.
-/

namespace ClassFormat

open Decoder hiding word split
open Record

namespace Constant

/-- The text that fills the window from the cursor on. -/
def textReader : Decoder Fault String :=
  fun start =>
    match Modified.decode start.position start.rest with
    | .ok reading => Outcome.pure reading.text
    | .error fault => Outcome.fail (.invalidText fault)

/-- The content of a constant of a given kind, for the slot `index`. -/
def contentReader (index : Index) : Kind → Decoder Fault Constant
  | .utf8 => return .utf8 (← textReader)
  | .integer => return .integer (← word)
  | .float => return .float (← word)
  | .long => return .long (← word)
  | .double => return .double (← word)
  | .label kind => return .label kind (← word)
  | .member kind => return .member kind (← word) (← word)
  | .nameAndType => return .nameAndType (← word) (← word)
  | .methodHandle => do
    let code : UInt8 ← word
    match HandleKind.ofCode? code with
    | some kind => return .methodHandle kind (← word)
    | none => fail (.malformedPool (.unknownHandleKind index code))
  | .dynamic kind => return .dynamic kind (← word) (← word)

/-- The length of a constant's content; a text begins with it. -/
def lengthReader (kind : Kind) : Decoder Fault Nat :=
  match kind.contentLength? with
  | some length => return length
  | none => do
    let length : UInt16 ← word
    return length.toNat

/-- A constant for the slot `index`. -/
def reader (index : Index) : Decoder Fault Constant := do
  let tag : UInt8 ← word
  match Kind.ofTag? tag with
  | some kind =>
    let window ← split (← lengthReader kind)
    let (constant, _) ← inside window (contentReader index kind)
    return constant
  | none => fail (.malformedPool (.unknownTag index tag))

end Constant

namespace Pool

/-- Whether the last slot holds a constant that takes the next slot too. -/
def endsWide (slots : Array Slot) : Bool :=
  slots.back?.any Slot.isWide

/-- The slot behind those filled so far. -/
def slotReader (slots : Array Slot) : Decoder Fault Slot :=
  if endsWide slots then
    return .upperHalf
  else do
    let index := UInt16.ofNat (slots.size + 1)
    let constant ← located (Constant.reader index)
    note (.constant index constant.kind)
    return .entry constant

/-- A constant pool. -/
def reader : Decoder Fault Pool := do
  let start ← position
  let declared : UInt16 ← word
  if declared = 0 then
    fail (.malformedPool .zeroSize)
  else
    let count := declared.toNat - 1
    let slots ← grow count slotReader
    if endsWide slots then
      fail (.malformedPool (.outOfRange declared count))
    else
      let byteLength := (← position) - start
      note (.pool count byteLength)
      return { slots, byteLength }

end Pool

end ClassFormat
