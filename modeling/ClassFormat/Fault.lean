import ClassFormat.Access
import ClassFormat.Bytes.Cursor
import ClassFormat.Bytes.Hex
import ClassFormat.Pool.Constant
import ClassFormat.Text.Quoted

/-!
# Faults

What can be wrong with a class file. A fault names its cause; some causes know the absolute position
they are about, the others are pinned to the first byte of the record in which they were found.

## Main definitions

* `ClassFormat.PoolFault` — a constant pool whose structure is broken.
* `ClassFormat.Expectation`, `ClassFormat.Finding` — what a reference to the pool should find, and
  what it finds.
* `ClassFormat.Fault` — everything that can be wrong with a record.
* `ClassFormat.Fault.location?`, `ClassFormat.Fault.pinnedAt`, `ClassFormat.Fault.unpinned` — the
  position a fault knows, and how it gets and loses the position of a record.
* `ClassFormat.Fault.message` — the text of a fault.
-/

namespace ClassFormat

/-- The ways in which the structure of a constant pool can be broken. -/
inductive PoolFault where
  /-- The pool declares no slots, not even the one that is never used. -/
  | zeroSize
  | unknownTag (index : Index) (tag : UInt8)
  | unknownHandleKind (index : Index) (code : UInt8)
  /-- The index zero, which names no slot. -/
  | nullIndex
  /-- An index behind the last of `count` slots. -/
  | outOfRange (index : Index) (count : Nat)
  /-- The second slot of a constant that takes two. -/
  | upperHalf (index : Index)
  deriving DecidableEq, Repr

/-- What a reference to the pool is expected to find. -/
inductive Expectation where
  | ofKind (kind : Kind)
  /-- A field, method or interface method. -/
  | memberReference
  /-- Anything else, in the words of whoever follows the reference. -/
  | described (text : String)
  deriving DecidableEq, Repr

/-- What a reference to the pool finds. -/
inductive Finding where
  /-- The index names no slot. -/
  | nothing
  | ofKind (kind : Kind)
  /-- Anything else, in the words of whoever follows the reference. -/
  | described (text : String)
  deriving DecidableEq, Repr

/-- Everything that can be wrong with a record of a class file. -/
inductive Fault where
  /-- A read failed. -/
  | truncated (cause : ReadFault)
  | badMagic (magic : UInt32)
  | unsupportedVersion (major minor : UInt16)
  | malformedPool (cause : PoolFault)
  /-- A reference found a constant of another kind than expected, or nothing. -/
  | badReference (index : Index) (expected : Expectation) (found : Finding)
  | invalidDescriptor (text : String)
  /-- A byte that begins no instruction, by its offset in the code. -/
  | unsupportedOpcode (offset : Nat) (byte : UInt8)
  /-- A switch whose table cannot be, by its offset in the code. -/
  | malformedSwitch (offset : Nat)
  /-- A handler that covers no instructions, or more than there are. -/
  | malformedRange (first last : Nat)
  | attributeTooLarge (length : UInt32)
  /-- A byte that has no place in modified UTF-8. -/
  | invalidText (cause : TextFault)
  | illegalAccess (target : AccessTarget) (flags : UInt16)
  /-- A fault in the record whose first byte has the absolute position `offset`. -/
  | located (offset : Nat) (inner : Fault)
  deriving DecidableEq, Repr

/-! ## Positions -/

namespace Fault

/-- The absolute position that a fault knows. -/
def location? : Fault → Option Nat
  | truncated cause => some cause.offset
  | invalidText cause => some cause.offset
  | located offset _ => some offset
  | _ => none

/-- Pins a fault to the record at `offset`, unless it knows a position already. -/
def pinnedAt (fault : Fault) (offset : Nat) : Fault :=
  if fault.location?.isSome then fault else located offset fault

/-- The fault without the position of its record. -/
def unpinned : Fault → Fault
  | located _ inner => inner
  | fault => fault

end Fault

/-! ## Messages -/

/-- The text of a failed read. -/
def ReadFault.message : ReadFault → String
  | outOfBounds offset wanted available =>
    "wanted " ++ toString wanted ++ " byte(s) at offset " ++ Hex.ofNat offset ++ ", but only " ++
      toString available ++ " remain"
  | mismatch offset => "unexpected byte at offset " ++ Hex.ofNat offset

/-- The text of a broken pool. -/
def PoolFault.message : PoolFault → String
  | zeroSize => "declared pool size is zero"
  | unknownTag index tag => "unknown tag " ++ toString tag.toNat ++ " at slot " ++ index.label
  | unknownHandleKind index code =>
    "unknown method handle kind " ++ toString code.toNat ++ " at slot " ++ index.label
  | nullIndex => "index #0 is never valid"
  | outOfRange index count =>
    "index " ++ index.label ++ " is past the end of a pool with " ++ toString count ++ " slots"
  | upperHalf index => "index " ++ index.label ++ " is the unusable upper half of a long or double"

/-- The name of an expectation. -/
def Expectation.name : Expectation → String
  | ofKind kind => kind.name
  | memberReference => "member reference"
  | described text => text

/-- The name of a finding. -/
def Finding.name : Finding → String
  | nothing => "nothing"
  | ofKind kind => kind.name
  | described text => text

namespace Fault

/-- The text of a fault. -/
def message : Fault → String
  | truncated cause => cause.message
  | badMagic magic => "bad magic number " ++ Hex.padded 8 magic.toNat
  | unsupportedVersion major minor =>
    "unsupported class file version " ++ toString major.toNat ++ "." ++ toString minor.toNat
  | malformedPool _ => "malformed constant pool"
  | badReference index expected found =>
    "constant pool entry " ++ index.label ++ " is " ++ found.name ++ ", expected " ++
      expected.name
  | invalidDescriptor text => "invalid descriptor " ++ Quoted.quote text
  | unsupportedOpcode offset byte =>
    "unsupported opcode " ++ Hex.padded 2 byte.toNat ++ " at code offset " ++ toString offset
  | malformedSwitch offset => "malformed switch table at code offset " ++ toString offset
  | malformedRange first last =>
    "malformed exception handler range [" ++ toString first ++ ", " ++ toString last ++ ")"
  | attributeTooLarge length =>
    "attribute length " ++ toString length.toNat ++ " does not fit in memory"
  | invalidText cause =>
    "invalid modified UTF-8 byte " ++ Hex.padded 2 cause.byte.toNat ++ " at offset " ++
      toString cause.offset
  | illegalAccess target flags =>
    "illegal " ++ target.name ++ " access flags " ++ Hex.padded 4 flags.toNat
  | located offset inner => inner.message ++ " in record at offset " ++ Hex.ofNat offset

/-- The texts of a fault and of what lies behind it, outermost first. -/
def chain : Fault → List String
  | fault@(malformedPool cause) => [fault.message, cause.message]
  | fault => [fault.message]

end Fault

/-- The fault of flags that no compiler produces. -/
def Access.validate (access : Access) : Except Fault Unit :=
  if access.isLegal then .ok () else .error (.illegalAccess access.target access.raw)

/-- Flags that are refused are named with what carries them. -/
theorem Access.eq_of_validate_error {access : Access} {fault : Fault}
    (h : access.validate = .error fault) : fault = .illegalAccess access.target access.raw := by
  unfold Access.validate at h
  split at h <;> cases h
  rfl

end ClassFormat
