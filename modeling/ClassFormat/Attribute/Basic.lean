import ClassFormat.Fault
import ClassFormat.Instruction.Basic

/-!
# Attributes

Classes, fields and methods carry attributes: named strings of bytes. The attribute named `Code`, in
whatever case, holds the body of a method, which carries attributes in its turn; all others are kept
as they are.

## Main definitions

* `ClassFormat.Handler` — a range of the code with what happens to exceptions thrown there.
* `ClassFormat.Attribute` — an attribute; `ClassFormat.Code` — the body of a method.
-/

namespace ClassFormat

/-! ## Exception handlers -/

/-- What happens to exceptions that are thrown in a range of the code. -/
structure Handler where
  /-- The first place that the handler covers. -/
  first : Nat
  /-- The place behind the last one that it covers. -/
  last : Nat
  /-- Where the handler begins. -/
  target : Nat
  /-- The internal name of the class of exceptions that it catches; without one, it catches all. -/
  catches : Option String
  deriving DecidableEq, Repr

namespace Handler

/-- A handler, unless its range is empty. -/
def ofRange (first last target : Nat) (catches : Option String) : Except Fault Handler :=
  if last ≤ first then .error (.malformedRange first last)
  else .ok { first, last, target, catches }

/-- A range that is refused is refused as malformed, with both of its ends. -/
theorem eq_of_ofRange_error {first last target : Nat} {catches : Option String} {fault : Fault}
    (h : ofRange first last target catches = .error fault) :
    fault = .malformedRange first last := by
  unfold ofRange at h
  split at h <;> cases h
  rfl

/-- Whether the handler covers a place in the code. -/
def covers (handler : Handler) (pc : Nat) : Bool :=
  handler.first ≤ pc && pc < handler.last

/-- What the handler catches, as listings write it. -/
def catchesText (handler : Handler) : String :=
  handler.catches.getD "any"

end Handler

/-! ## Code and attributes -/

/-- The body of a method, with attributes of type `α`. -/
structure CodeOf (α : Type) where
  /-- The greatest depth of the operand stack. -/
  maxStack : UInt16
  /-- How many slots the local variables take. -/
  maxLocals : UInt16
  /-- How many bytes the instructions take. -/
  codeLength : UInt32
  instructions : List Instruction
  handlers : List Handler
  attributes : List α

/-- An attribute. -/
inductive Attribute where
  /-- An attribute that is kept as it is. -/
  | raw (nameIndex : Index) (name : String) (data : Bytes)
  /-- The body of a method. -/
  | code (nameIndex : Index) (name : String) (body : CodeOf Attribute)

/-- The body of a method. -/
abbrev Code := CodeOf Attribute

namespace Attribute

/-- Whether an attribute of this name is the body of a method: upper and lower case are alike. -/
def isCodeName (name : String) : Bool :=
  name.toList.map Char.toLower = ['c', 'o', 'd', 'e']

/-- The index of an attribute's name. -/
def nameIndex : Attribute → Index
  | raw nameIndex _ _ => nameIndex
  | code nameIndex _ _ => nameIndex

/-- The name of an attribute. -/
def name : Attribute → String
  | raw _ name _ => name
  | code _ name _ => name

/-- The body of a method that an attribute holds. -/
def code? : Attribute → Option Code
  | raw .. => none
  | code _ _ body => some body

/-- The bytes of an attribute that is kept as it is. -/
def data? : Attribute → Option Bytes
  | raw _ _ data => some data
  | code .. => none

end Attribute

/-- The instruction that begins at a place in the code. -/
def CodeOf.instructionAt? {α : Type} (code : CodeOf α) (pc : Nat) : Option Instruction :=
  let instructions := code.instructions.toArray
  Instruction.bisect? instructions pc 0 instructions.size (Nat.le_refl _)

end ClassFormat
