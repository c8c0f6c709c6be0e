import ClassFormat.Instruction.Opcode
import ClassFormat.Pool.Constant

/-!
# The journal of a decode

A decoder notes what it does as it goes along. The notes are data, kept in order; a command line
shows those that its level of detail asks for, also when the decode fails later.

## Main definitions

* `ClassFormat.Section` — the parts of a class file, in file order.
* `ClassFormat.Level` — how much detail a note is.
* `ClassFormat.Event` — a note, with its level and its text.
-/

namespace ClassFormat

/-- The parts of a class file, in file order. -/
inductive Section where
  | header
  | constantPool
  | accessFlags
  | classNames
  | interfaces
  | fields
  | methods
  | attributes
  deriving DecidableEq, Repr

/-- The name of a section. -/
def Section.name : Section → String
  | header => "header"
  | constantPool => "constant pool"
  | accessFlags => "access flags"
  | classNames => "class names"
  | interfaces => "interfaces"
  | fields => "fields"
  | methods => "methods"
  | attributes => "attributes"

/-- How much detail a note is, from what always matters to every single step. -/
inductive Level where
  | error
  | warn
  | info
  | debug
  | trace
  deriving DecidableEq, Repr

namespace Level

/-- The place of a level on the scale of detail. -/
def rank : Level → Nat
  | error => 0
  | warn => 1
  | info => 2
  | debug => 3
  | trace => 4

/-- The name of a level, filled up with blanks in front to five columns. -/
def name : Level → String
  | error => "ERROR"
  | warn => " WARN"
  | info => " INFO"
  | debug => "DEBUG"
  | trace => "TRACE"

end Level

/-- A note of a decoder. -/
inductive Event where
  /-- A section of the class file begins at the absolute position `offset`. -/
  | beginning (part : Section) (offset : Nat)
  | constant (index : Index) (kind : Kind)
  | pool (slots byteLength : Nat)
  | instruction (pc : Nat) (opcode : Opcode) (operands : Nat)
  | code (maxStack maxLocals : UInt16) (codeLength : UInt32) (instructions handlers : Nat)
  /-- Bytes behind the code of an attribute are left unread. -/
  | codeTrailing (offset trailing : Nat)
  /-- Bytes behind the class file are left unread. -/
  | fileTrailing (offset trailing : Nat)
  | classFile (name : String) (fields methods : Nat)
  deriving DecidableEq, Repr

namespace Event

/-- The level of a note. -/
def level : Event → Level
  | beginning .. | pool .. | classFile .. => .debug
  | constant .. | instruction .. | code .. => .trace
  | codeTrailing .. | fileTrailing .. => .warn

/-- A named number of a note. -/
def field (name : String) (value : Nat) : String :=
  " " ++ name ++ "=" ++ toString value

/-- The text of a note: what happened, and the particulars. -/
def text : Event → String
  | beginning part offset => "decoding section=" ++ part.name ++ field "offset" offset
  | constant index kind =>
    "decoded constant" ++ field "index" index.toNat ++ " kind=\"" ++ kind.name ++ "\""
  | pool slots byteLength =>
    "decoded constant pool" ++ field "slots" slots ++ field "byte_len" byteLength
  | instruction pc opcode operands =>
    "decoded instruction" ++ field "pc" pc ++ " opcode=" ++ opcode.mnemonic ++ field "len" operands
  | code maxStack maxLocals codeLength instructions handlers =>
    "decoded code" ++ field "max_stack" maxStack.toNat ++ field "max_locals" maxLocals.toNat ++
      field "code_length" codeLength.toNat ++ field "instructions" instructions ++
      field "handlers" handlers
  | codeTrailing offset trailing =>
    "ignoring trailing bytes after code attribute" ++ field "offset" offset ++
      field "trailing" trailing
  | fileTrailing offset trailing =>
    "ignoring trailing bytes after class file" ++ field "offset" offset ++ field "trailing" trailing
  | classFile name fields methods =>
    "decoded class name=" ++ name ++ field "fields" fields ++ field "methods" methods

end Event

end ClassFormat
