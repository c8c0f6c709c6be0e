import ClassFormat.Attribute.Basic
import ClassFormat.Descriptor.Signature
import ClassFormat.Journal
import ClassFormat.Pool.Basic

/-!
# Class files

## Main definitions

* `ClassFormat.Field`, `ClassFormat.Method` — the members of a class.
* `ClassFormat.ClassFile` — a class file as a whole.
* `ClassFormat.Options` — what a decode refuses beyond what it cannot read.
* `ClassFormat.ClassFault` — what is wrong with a class file, in which section, and where.
-/

namespace ClassFormat

/-- A field of a class. -/
structure Field where
  access : Access
  name : String
  /-- The descriptor as it stands in the pool. -/
  descriptor : String
  /-- The type that the descriptor spells. -/
  type : TypeDescriptor
  attributes : List Attribute

/-- A method of a class. -/
structure Method where
  access : Access
  name : String
  /-- The descriptor as it stands in the pool. -/
  descriptor : String
  /-- The types that the descriptor spells. -/
  signature : Signature
  attributes : List Attribute

/-- The body of a method; an abstract or native one has none. -/
def Method.code? (method : Method) : Option Code :=
  method.attributes.findSome? Attribute.code?

/-- The version of a class file. -/
structure Version where
  major : UInt16
  minor : UInt16
  deriving DecidableEq, Repr

/-- A version as text, the major number first. -/
def Version.text (version : Version) : String :=
  toString version.major.toNat ++ "." ++ toString version.minor.toNat

/-- A class file. -/
structure ClassFile where
  /-- The bytes that were decoded. -/
  raw : Bytes
  version : Version
  pool : Pool
  access : Access
  /-- The internal name of the class. -/
  name : String
  /-- The internal name of the class above it. -/
  superName : String
  /-- The internal names of the interfaces that it implements. -/
  interfaces : List String
  fields : List Field
  methods : List Method
  attributes : List Attribute

namespace ClassFile

/-- The internal name of the class's package. -/
def package? (file : ClassFile) : Option String :=
  InternalName.package? file.name

/-- The name of the class without its package. -/
def simpleName (file : ClassFile) : String :=
  InternalName.simpleName file.name

/-- The first method with a given name. -/
def method? (file : ClassFile) (name : String) : Option Method :=
  file.methods.find? fun method => method.name = name

/-- The first field with a given name. -/
def field? (file : ClassFile) (name : String) : Option Field :=
  file.fields.find? fun field => field.name = name

end ClassFile

/-- What a decode refuses beyond what it cannot read. -/
structure Options where
  /-- Refuse flags that no compiler produces. -/
  strictAccess : Bool := false
  /-- Refuse greater major versions. -/
  maxMajor : Option UInt16 := none
  /-- Refuse a pool with a reference that cannot be followed. -/
  verifyPool : Bool := false
  deriving DecidableEq, Repr

/-- What is wrong with a class file. -/
structure ClassFault where
  /-- The section in which the fault was found. -/
  part : Section
  /-- The absolute position of the fault, or of the innermost record that has it. -/
  offset : Nat
  /-- The fault itself, without a position of its record. -/
  cause : Fault
  deriving DecidableEq, Repr

namespace ClassFault

/-- Where the fault was found, as text. -/
def message (fault : ClassFault) : String :=
  "error decoding " ++ fault.part.name ++ " at offset " ++ Hex.ofNat fault.offset

/-- The texts of the fault and of what lies behind it, outermost first. -/
def chain (fault : ClassFault) : List String :=
  fault.message :: fault.cause.chain

end ClassFault

end ClassFormat
