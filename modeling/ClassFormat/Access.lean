/-!
# Access flags

Classes, fields and methods carry a 16-bit word of flags. What a bit means depends on what carries
it: `0x0020` is `super` on a class and `synchronized` on a method.

## Main definitions

* `ClassFormat.Flag` — the flags, with their bit and their keyword.
* `ClassFormat.AccessTarget` — what carries the flags, with the flags that have a meaning there.
* `ClassFormat.Access` — a word of flags on a target.
* `ClassFormat.Access.isLegal` — whether a compiler may produce this combination of flags.
-/

namespace ClassFormat

/-- What carries access flags. -/
inductive AccessTarget where
  | classFile
  | field
  | method
  deriving DecidableEq, Repr

/-- The name of a target in messages. -/
def AccessTarget.name : AccessTarget → String
  | classFile => "class"
  | field => "field"
  | method => "method"

/-- The meanings that a bit can have. -/
inductive Flag where
  | accPublic
  | accPrivate
  | accProtected
  | accStatic
  | accFinal
  | accSuper
  | accSynchronized
  | accVolatile
  | accBridge
  | accTransient
  | accVarargs
  | accNative
  | accInterface
  | accAbstract
  | accStrict
  | accSynthetic
  | accAnnotationType
  | accEnum
  | accModule
  deriving DecidableEq, Repr

namespace Flag

/-- Every flag, in the order of the bits. -/
def all : List Flag :=
  [accPublic, accPrivate, accProtected, accStatic, accFinal, accSuper, accSynchronized, accVolatile,
    accBridge, accTransient, accVarargs, accNative, accInterface, accAbstract, accStrict,
    accSynthetic, accAnnotationType, accEnum, accModule]

/-- The bit of a flag. -/
def bit : Flag → UInt16
  | accPublic => 0x0001
  | accPrivate => 0x0002
  | accProtected => 0x0004
  | accStatic => 0x0008
  | accFinal => 0x0010
  | accSuper => 0x0020
  | accSynchronized => 0x0020
  | accVolatile => 0x0040
  | accBridge => 0x0040
  | accTransient => 0x0080
  | accVarargs => 0x0080
  | accNative => 0x0100
  | accInterface => 0x0200
  | accAbstract => 0x0400
  | accStrict => 0x0800
  | accSynthetic => 0x1000
  | accAnnotationType => 0x2000
  | accEnum => 0x4000
  | accModule => 0x8000

/-- The source keyword of a flag, or a lower-case name for a flag without one. -/
def keyword : Flag → String
  | accPublic => "public"
  | accPrivate => "private"
  | accProtected => "protected"
  | accStatic => "static"
  | accFinal => "final"
  | accSuper => "super"
  | accSynchronized => "synchronized"
  | accVolatile => "volatile"
  | accBridge => "bridge"
  | accTransient => "transient"
  | accVarargs => "varargs"
  | accNative => "native"
  | accInterface => "interface"
  | accAbstract => "abstract"
  | accStrict => "strictfp"
  | accSynthetic => "synthetic"
  | accAnnotationType => "annotation"
  | accEnum => "enum"
  | accModule => "module"

end Flag

namespace AccessTarget

/-- The flags of a target that source code writes as modifiers, in the order they are written. -/
def modifiers : AccessTarget → List Flag
  | classFile => [.accPublic, .accAbstract, .accFinal, .accInterface, .accEnum]
  | field =>
    [.accPublic, .accPrivate, .accProtected, .accStatic, .accVolatile, .accTransient, .accFinal]
  | method =>
    [.accPublic, .accPrivate, .accProtected, .accStatic, .accAbstract, .accSynchronized, .accFinal,
      .accStrict, .accNative]

/-- The flags of a target that source code does not write. -/
def markers : AccessTarget → List Flag
  | classFile => [.accSuper, .accSynthetic, .accAnnotationType, .accModule]
  | field => [.accEnum, .accSynthetic]
  | method => [.accBridge, .accVarargs, .accSynthetic]

/-- The flags that have a meaning on a target, in the order they are listed. -/
def flags (target : AccessTarget) : List Flag :=
  target.modifiers ++ target.markers

end AccessTarget

/-- A word of access flags. Bits without a meaning on the target are kept, but are no flags. -/
structure Access where
  /-- What carries the flags. -/
  target : AccessTarget
  /-- The word itself. -/
  raw : UInt16
  deriving DecidableEq, Repr

namespace Access

/-- Whether the bit of a flag is set. -/
def isSet (access : Access) (flag : Flag) : Bool :=
  access.raw &&& flag.bit == flag.bit

/-- Whether a flag has a meaning on the target and is set. -/
def contains (access : Access) (flag : Flag) : Bool :=
  access.target.flags.contains flag && access.isSet flag

/-- The flags that are set, in the order they are listed. -/
def flags (access : Access) : List Flag :=
  access.target.flags.filter access.isSet

/-- The modifiers that are set, in the order they are written. -/
def modifiers (access : Access) : List Flag :=
  access.target.modifiers.filter access.isSet

/-- The keywords of the flags that are set, separated by blanks. -/
def text (access : Access) : String :=
  " ".intercalate (access.flags.map Flag.keyword)

/-- Whether some flag of a list is set. -/
def containsAny (access : Access) (flags : List Flag) : Bool :=
  flags.any access.contains

/-- Whether at most one of the visibilities is chosen. -/
def hasOneVisibility (access : Access) : Bool :=
  ([.accPublic, .accPrivate, .accProtected] : List Flag).countP access.contains ≤ 1

/-- Whether a compiler may produce the flags of a class: an annotation is an interface, an interface
is abstract and neither final nor `super` nor an enumeration, an enumeration is no annotation, and a
final class is not abstract. -/
def isLegalClass (access : Access) : Bool :=
  (!access.contains .accAnnotationType || access.contains .accInterface) &&
  (!access.contains .accInterface ||
    access.contains .accAbstract && !access.containsAny [.accFinal, .accSuper, .accEnum]) &&
  (!access.contains .accEnum || !access.containsAny [.accInterface, .accAnnotationType]) &&
  !(access.contains .accFinal && access.contains .accAbstract)

/-- Whether a compiler may produce the flags of a field: a final field is not volatile. -/
def isLegalField (access : Access) : Bool :=
  !(access.contains .accFinal && access.contains .accVolatile)

/-- Whether a compiler may produce the flags of a method: an abstract method has no property of a
body. -/
def isLegalMethod (access : Access) : Bool :=
  !(access.contains .accAbstract && access.containsAny
    [.accFinal, .accNative, .accPrivate, .accStatic, .accStrict, .accSynchronized])

/-- Whether a compiler may produce this combination of flags on the target. -/
def isLegal (access : Access) : Bool :=
  access.hasOneVisibility &&
    match access.target with
    | .classFile => access.isLegalClass
    | .field => access.isLegalField
    | .method => access.isLegalMethod

end Access

end ClassFormat
