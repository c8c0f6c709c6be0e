import ClassFormat.Bytes.BigEndian
import ClassFormat.Text.Modified

/-!
# Constants

A constant is a text, a number, or a reference to other constants by their index in the pool. It is
stored as a tag byte and a content whose length the tag decides, except for a text, which carries
its own length.

## Main definitions

* `ClassFormat.Kind` — the kinds of constants, with their tag, name and content length.
* `ClassFormat.HandleKind` — what a method handle does with the member it refers to.
* `ClassFormat.Constant` — a constant.
* `ClassFormat.Constant.content` — the bytes that a constant stores behind its tag.
-/

namespace ClassFormat

/-- A place in the constant pool, counted from one. -/
abbrev Index := UInt16

/-- An index as messages and listings write it. -/
def Index.label (index : Index) : String :=
  "#" ++ toString index.toNat

/-! ## Kinds -/

/-- The kinds of constants that refer to a text and nothing else. -/
inductive LabelKind where
  | classInfo
  | string
  | methodType
  | moduleInfo
  | packageInfo
  deriving DecidableEq, Repr

/-- The kinds of members that a constant can refer to. -/
inductive MemberKind where
  | field
  | method
  | interfaceMethod
  deriving DecidableEq, Repr

/-- The kinds of constants that are computed by a bootstrap method. -/
inductive DynamicKind where
  | constant
  | invocation
  deriving DecidableEq, Repr

/-- The kinds of constants. -/
inductive Kind where
  | utf8
  | integer
  | float
  | long
  | double
  | label (kind : LabelKind)
  | member (kind : MemberKind)
  | nameAndType
  | methodHandle
  | dynamic (kind : DynamicKind)
  deriving DecidableEq, Repr

namespace Kind

/-- Every kind, in the order of the tags. -/
def all : List Kind :=
  [utf8, integer, float, long, double, label .classInfo, label .string, member .field,
    member .method, member .interfaceMethod, nameAndType, methodHandle, label .methodType,
    dynamic .constant, dynamic .invocation, label .moduleInfo, label .packageInfo]

/-- The byte that announces a constant of this kind. -/
def tag : Kind → UInt8
  | utf8 => 1
  | integer => 3
  | float => 4
  | long => 5
  | double => 6
  | label .classInfo => 7
  | label .string => 8
  | member .field => 9
  | member .method => 10
  | member .interfaceMethod => 11
  | nameAndType => 12
  | methodHandle => 15
  | label .methodType => 16
  | dynamic .constant => 17
  | dynamic .invocation => 18
  | label .moduleInfo => 19
  | label .packageInfo => 20

/-- The kind that a tag byte announces. -/
def ofTag? (tag : UInt8) : Option Kind :=
  all.find? fun kind => kind.tag == tag

/-- The name of a kind. -/
def name : Kind → String
  | utf8 => "Utf8"
  | integer => "Integer"
  | float => "Float"
  | long => "Long"
  | double => "Double"
  | label .classInfo => "Class"
  | label .string => "String"
  | member .field => "FieldRef"
  | member .method => "MethodRef"
  | member .interfaceMethod => "InterfaceMethodRef"
  | nameAndType => "NameAndType"
  | methodHandle => "MethodHandle"
  | label .methodType => "MethodType"
  | dynamic .constant => "Dynamic"
  | dynamic .invocation => "InvokeDynamic"
  | label .moduleInfo => "Module"
  | label .packageInfo => "Package"

/-- How many bytes follow the tag; a text tells its length itself. -/
def contentLength? : Kind → Option Nat
  | utf8 => none
  | label _ => some 2
  | methodHandle => some 3
  | integer | float | member _ | nameAndType | dynamic _ => some 4
  | long | double => some 8

/-- The kind with a given tag is the one that the tag announces. -/
theorem ofTag?_eq_some_iff {tag : UInt8} {kind : Kind} :
    ofTag? tag = some kind ↔ kind.tag = tag := by
  constructor
  · intro h
    simpa using List.find?_some h
  · rintro rfl
    cases kind with
    | label kind => cases kind <;> rfl
    | member kind => cases kind <;> rfl
    | dynamic kind => cases kind <;> rfl
    | _ => rfl

end Kind

/-- What a method handle does with the member that it refers to. -/
inductive HandleKind where
  | getField
  | getStatic
  | putField
  | putStatic
  | invokeVirtual
  | invokeStatic
  | invokeSpecial
  | newInvokeSpecial
  | invokeInterface
  deriving DecidableEq, Repr

namespace HandleKind

/-- Every handle kind, in the order of the codes. -/
def all : List HandleKind :=
  [getField, getStatic, putField, putStatic, invokeVirtual, invokeStatic, invokeSpecial,
    newInvokeSpecial, invokeInterface]

/-- The byte that stands for a handle kind. -/
def code : HandleKind → UInt8
  | getField => 1
  | getStatic => 2
  | putField => 3
  | putStatic => 4
  | invokeVirtual => 5
  | invokeStatic => 6
  | invokeSpecial => 7
  | newInvokeSpecial => 8
  | invokeInterface => 9

/-- The handle kind that a byte stands for. -/
def ofCode? (code : UInt8) : Option HandleKind :=
  all.find? fun kind => kind.code == code

/-- The name of a handle kind. -/
def name : HandleKind → String
  | getField => "GetField"
  | getStatic => "GetStatic"
  | putField => "PutField"
  | putStatic => "PutStatic"
  | invokeVirtual => "InvokeVirtual"
  | invokeStatic => "InvokeStatic"
  | invokeSpecial => "InvokeSpecial"
  | newInvokeSpecial => "NewInvokeSpecial"
  | invokeInterface => "InvokeInterface"

/-- The kinds of members that a handle may refer to. -/
def targets : HandleKind → List MemberKind
  | getField | getStatic | putField | putStatic => [.field]
  | invokeVirtual | newInvokeSpecial => [.method]
  | invokeStatic | invokeSpecial => [.method, .interfaceMethod]
  | invokeInterface => [.interfaceMethod]

/-- The handle kind with a given code is the one that the code stands for. -/
theorem ofCode?_eq_some_iff {code : UInt8} {kind : HandleKind} :
    ofCode? code = some kind ↔ kind.code = code := by
  constructor
  · intro h
    simpa using List.find?_some h
  · rintro rfl
    cases kind <;> rfl

end HandleKind

/-! ## Constants -/

/-- A constant of the pool. -/
inductive Constant where
  /-- A text. -/
  | utf8 (text : String)
  | integer (value : Int32)
  /-- A number of single precision, by its bits. -/
  | float (bits : UInt32)
  | long (value : Int64)
  /-- A number of double precision, by its bits. -/
  | double (bits : UInt64)
  /-- A class, string, method type, module or package, by the index of its text. -/
  | label (kind : LabelKind) (text : Index)
  /-- A member of a class: the class, and the member's name and type. -/
  | member (kind : MemberKind) (owner signature : Index)
  /-- A name and a descriptor, by the indices of their texts. -/
  | nameAndType (name descriptor : Index)
  /-- What to do with which member. -/
  | methodHandle (kind : HandleKind) (reference : Index)
  /-- A value or call that a bootstrap method supplies. -/
  | dynamic (kind : DynamicKind) (bootstrap : UInt16) (signature : Index)
  deriving DecidableEq, Repr

namespace Constant

/-- The kind of a constant. -/
def kind : Constant → Kind
  | utf8 _ => .utf8
  | integer _ => .integer
  | float _ => .float
  | long _ => .long
  | double _ => .double
  | label kind _ => .label kind
  | member kind _ _ => .member kind
  | nameAndType _ _ => .nameAndType
  | methodHandle _ _ => .methodHandle
  | dynamic kind _ _ => .dynamic kind

/-- Whether a constant takes two slots of the pool. -/
def isWide : Constant → Bool
  | long _ | double _ => true
  | _ => false

/-- The text of a text constant. -/
def text? : Constant → Option String
  | utf8 text => some text
  | _ => none

/-- The bits of a single-precision constant. -/
def floatBits? : Constant → Option UInt32
  | float bits => some bits
  | _ => none

/-- The bits of a double-precision constant. -/
def doubleBits? : Constant → Option UInt64
  | double bits => some bits
  | _ => none

/-- The bytes that a constant stores behind its tag; a text begins with their count. -/
def content : Constant → Bytes
  | utf8 text =>
    let bytes := Modified.encode text
    Word.toBytes (UInt16.ofNat bytes.length) ++ bytes
  | integer value => Word.toBytes value
  | float bits => Word.toBytes bits
  | long value => Word.toBytes value
  | double bits => Word.toBytes bits
  | label _ text => Word.toBytes text
  | member _ owner signature => Word.toBytes owner ++ Word.toBytes signature
  | nameAndType name descriptor => Word.toBytes name ++ Word.toBytes descriptor
  | methodHandle kind reference => kind.code :: Word.toBytes reference
  | dynamic _ bootstrap signature => Word.toBytes bootstrap ++ Word.toBytes signature

end Constant

end ClassFormat
