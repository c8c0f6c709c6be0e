import ClassFormat.ClassFile.Reader
import ClassFormat.Proofs.Descriptor.Grammar
import ClassFormat.Proofs.Instruction.Layout
import ClassFormat.Proofs.Pool.Lookup

/-!
# Class files as they are stored

A class file on disk refers to its constants by their index and leaves everything else to whoever
follows the references. This module has the stored form of every part of a class file, the bytes
that store it, the conditions under which a part can be stored and followed, and the part of a
decoded class file that it stands for.

## Main definitions

* `ClassFormat.RawAttribute`, `ClassFormat.RawMember`, `ClassFormat.RawClass` — attributes, members
  and class files as they are stored.
* `ClassFormat.RawClass.bytes` — the bytes of a class file.
* `ClassFormat.RawClass.WellFormed` — everything fits its fields, and every reference can be
  followed.
* `ClassFormat.RawClass.Describes` — a stored class file stands for a decoded one.

## Design

A stored body may have bytes behind its attributes. They belong to its payload and to nothing else.
-/

namespace ClassFormat

/-! ## Constants -/

namespace Constant

/-- The bytes of a constant: its tag and its content. -/
def bytes (constant : Constant) : Bytes :=
  constant.kind.tag :: constant.content

/-- The slots that a constant takes. -/
def slots (constant : Constant) : List Slot :=
  if constant.isWide then [.entry constant, .upperHalf] else [.entry constant]

/-- A constant that can be stored: the length of a text fits its field. -/
def WellFormed : Constant → Prop
  | utf8 text => (Modified.encode text).length < UInt16.size
  | _ => True

/-- Whether a constant can be stored is a comparison of its length, if it is a text. -/
instance : DecidablePred WellFormed
  | utf8 text => inferInstanceAs (Decidable ((Modified.encode text).length < UInt16.size))
  | integer _ | float _ | long _ | double _ | label _ _ | member _ _ _ | nameAndType _
    _ | methodHandle _ _
  | dynamic _ _ _ => isTrue trivial

end Constant

namespace Pool

/-- The bytes of a pool: the number of slots plus one, and the constants. -/
def bytesOf (constants : List Constant) : Bytes :=
  Word.toBytes (UInt16.ofNat ((constants.flatMap Constant.slots).length + 1)) ++
    constants.flatMap Constant.bytes

/-- The pool of a list of constants. -/
def ofConstants (constants : List Constant) : Pool where
  slots := (constants.flatMap Constant.slots).toArray
  byteLength := (bytesOf constants).length

/-- An index that names a class, or zero for none. -/
def Names (pool : Pool) (index : Index) : Option String → Prop
  | none => index = 0
  | some name => pool.HoldsLabel .classInfo index name

end Pool

/-! ## Bodies -/

/-- An exception handler as it is stored. -/
structure RawHandler where
  first : UInt16
  last : UInt16
  target : UInt16
  /-- The class of exceptions that it catches, or zero for all. -/
  catches : Index

namespace RawHandler

/-- The bytes of a stored handler. -/
def bytes (raw : RawHandler) : Bytes :=
  Word.toBytes raw.first ++ Word.toBytes raw.last ++ Word.toBytes raw.target ++
    Word.toBytes raw.catches

/-- A handler that covers something of the code, and catches a class or everything. -/
def WellFormed (pool : Pool) (codeLength : Nat) (raw : RawHandler) : Prop :=
  raw.first.toNat < raw.last.toNat ∧ raw.last.toNat ≤ codeLength ∧
    ∃ name, pool.Names raw.catches name

/-- A stored handler stands for a decoded one with the same range and target, and the class that its
index names. -/
def Describes (pool : Pool) (raw : RawHandler) (handler : Handler) : Prop :=
  ∃ name, pool.Names raw.catches name ∧
    handler = ⟨raw.first.toNat, raw.last.toNat, raw.target.toNat, name⟩

end RawHandler

/-- What a body holds before its attributes, as it is stored. -/
structure RawHead where
  maxStack : UInt16
  maxLocals : UInt16
  instructions : List Instruction
  handlers : List RawHandler

namespace RawHead

/-- The bytes of the instructions. -/
def code (raw : RawHead) : Bytes :=
  raw.instructions.flatMap Instruction.bytes

/-- The bytes of a stored body before its attributes. -/
def bytes (raw : RawHead) : Bytes :=
  Word.toBytes raw.maxStack ++ Word.toBytes raw.maxLocals ++
    Word.toBytes (UInt32.ofNat raw.code.length) ++ raw.code ++
      tableBytes RawHandler.bytes raw.handlers

/-- The instructions of a body lie end to end, its lengths fit their fields, and its handlers can be
stored. -/
structure WellFormed (pool : Pool) (raw : RawHead) : Prop where
  instructions : Instruction.LaidOut 0 raw.instructions
  codeLength : raw.code.length < UInt32.size
  handlerCount : raw.handlers.length < UInt16.size
  handlers : ∀ handler ∈ raw.handlers, handler.WellFormed pool raw.code.length

end RawHead

/-! ## Attributes -/

/-- An attribute as it is stored. -/
inductive RawAttribute where
  /-- An attribute that is kept as it is. -/
  | plain (nameIndex : Index) (payload : Bytes)
  /-- The body of a method, with further bytes behind it. -/
  | code (nameIndex : Index) (head : RawHead) (attributes : List RawAttribute) (trailing : Bytes)

namespace RawAttribute

/-- The index of an attribute's name. -/
def nameIndex : RawAttribute → Index
  | plain nameIndex _ => nameIndex
  | code nameIndex _ _ _ => nameIndex

/-- The bytes of an attribute: the index of its name, the length of its payload, and the payload. -/
def frame (nameIndex : Index) (payload : Bytes) : Bytes :=
  Word.toBytes nameIndex ++ Word.toBytes (UInt32.ofNat payload.length) ++ payload

mutual

/-- The payload of an attribute. -/
def payload : RawAttribute → Bytes
  | plain _ payload => payload
  | code _ head attributes trailing =>
    head.bytes ++ (Word.toBytes (UInt16.ofNat attributes.length) ++ frames attributes) ++ trailing

/-- The bytes of attributes in a row. -/
def frames : List RawAttribute → Bytes
  | [] => []
  | raw :: raws => frame raw.nameIndex raw.payload ++ frames raws

end

/-- The bytes of an attribute. -/
def bytes (raw : RawAttribute) : Bytes :=
  frame raw.nameIndex raw.payload

/-- Attributes are stored one behind the other. -/
lemma frames_eq_flatMap (raws : List RawAttribute) : frames raws = raws.flatMap bytes := by
  induction raws with
  | nil => rfl
  | cons raw raws ih => rw [frames, ih, List.flatMap_cons, bytes]

/-- The payload of a body is its head, its attributes with their number, and what trails behind. -/
lemma payload_code (nameIndex : Index) (head : RawHead) (attributes : List RawAttribute)
    (trailing : Bytes) :
    (code nameIndex head attributes trailing).payload =
      head.bytes ++ (tableBytes bytes attributes ++ trailing) := by
  rw [payload, frames_eq_flatMap, List.append_assoc]
  rfl

/-- An attribute whose name says what it is, and whose payload fits. -/
inductive WellFormed (pool : Pool) : RawAttribute → Prop
  | plain {nameIndex : Index} {name : String} {payload : Bytes}
    (hname : pool.Holds nameIndex (.utf8 name)) (hplain : Attribute.isCodeName name = false)
    (hlength : payload.length < UInt32.size) : WellFormed pool (plain nameIndex payload)
  | code {nameIndex : Index} {name : String} {head : RawHead} {attributes : List RawAttribute}
    {trailing : Bytes} (hname : pool.Holds nameIndex (.utf8 name))
    (hcode : Attribute.isCodeName name = true) (hhead : head.WellFormed pool)
    (hcount : attributes.length < UInt16.size)
    (hattributes : ∀ raw ∈ attributes, WellFormed pool raw)
    (hlength : (RawAttribute.code nameIndex head attributes trailing).payload.length <
      UInt32.size) :
    WellFormed pool (code nameIndex head attributes trailing)

/-- A stored attribute stands for a decoded one. Bytes behind a body stand for nothing. -/
inductive Describes (pool : Pool) : RawAttribute → Attribute → Prop
  | plain {nameIndex : Index} {name : String} {payload : Bytes}
    (hname : pool.Holds nameIndex (.utf8 name)) :
    Describes pool (plain nameIndex payload) (.raw nameIndex name payload)
  | code {nameIndex : Index} {name : String} {head : RawHead} {raws : List RawAttribute}
    {trailing : Bytes} {handlers : List Handler} {attributes : List Attribute}
    (hname : pool.Holds nameIndex (.utf8 name))
    (hhandlers : List.Forall₂ (RawHandler.Describes pool) head.handlers handlers)
    (hattributes : List.Forall₂ (Describes pool) raws attributes) :
    Describes pool (code nameIndex head raws trailing) (.code nameIndex name {
      maxStack := head.maxStack
      maxLocals := head.maxLocals
      codeLength := UInt32.ofNat head.code.length
      instructions := head.instructions
      handlers
      attributes })

end RawAttribute

/-! ## Members -/

/-- A field or method as it is stored. -/
structure RawMember where
  access : UInt16
  name : Index
  descriptor : Index
  attributes : List RawAttribute

namespace RawMember

/-- The bytes of a stored member. -/
def bytes (raw : RawMember) : Bytes :=
  Word.toBytes raw.access ++ Word.toBytes raw.name ++ Word.toBytes raw.descriptor ++
    tableBytes RawAttribute.bytes raw.attributes

/-- A member with a name, and with a descriptor of which `valid` holds. -/
structure WellFormed (pool : Pool) (valid : String → Prop) (raw : RawMember) : Prop where
  name : ∃ name, pool.Holds raw.name (.utf8 name)
  descriptor : ∃ descriptor, pool.Holds raw.descriptor (.utf8 descriptor) ∧ valid descriptor
  attributeCount : raw.attributes.length < UInt16.size
  attributes : ∀ other ∈ raw.attributes, other.WellFormed pool

/-- The text is the descriptor of a field: it spells a type, and not void. -/
def IsFieldDescriptor (text : String) : Prop :=
  ∃ type : TypeDescriptor, type.WellFormed ∧ type.isVoid = false ∧ text.toList = type.encode

/-- The text is the descriptor of a method: it spells a signature. -/
def IsMethodDescriptor (text : String) : Prop :=
  ∃ signature : Signature, signature.WellFormed ∧ text.toList = signature.encode

/-- A stored member stands for a field with the texts that its indices refer to, and the type that
its descriptor spells. -/
structure DescribesField (pool : Pool) (raw : RawMember) (field : Field) : Prop where
  access : field.access = ⟨.field, raw.access⟩
  name : pool.Holds raw.name (.utf8 field.name)
  descriptor : pool.Holds raw.descriptor (.utf8 field.descriptor)
  type : field.type.WellFormed ∧ field.descriptor.toList = field.type.encode
  attributes : List.Forall₂ (RawAttribute.Describes pool) raw.attributes field.attributes

/-- A stored member stands for a method with the texts that its indices refer to, and the signature
that its descriptor spells. -/
structure DescribesMethod (pool : Pool) (raw : RawMember) (method : Method) : Prop where
  access : method.access = ⟨.method, raw.access⟩
  name : pool.Holds raw.name (.utf8 method.name)
  descriptor : pool.Holds raw.descriptor (.utf8 method.descriptor)
  signature : method.signature.WellFormed ∧ method.descriptor.toList = method.signature.encode
  attributes : List.Forall₂ (RawAttribute.Describes pool) raw.attributes method.attributes

end RawMember

/-! ## Class files -/

/-- A class file as it is stored. -/
structure RawClass where
  minor : UInt16
  major : UInt16
  constants : List Constant
  access : UInt16
  /-- The class itself. -/
  this : Index
  /-- The class above it, or zero for the root class. -/
  super : Index
  interfaces : List Index
  fields : List RawMember
  methods : List RawMember
  attributes : List RawAttribute

namespace RawClass

/-- The pool of a class file. -/
def pool (stored : RawClass) : Pool :=
  .ofConstants stored.constants

/-- The bytes of a class file. -/
def bytes (stored : RawClass) : Bytes :=
  Word.toBytes ClassFile.magic ++ Word.toBytes stored.minor ++ Word.toBytes stored.major ++
    Pool.bytesOf stored.constants ++
    Word.toBytes stored.access ++ Word.toBytes stored.this ++ Word.toBytes stored.super ++
    tableBytes Word.toBytes stored.interfaces ++ tableBytes RawMember.bytes stored.fields ++
    tableBytes RawMember.bytes stored.methods ++ tableBytes RawAttribute.bytes stored.attributes

/-- Everything fits its fields, and every reference can be followed to what is expected there. -/
structure WellFormed (stored : RawClass) : Prop where
  slotCount : (stored.constants.flatMap Constant.slots).length + 1 < UInt16.size
  constants : ∀ constant ∈ stored.constants, constant.WellFormed
  this : ∃ name, stored.pool.HoldsLabel .classInfo stored.this name
  super : ∃ name, stored.pool.Names stored.super name
  interfaceCount : stored.interfaces.length < UInt16.size
  interfaces : ∀ index ∈ stored.interfaces, ∃ name, stored.pool.HoldsLabel .classInfo index name
  fieldCount : stored.fields.length < UInt16.size
  fields : ∀ field ∈ stored.fields, field.WellFormed stored.pool RawMember.IsFieldDescriptor
  methodCount : stored.methods.length < UInt16.size
  methods : ∀ method ∈ stored.methods, method.WellFormed stored.pool RawMember.IsMethodDescriptor
  attributeCount : stored.attributes.length < UInt16.size
  attributes : ∀ raw ∈ stored.attributes, raw.WellFormed stored.pool

/-- A stored class file stands for a decoded one: every field is the stored one, or the text that
its index refers to. -/
structure Describes (stored : RawClass) (file : ClassFile) : Prop where
  raw : file.raw = stored.bytes
  version : file.version = ⟨stored.major, stored.minor⟩
  pool : file.pool = stored.pool
  access : file.access = ⟨.classFile, stored.access⟩
  name : stored.pool.HoldsLabel .classInfo stored.this file.name
  superName : ∃ found, stored.pool.Names stored.super found ∧
    file.superName = found.getD ClassFile.rootClass
  interfaces : List.Forall₂ (stored.pool.HoldsLabel .classInfo) stored.interfaces file.interfaces
  fields : List.Forall₂ (RawMember.DescribesField stored.pool) stored.fields file.fields
  methods : List.Forall₂ (RawMember.DescribesMethod stored.pool) stored.methods file.methods
  attributes : List.Forall₂ (RawAttribute.Describes stored.pool) stored.attributes file.attributes

end RawClass

end ClassFormat
