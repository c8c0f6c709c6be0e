import ClassFormat.Attribute.Reader
import ClassFormat.ClassFile.Basic
import ClassFormat.Pool.Reader

/-!
# Reading class files

A class file is read section by section. A fault is reported with the section in which it was found,
and with the most precise position that is known.

## Main definitions

* `ClassFormat.Field.reader`, `ClassFormat.Method.reader` — the members.
* `ClassFormat.ClassFile.inSection` — a section of the file.
* `ClassFormat.ClassFile.reader` — a class file, from the magic number to the last attribute.
* `ClassFormat.ClassFile.decode` — the class file in a string of bytes.
-/

namespace ClassFormat

open Decoder hiding word split
open Record

/-- The access flags of a target. -/
def Access.reader (options : Options) (target : AccessTarget) : Decoder Fault Access := do
  let raw : UInt16 ← word
  let access : Access := { target, raw }
  if options.strictAccess then
    given access.validate
  return access

/-- A field. A field has a value, so its type is not void. -/
def Field.reader (pool : Pool) (options : Options) : Decoder Fault Field := do
  let access ← Access.reader options .field
  let name ← given (pool.utf8 (← word))
  let descriptor ← given (pool.utf8 (← word))
  let type ← given (TypeDescriptor.parse descriptor)
  if type.isVoid then
    fail (.invalidDescriptor descriptor)
  else
    let attributes ← Attribute.listReader pool
    return { access, name, descriptor, type, attributes }

/-- A method. -/
def Method.reader (pool : Pool) (options : Options) : Decoder Fault Method := do
  let access ← Access.reader options .method
  let name ← given (pool.utf8 (← word))
  let descriptor ← given (pool.utf8 (← word))
  let signature ← given (Signature.parse descriptor)
  let attributes ← Attribute.listReader pool
  return { access, name, descriptor, signature, attributes }

namespace ClassFile

/-- The number that every class file begins with. -/
def magic : UInt32 :=
  0xCAFEBABE

/-- The class above a class that names none. -/
def rootClass : String :=
  "java/lang/Object"

/-- The magic number and the version, which stores the minor number first. -/
def headerReader (options : Options) : Decoder Fault Version := do
  let found : UInt32 ← word
  if found ≠ magic then
    fail (.located 0 (.badMagic found))
  else
    let start ← position
    let minor : UInt16 ← word
    let major : UInt16 ← word
    if options.maxMajor.any fun limit => limit < major then
      fail (.located start (.unsupportedVersion major minor))
    else
      return { major, minor }

/-- The pool, with its references checked if that is asked for. -/
def poolReader (options : Options) : Decoder Fault Pool := do
  let pool ← Pool.reader
  if options.verifyPool then
    given pool.verify
  return pool

/-- The names of the class and of the class above it. Both indices are read before the first one is
followed. -/
def namesReader (pool : Pool) : Decoder Fault (String × String) := do
  let this : Index ← word
  let super : Index ← word
  let name ← given (pool.className this)
  let superName ← if super = 0 then pure rootClass else given (pool.className super)
  return (name, superName)

/-- The name of an interface. -/
def interfaceReader (pool : Pool) : Decoder Fault String := do
  given (pool.className (← word))

/-- A section of the file. Its faults are reported at their own position if they know one, otherwise
at the start of the section. -/
def inSection {α : Type} (part : Section) (content : Decoder Fault α) : Decoder ClassFault α := do
  let start ← position
  note (.beginning part start)
  content.mapFault fun fault =>
    { part, offset := fault.location?.getD start, cause := fault.unpinned }

/-- A class file. Bytes behind its last attribute are passed over. -/
def reader (options : Options) : Decoder ClassFault ClassFile := do
  let raw := (← here).window
  let version ← inSection .header (headerReader options)
  let pool ← inSection .constantPool (poolReader options)
  let access ← inSection .accessFlags (Access.reader options .classFile)
  let (name, superName) ← inSection .classNames (namesReader pool)
  let interfaces ← inSection .interfaces (table (interfaceReader pool))
  let fields ← inSection .fields (table (Field.reader pool options))
  let methods ← inSection .methods (table (Method.reader pool options))
  let attributes ← inSection .attributes (Attribute.listReader pool)
  let stop ← here
  unless stop.isEmpty do
    note (.fileTrailing stop.position stop.remaining)
  note (.classFile name fields.length methods.length)
  return { raw, version, pool, access, name, superName, interfaces, fields, methods, attributes }

/-- The class file in a string of bytes. -/
def decode (bytes : Bytes) (options : Options) : Except ClassFault ClassFile :=
  (reader options (.ofBytes bytes)).result

end ClassFile

end ClassFormat
