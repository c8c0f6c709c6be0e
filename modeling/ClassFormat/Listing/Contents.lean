import ClassFormat.ClassFile.Basic
import ClassFormat.Listing.Palette

/-!
# The contents of a class file

A listing of everything in a class file: names and version, the constant pool, flags, interfaces,
fields, methods and attributes, with the instructions of methods one to a line.

## Main definitions

* `ClassFormat.Contents.pool` — the lines of the constant pool.
* `ClassFormat.Contents.code` — the lines of a method's body.
* `ClassFormat.Contents.lines`, `ClassFormat.ClassFile.contents` — the listing, in lines and as
  text.
-/

namespace ClassFormat

namespace Contents

/-- A heading. -/
def heading (text : String) : Line :=
  [Role.heading.piece text]

/-- The empty line between parts. -/
def gap : Line :=
  []

/-- The flags of a class or member. -/
def access (indent : String) (access : Access) : Line :=
  [.bare (indent ++ "Access flags: "), Role.access.piece access.text]

/-! ## The constant pool -/

/-- A text with its line ends made visible, so that it stays on one line. -/
def oneLine (text : String) : String :=
  String.ofList (text.toList.flatMap fun c => if c = '\n' then ['\\', 'n'] else [c])

/-- What a constant holds: a text as it is, anything else by its bytes. -/
def constantValue : Constant → Piece
  | .utf8 text => Role.poolText.piece (oneLine text)
  | constant => Role.poolValue.piece (Hex.pairs constant.content)

/-- The line of a constant. -/
def constant (index : Index) (constant : Constant) : Line :=
  [.bare "  ", Role.poolIndex.piece (toString index.toNat), .bare ": ",
    Role.poolKind.piece constant.kind.name, .bare " - ", constantValue constant]

/-- The lines of the constant pool. -/
def pool (pool : Pool) : List Line :=
  heading "Constant pool dump:" :: pool.entries.map fun (index, value) => constant index value

/-! ## Code -/

/-- The operands of an instruction; those of a switch stand out. -/
def operands (instruction : Instruction) : Piece :=
  let role : Role := if instruction.switchTable?.isSome then .switchImmediate else .immediate
  role.piece (Hex.pairs instruction.operands)

/-- The line of an instruction. -/
def instruction (instruction : Instruction) : Line :=
  let name : Line := [.bare "          ", Role.opcode.piece instruction.opcode.mnemonic]
  if instruction.operands.isEmpty then name else name ++ [.bare " ", operands instruction]

/-- The lines of a body before its instructions. -/
def codeHead (code : Code) : List Line :=
  [[.bare ("        Max stack size: " ++ toString code.maxStack.toNat)],
    [.bare ("        Max local variables: " ++ toString code.maxLocals.toNat)],
    [.bare ("        Exception handlers: " ++ toString code.handlers.length ++ " (not dumped)")],
    [.bare ("        Attributes: " ++ toString code.attributes.length ++ " (not dumped)")],
    [.bare "        Body:"]]

/-- The lines of a method's body. -/
def code (code : Code) : List Line :=
  codeHead code ++ code.instructions.map instruction

/-! ## Attributes and members -/

/-- The lines of one attribute. -/
def oneAttribute (indent : String) : Attribute → List Line
  | .code _ name body => [.bare (indent ++ name ++ ":")] :: code body
  | .raw _ name data => [[.bare (indent ++ name ++ ": " ++ Hex.pairs data)]]

/-- The lines of a list of attributes. -/
def attributes (indent : String) (attributes : List Attribute) : List Line :=
  attributes.flatMap (oneAttribute indent)

/-- The lines of a field or method before its attributes. -/
def memberHead (name : String) (flags : Access) (descriptor : String) : List Line :=
  [[.bare "  ", Role.memberHeading.piece name, .bare ":"],
    access "    " flags,
    [.bare "    Descriptor: ", Role.descriptor.piece descriptor],
    [.bare "    Attributes:"]]

/-- The lines of a field. -/
def field (field : Field) : List Line :=
  memberHead field.name field.access field.descriptor ++ attributes "      " field.attributes

/-- The lines of a method. -/
def method (method : Method) : List Line :=
  memberHead method.name method.access method.descriptor ++ attributes "      " method.attributes

/-! ## The whole file -/

/-- The lines before the constant pool. -/
def head (file : ClassFile) : List Line :=
  [[Role.banner.piece "Generated by class-dump"],
    gap,
    [.bare "Class name: ", Role.className.piece file.name],
    [.bare "Superclass name: ", Role.className.piece file.superName],
    [.bare ("Class major/minor version: " ++ file.version.text)]]

/-- The line of an interface. -/
def interface (name : String) : Line :=
  [.bare "  ", Role.name.piece name]

/-- The parts of the listing, between which there are empty lines. -/
def parts (file : ClassFile) : List (List Line) :=
  [head file,
    pool file.pool,
    [access "" file.access],
    heading "Interfaces:" :: file.interfaces.map interface,
    heading "Fields:" :: file.fields.flatMap field,
    heading "Methods:" :: file.methods.flatMap method,
    heading "Attributes:" :: attributes "  " file.attributes]

/-- The listing of a class file. -/
def lines (file : ClassFile) : List Line :=
  [gap].intercalate (parts file)

end Contents

/-- The listing of a class file as text. -/
def ClassFile.contents (file : ClassFile) (palette : Palette) : String :=
  palette.render (Contents.lines file)

end ClassFormat
