import ClassFormat.Proofs.Listing.Colour

/-!
# Views written in one run

A view need not be made of lines first. A program can write it straight away, text behind text, and
ask the palette for the style of a role each time it comes to a piece that has one. Then plain and
coloured views come from two runs, which the palette might lead apart. It does not: either run
writes the lines of the view as the palette renders them, so the two can be cut into the same
pieces.

## Main definitions

* `ClassFormat.Palette.paintPath` — text in the style of a role that is known by its path.
* `ClassFormat.Writer` — a program that writes text behind what has been written.
* `ClassFormat.Writer.Appends` — what a program writes, whatever has been written before.
* `ClassFormat.ClassFile.writeContents`, `ClassFormat.ClassFile.writeOutline` — the views, written
  in one run.

## Main results

* `ClassFormat.ClassFile.written_eq_shown` — one run writes what is rendered from lines.
* `ClassFormat.ClassFile.written_coloured` — the runs with and without colour write the same pieces,
  painted or not.
-/

namespace ClassFormat

/-! ## Asking the palette -/

/-- A role is found by its path. -/
lemma Role.ofPath?_path (role : Role) : ofPath? role.path = some role := by
  cases role <;> decide

namespace Palette

/-- Text in the style of the role with a given path. Without colour, and where no role has that
path, the text stays as it is. -/
def paintPath (palette : Palette) (path text : String) : String :=
  match palette, Role.ofPath? path with
  | coloured, some role => role.style.apply text
  | _, _ => text

/-- To ask by the path of a role is to paint a piece with that role. -/
lemma paintPath_path (palette : Palette) (role : Role) (text : String) :
    palette.paintPath role.path text = palette.paint (role.piece text) := by
  unfold paintPath paint
  rw [Role.ofPath?_path]
  cases palette <;> rfl

/-- A piece without a role is never painted. -/
@[simp]
lemma paint_bare (palette : Palette) (text : String) : palette.paint (.bare text) = text := by
  cases palette <;> rfl

/-- A listing without lines is empty. -/
@[simp]
lemma render_nil (palette : Palette) : palette.render [] = "" :=
  rfl

/-- A listing begins with its first line. -/
@[simp]
lemma render_cons (palette : Palette) (line : Line) (lines : List Line) :
    palette.render (line :: lines) = palette.renderLine line ++ palette.render lines := by
  simp [render, String.join_cons]

/-- Listings one behind the other are one listing. -/
@[simp]
lemma render_append (palette : Palette) (lines others : List Line) :
    palette.render (lines ++ others) = palette.render lines ++ palette.render others := by
  simp [render, String.join_append]

/-- A listing with a line for each item is rendered item by item. -/
lemma render_map {α : Type} (palette : Palette) (items : List α) (line : α → Line) :
    palette.render (items.map line) =
      String.join (items.map fun item => palette.renderLine (line item)) := by
  rw [render, List.map_map]
  rfl

/-- A listing with any number of lines for each item is rendered item by item. -/
lemma render_flatMap {α : Type} (palette : Palette) (items : List α) (lines : α → List Line) :
    palette.render (items.flatMap lines) =
      String.join (items.map fun item => palette.render (lines item)) := by
  induction items with
  | nil => rfl
  | cons item items ih =>
    rw [List.flatMap_cons, render_append, ih, List.map_cons, String.join_cons]

end Palette

/-! ## Programs that write -/

/-- A program that writes text behind what has been written. -/
abbrev Writer := StateM String Unit

namespace Writer

/-- Writes text. -/
def write (text : String) : Writer :=
  modify (· ++ text)

/-- Writes text and the end of a line. -/
def writeLine (text : String) : Writer :=
  write (text ++ "\n")

/-- What has been written when a program is done that started with nothing. -/
def written (program : Writer) : String :=
  (program.run "").2

/-- A program writes a text behind whatever has been written before, and looks at none of it. -/
def Appends (program : Writer) (text : String) : Prop :=
  ∀ before, program.run before = ((), before ++ text)

/-- What a program appends is what it writes by itself. -/
lemma Appends.written_eq {program : Writer} {text : String} (h : program.Appends text) :
    program.written = text := by
  rw [written, h, String.empty_append]

/-- A program appends every text that is equal to the one it appends. -/
lemma Appends.of_eq {program : Writer} {text text' : String} (h : program.Appends text)
    (heq : text = text') : program.Appends text' :=
  heq ▸ h

/-- Writing appends the text. -/
lemma appends_write (text : String) : (write text).Appends text :=
  fun _ => rfl

/-- Writing a line appends the text and the end of the line. -/
lemma appends_writeLine (text : String) : (writeLine text).Appends (text ++ "\n") :=
  appends_write _

/-- A program that does nothing appends nothing. -/
lemma appends_pure : Appends (pure ()) "" := by
  intro before
  rw [String.append_empty]
  rfl

/-- Of two programs, the second one writes behind the first one. -/
lemma Appends.bind {first : Writer} {next : Unit → Writer} {text rest : String}
    (hfirst : first.Appends text) (hnext : (next ()).Appends rest) :
    Appends (first >>= next) (text ++ rest) := by
  intro before
  rw [StateT.run_bind, hfirst, ← String.append_assoc]
  exact hnext _

/-- A program that goes through items writes the texts of the items one behind the other. -/
lemma Appends.forM {α : Type} {items : List α} {step : α → Writer} {text : α → String}
    (h : ∀ item ∈ items, (step item).Appends (text item)) :
    Appends (items.forM step) (String.join (items.map text)) := by
  induction items with
  | nil => exact appends_pure
  | cons item items ih =>
    obtain ⟨hitem, hitems⟩ := List.forall_mem_cons.mp h
    rw [List.map_cons, String.join_cons]
    exact hitem.bind (ih hitems)

end Writer

open Writer

/-! ## The contents of a class file -/

namespace Contents

/-- Writes a heading. -/
def writeHeading (palette : Palette) (text : String) : Writer :=
  writeLine (palette.paintPath "heading" text)

/-- Writes the flags of a class or member. -/
def writeAccess (palette : Palette) (indent : String) (access : Access) : Writer :=
  writeLine (indent ++ "Access flags: " ++ palette.paintPath "access" access.text)

/-- Writes the line of a constant. -/
def writeConstant (palette : Palette) (index : Index) (constant : Constant) : Writer :=
  let value :=
    match constant with
    | .utf8 text => palette.paintPath "pool.val.string" (oneLine text)
    | other => palette.paintPath "pool.val" (Hex.pairs other.content)
  writeLine ("  " ++ palette.paintPath "pool.index" (toString index.toNat) ++ ": " ++
    palette.paintPath "pool.kind" constant.kind.name ++ " - " ++ value)

/-- Writes the operands of an instruction, if it has any. -/
def writeOperands (palette : Palette) (instruction : Instruction) : Writer :=
  if instruction.operands.isEmpty then
    pure ()
  else
    let path :=
      match instruction.switchTable? with
      | some _ => "opcode.immediate.switch"
      | none => "opcode.immediate"
    write (" " ++ palette.paintPath path (Hex.pairs instruction.operands))

/-- Writes the line of an instruction. -/
def writeInstruction (palette : Palette) (instruction : Instruction) : Writer := do
  write ("          " ++ palette.paintPath "opcode" instruction.opcode.mnemonic)
  writeOperands palette instruction
  writeLine ""

/-- Writes the body of a method. -/
def writeCode (palette : Palette) (code : Code) : Writer := do
  writeLine ("        Max stack size: " ++ toString code.maxStack.toNat)
  writeLine ("        Max local variables: " ++ toString code.maxLocals.toNat)
  writeLine ("        Exception handlers: " ++ toString code.handlers.length ++ " (not dumped)")
  writeLine ("        Attributes: " ++ toString code.attributes.length ++ " (not dumped)")
  writeLine "        Body:"
  code.instructions.forM (writeInstruction palette)

/-- Writes one attribute. -/
def writeAttribute (palette : Palette) (indent : String) : Attribute → Writer
  | .code _ name body => do
    writeLine (indent ++ name ++ ":")
    writeCode palette body
  | .raw _ name data => writeLine (indent ++ name ++ ": " ++ Hex.pairs data)

/-- Writes a list of attributes. -/
def writeAttributes (palette : Palette) (indent : String) (attributes : List Attribute) : Writer :=
  attributes.forM (writeAttribute palette indent)

/-- Writes a field or method. -/
def writeMember (palette : Palette) (name : String) (flags : Access) (descriptor : String)
    (attributes : List Attribute) : Writer := do
  writeLine ("  " ++ palette.paintPath "heading.member" name ++ ":")
  writeAccess palette "    " flags
  writeLine ("    Descriptor: " ++ palette.paintPath "descriptor" descriptor)
  writeLine "    Attributes:"
  writeAttributes palette "      " attributes

/-- Writes what stands before the constant pool. -/
def writeHead (palette : Palette) (file : ClassFile) : Writer := do
  writeLine (palette.paintPath "banner" "Generated by class-dump")
  writeLine ""
  writeLine ("Class name: " ++ palette.paintPath "name.class" file.name)
  writeLine ("Superclass name: " ++ palette.paintPath "name.class" file.superName)
  writeLine ("Class major/minor version: " ++ file.version.text)

/-- Writes a heading, and the items below it. -/
def writeSection {α : Type} (palette : Palette) (text : String) (items : List α)
    (writeItem : α → Writer) : Writer := do
  writeHeading palette text
  items.forM writeItem

end Contents

open Contents in
/-- Writes the listing of a class file in one run. -/
def ClassFile.writeContents (file : ClassFile) (palette : Palette) : Writer := do
  writeHead palette file
  writeLine ""
  writeSection palette "Constant pool dump:" file.pool.entries fun entry =>
    writeConstant palette entry.1 entry.2
  writeLine ""
  writeAccess palette "" file.access
  writeLine ""
  writeSection palette "Interfaces:" file.interfaces fun name =>
    writeLine ("  " ++ palette.paintPath "name" name)
  writeLine ""
  writeSection palette "Fields:" file.fields fun field =>
    writeMember palette field.name field.access field.descriptor field.attributes
  writeLine ""
  writeSection palette "Methods:" file.methods fun method =>
    writeMember palette method.name method.access method.descriptor method.attributes
  writeLine ""
  writeSection palette "Attributes:" file.attributes (writeAttribute palette "  ")

namespace Outline

/-- Writes the line that names the package, if there is one, and an empty line. -/
def writePackage (file : ClassFile) : Writer :=
  match file.package? with
  | some package => do
    writeLine ("package " ++ InternalName.dotted package ++ ";")
    writeLine ""
  | none => pure ()

/-- Writes the modifiers of a class, each with a blank behind it. -/
def writeModifiers (palette : Palette) (file : ClassFile) : Writer :=
  file.access.modifiers.forM fun flag => write (palette.paintPath "access" flag.keyword ++ " ")

/-- Writes the word `class`, unless the modifiers say what the class is. -/
def writeKeyword (file : ClassFile) : Writer :=
  if !file.access.contains .accEnum && !file.access.contains .accInterface then
    write "class "
  else
    pure ()

end Outline

open Outline in
/-- Writes the outline of a class in one run. -/
def ClassFile.writeOutline (file : ClassFile) (palette : Palette) : Writer := do
  writeLine (palette.paintPath "comment" "// generated by class-dump")
  writePackage file
  writeModifiers palette file
  writeKeyword file
  writeLine (palette.paintPath "name.class" file.simpleName ++ " \x7b")
  writeLine ("    " ++ palette.paintPath "comment" "// decompilation not implemented")
  writeLine "\x7d"

/-! ## One run writes the lines of a view -/

namespace Palette

/-- The paths by which the roles of a view are asked for are the paths of these roles. -/
lemma paintPath_roles (palette : Palette) (text : String) :
    palette.paintPath "banner" text = palette.paint (Role.banner.piece text) ∧
    palette.paintPath "heading" text = palette.paint (Role.heading.piece text) ∧
    palette.paintPath "heading.member" text = palette.paint (Role.memberHeading.piece text) ∧
    palette.paintPath "name" text = palette.paint (Role.name.piece text) ∧
    palette.paintPath "name.class" text = palette.paint (Role.className.piece text) ∧
    palette.paintPath "pool.index" text = palette.paint (Role.poolIndex.piece text) ∧
    palette.paintPath "pool.kind" text = palette.paint (Role.poolKind.piece text) ∧
    palette.paintPath "pool.val" text = palette.paint (Role.poolValue.piece text) ∧
    palette.paintPath "pool.val.string" text = palette.paint (Role.poolText.piece text) ∧
    palette.paintPath "access" text = palette.paint (Role.access.piece text) ∧
    palette.paintPath "descriptor" text = palette.paint (Role.descriptor.piece text) ∧
    palette.paintPath "opcode" text = palette.paint (Role.opcode.piece text) ∧
    palette.paintPath "opcode.immediate" text = palette.paint (Role.immediate.piece text) ∧
    palette.paintPath "opcode.immediate.switch" text =
      palette.paint (Role.switchImmediate.piece text) ∧
    palette.paintPath "comment" text = palette.paint (Role.comment.piece text) := by
  have hpaths : ["banner", "heading", "heading.member", "name", "name.class", "pool.index",
      "pool.kind", "pool.val", "pool.val.string", "access", "descriptor", "opcode",
      "opcode.immediate", "opcode.immediate.switch", "comment"] = Role.all.map Role.path := by
    decide
  simp only [Role.all, List.map_cons, List.cons.injEq] at hpaths
  simp only [← paintPath_path]
  simp [hpaths]

end Palette

/-- A text that is made of the pieces of a line, each of them painted, is written as that line. -/
lemma Writer.appends_renderLine {palette : Palette} {line : Line} {text : String}
    (h : text = String.join (line.map palette.paint)) :
    (writeLine text).Appends (palette.renderLine line) := by
  rw [h]
  exact appends_writeLine _

namespace Contents

/-- A heading is written as its line. -/
lemma appends_writeHeading (palette : Palette) (text : String) :
    (writeHeading palette text).Appends (palette.renderLine (heading text)) := by
  apply appends_renderLine
  simp [heading, Palette.paintPath_roles]

/-- Flags are written as their line. -/
lemma appends_writeAccess (palette : Palette) (indent : String) (flags : Access) :
    (writeAccess palette indent flags).Appends (palette.renderLine (access indent flags)) := by
  apply appends_renderLine
  simp [access, Palette.paintPath_roles, String.append_assoc]

/-- A constant is written as its line. -/
lemma appends_writeConstant (palette : Palette) (index : Index) (value : Constant) :
    (writeConstant palette index value).Appends (palette.renderLine (constant index value)) := by
  apply appends_renderLine
  cases value <;>
    simp [constant, constantValue, Palette.paintPath_roles, String.append_assoc]

/-- A heading and items with any number of lines are written as these lines. -/
lemma appends_writeSection {α : Type} (palette : Palette) (text : String) (items : List α)
    {writeItem : α → Writer} {lines : α → List Line}
    (h : ∀ item, (writeItem item).Appends (palette.render (lines item))) :
    (writeSection palette text items writeItem).Appends
      (palette.render (heading text :: items.flatMap lines)) := by
  rw [Palette.render_cons, Palette.render_flatMap]
  exact (appends_writeHeading palette text).bind (Appends.forM fun item _ => h item)

/-- A heading and items with one line each are written as these lines. -/
lemma appends_writeSection_map {α : Type} (palette : Palette) (text : String) (items : List α)
    {writeItem : α → Writer} {line : α → Line}
    (h : ∀ item, (writeItem item).Appends (palette.renderLine (line item))) :
    (writeSection palette text items writeItem).Appends
      (palette.render (heading text :: items.map line)) := by
  rw [List.map_eq_flatMap]
  exact appends_writeSection palette text items fun item => (h item).of_eq (by simp)

/-- An interface is written as its line. -/
lemma appends_interface (palette : Palette) (name : String) :
    (writeLine ("  " ++ palette.paintPath "name" name)).Appends
      (palette.renderLine (interface name)) := by
  apply appends_renderLine
  simp [interface, Palette.paintPath_roles]

/-- What stands before the constant pool is written as its lines. -/
lemma appends_writeHead (palette : Palette) (file : ClassFile) :
    (writeHead palette file).Appends (palette.render (head file)) := by
  refine ((appends_writeLine _).bind <| (appends_writeLine _).bind <| (appends_writeLine _).bind <|
    (appends_writeLine _).bind (appends_writeLine _)).of_eq ?_
  -- Literals are left as they stand on either side, or those at the seam of two lines would merge.
  simp [-String.reduceAppend, head, gap, Palette.renderLine, Palette.paintPath_roles,
    String.append_assoc]

/-- An instruction is written as its line, with operands or without. -/
lemma appends_writeInstruction (palette : Palette) (found : Instruction) :
    (writeInstruction palette found).Appends (palette.renderLine (instruction found)) := by
  unfold writeInstruction writeOperands instruction
  split
  · refine ((appends_write _).bind (appends_pure.bind (appends_writeLine _))).of_eq ?_
    simp [Palette.renderLine, Palette.paintPath_roles, String.append_assoc]
  · refine ((appends_write _).bind ((appends_write _).bind (appends_writeLine _))).of_eq ?_
    cases htable : found.switchTable? <;>
      simp [htable, operands, Palette.renderLine, Palette.paintPath_roles, String.append_assoc]

/-- The body of a method is written as its lines. -/
lemma appends_writeCode (palette : Palette) (body : Code) :
    (writeCode palette body).Appends (palette.render (code body)) := by
  have hlines := Appends.forM fun found (_ : found ∈ body.instructions) =>
    appends_writeInstruction palette found
  refine ((appends_writeLine _).bind ((appends_writeLine _).bind ((appends_writeLine _).bind
    ((appends_writeLine _).bind ((appends_writeLine _).bind hlines))))).of_eq ?_
  rw [code, Palette.render_append, Palette.render_map]
  simp [-String.reduceAppend, codeHead, Palette.renderLine, String.append_assoc]

/-- An attribute is written as its lines. -/
lemma appends_writeAttribute (palette : Palette) (indent : String) (found : Attribute) :
    (writeAttribute palette indent found).Appends
      (palette.render (oneAttribute indent found)) := by
  cases found with
  | raw _ name data =>
    refine (appends_writeLine _).of_eq ?_
    simp [oneAttribute, Palette.renderLine]
  | code _ name body =>
    refine ((appends_writeLine _).bind (appends_writeCode palette body)).of_eq ?_
    simp [oneAttribute, Palette.renderLine]

/-- A list of attributes is written as its lines. -/
lemma appends_writeAttributes (palette : Palette) (indent : String) (found : List Attribute) :
    (writeAttributes palette indent found).Appends
      (palette.render (attributes indent found)) := by
  rw [attributes, Palette.render_flatMap]
  exact Appends.forM fun one _ => appends_writeAttribute palette indent one

/-- A field or method is written as its lines. -/
lemma appends_writeMember (palette : Palette) (name : String) (flags : Access)
    (descriptor : String) (found : List Attribute) :
    (writeMember palette name flags descriptor found).Appends
      (palette.render (memberHead name flags descriptor ++ attributes "      " found)) := by
  refine ((appends_writeLine _).bind ((appends_writeAccess palette _ _).bind
    ((appends_writeLine _).bind ((appends_writeLine _).bind
      (appends_writeAttributes palette _ _))))).of_eq ?_
  simp [memberHead, Palette.renderLine, Palette.paintPath_roles, String.append_assoc]

/-- The listing of a class file is written as its lines. -/
lemma appends_writeContents (palette : Palette) (file : ClassFile) :
    (file.writeContents palette).Appends (palette.render (lines file)) := by
  have hgap : (writeLine "").Appends (palette.renderLine gap) := appends_writeLine _
  have hpool := appends_writeSection_map palette "Constant pool dump:" file.pool.entries
    fun entry => appends_writeConstant palette entry.1 entry.2
  have haccess := appends_writeAccess palette "" file.access
  have hinterfaces := appends_writeSection_map palette "Interfaces:" file.interfaces
    (appends_interface palette)
  have hfields := appends_writeSection palette "Fields:" file.fields fun field =>
    appends_writeMember palette field.name field.access field.descriptor field.attributes
  have hmethods := appends_writeSection palette "Methods:" file.methods fun method =>
    appends_writeMember palette method.name method.access method.descriptor method.attributes
  have hattributes := appends_writeSection palette "Attributes:" file.attributes
    (appends_writeAttribute palette "  ")
  -- Each part but the first comes with the gap in front of it, as the run writes them.
  have hlines : lines file = head file ++ gap :: pool file.pool ++
      gap :: [access "" file.access] ++
      gap :: (heading "Interfaces:" :: file.interfaces.map interface) ++
      gap :: (heading "Fields:" :: file.fields.flatMap field) ++
      gap :: (heading "Methods:" :: file.methods.flatMap method) ++
      gap :: (heading "Attributes:" :: attributes "  " file.attributes) := by
    simp [lines, parts, List.intercalate]
  refine ((appends_writeHead palette file).bind <| hgap.bind <| hpool.bind <| hgap.bind <|
    haccess.bind <| hgap.bind <| hinterfaces.bind <| hgap.bind <| hfields.bind <| hgap.bind <|
    hmethods.bind <| hgap.bind hattributes).of_eq ?_
  simp only [hlines, Palette.render_append, Palette.render_cons, Palette.render_nil,
    String.append_empty, String.append_assoc, pool]
  rfl

end Contents

namespace Outline

/-- The package is written as its lines. -/
lemma appends_writePackage (palette : Palette) (file : ClassFile) :
    (writePackage file).Appends (palette.render (package file)) := by
  cases hpackage : file.package? with
  | none =>
    rw [writePackage, package, hpackage]
    exact appends_pure
  | some found =>
    rw [writePackage, package, hpackage]
    refine ((appends_writeLine _).bind (appends_writeLine _)).of_eq ?_
    simp [-String.reduceAppend, Palette.renderLine]

/-- The modifiers are written as their pieces of the declaration. -/
lemma appends_writeModifiers (palette : Palette) (file : ClassFile) :
    (writeModifiers palette file).Appends
      (String.join ((modifiers file).map palette.paint)) := by
  refine (Appends.forM fun flag _ => appends_write _).of_eq ?_
  rw [modifiers]
  -- A modifier is two pieces of the line, and one text of the run.
  induction file.access.modifiers with
  | nil => rfl
  | cons flag flags ih =>
    rw [List.flatMap_cons, List.map_append, String.join_append, ← ih, List.map_cons,
      String.join_cons]
    simp [Palette.paintPath_roles]

/-- The word `class` is written as its piece of the declaration. -/
lemma appends_writeKeyword (palette : Palette) (file : ClassFile) :
    (writeKeyword file).Appends (String.join ((keyword file).map palette.paint)) := by
  unfold writeKeyword keyword
  cases henum : file.access.contains .accEnum <;>
    cases hinterface : file.access.contains .accInterface <;>
    simp [Access.containsAny, henum, hinterface, appends_write, appends_pure]

/-- The outline of a class is written as its lines. -/
lemma appends_writeOutline (palette : Palette) (file : ClassFile) :
    (file.writeOutline palette).Appends (palette.render (lines file)) := by
  refine ((appends_writeLine _).bind <| (appends_writePackage palette file).bind <|
    (appends_writeModifiers palette file).bind <| (appends_writeKeyword palette file).bind <|
    (appends_writeLine _).bind <| (appends_writeLine _).bind (appends_writeLine _)).of_eq ?_
  simp [-String.reduceAppend, lines, declaration, name, body, Palette.renderLine,
    Palette.paintPath_roles, String.append_assoc]

end Outline

/-! ## Two runs -/

namespace ClassFile

/-- Writes a view in one run. -/
def write (file : ClassFile) (palette : Palette) : View → Writer
  | .contents => file.writeContents palette
  | .outline => file.writeOutline palette

/-- **One run writes what is rendered from lines.** -/
theorem written_eq_shown (file : ClassFile) (palette : Palette) (view : View) :
    (file.write palette view).written = file.shown palette view := by
  cases view with
  | contents => exact (Contents.appends_writeContents palette file).written_eq
  | outline => exact (Outline.appends_writeOutline palette file).written_eq

/-- **The palette does not lead two runs apart.** What is written with colour can be cut into the
same pieces as what is written without, each of which is painted or the same; and if no text of the
class file has escapes, the first without its escape sequences is the second.

**Proof sketch.** Either run writes the lines of the view as its palette renders them, and the lines
are the same for both. -/
theorem written_coloured (file : ClassFile) (view : View) :
    (∃ texts painted, String.join texts = (file.write .plain view).written ∧
      String.join painted = (file.write .coloured view).written ∧
      List.Forall₂ Painted texts painted) ∧
    ((∀ text ∈ file.texts, EscapeFree text) →
      withoutSequences (file.write .coloured view).written.toList =
        (file.write .plain view).written.toList) := by
  simp only [written_eq_shown, shown_eq_render]
  refine ⟨?_, fun h => withoutSequences_render (escapeFree_viewLines view h)⟩
  simp only [render_eq_join]
  exact ⟨_, _, rfl, rfl, forall₂_painted _⟩

end ClassFile

end ClassFormat
