import ClassFormat.ClassFile.Basic
import ClassFormat.Listing.Palette

/-!
# The outline of a class

The declaration of a class as source code would write it: the package, the modifiers and the name,
with an empty body.

## Main definitions

* `ClassFormat.Outline.lines`, `ClassFormat.ClassFile.outline` — the outline, in lines and as text.
-/

namespace ClassFormat

namespace Outline

/-- The line that names the package, and an empty one; a class without a package has neither. -/
def package (file : ClassFile) : List Line :=
  match file.package? with
  | some package => [[.bare ("package " ++ InternalName.dotted package ++ ";")], []]
  | none => []

/-- The modifiers of a class, each with a blank behind it. -/
def modifiers (file : ClassFile) : Line :=
  file.access.modifiers.flatMap fun flag => [Role.access.piece flag.keyword, .bare " "]

/-- The word `class`, unless the modifiers say what the class is. -/
def keyword (file : ClassFile) : Line :=
  if file.access.containsAny [.accEnum, .accInterface] then [] else [.bare "class "]

/-- The name of a class, and the beginning of its body. -/
def name (file : ClassFile) : Line :=
  [Role.className.piece file.simpleName, .bare " \x7b"]

/-- The declaration of a class. -/
def declaration (file : ClassFile) : Line :=
  modifiers file ++ keyword file ++ name file

/-- The body of a class. -/
def body : List Line :=
  [[.bare "    ", Role.comment.piece "// decompilation not implemented"], [.bare "\x7d"]]

/-- The outline of a class. -/
def lines (file : ClassFile) : List Line :=
  [Role.comment.piece "// generated by class-dump"] :: package file ++ declaration file :: body

end Outline

/-- The outline of a class as text. -/
def ClassFile.outline (file : ClassFile) (palette : Palette) : String :=
  palette.render (Outline.lines file)

end ClassFormat
