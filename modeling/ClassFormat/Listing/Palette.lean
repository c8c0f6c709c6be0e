/-!
# Styled text

A listing is made of lines, and a line of pieces of text, some of which have a role such as a
heading or a name. With colour, the pieces of a role are put between the escape codes of the role's
style; without, every piece is written as it is.

## Main definitions

* `ClassFormat.Style` — bold, dimmed or underlined text and its colour, with the escape codes for
  it.
* `ClassFormat.Role` — the roles, with the path under which each is known.
* `ClassFormat.Role.style` — the style of a role, which may come from the role above it.
* `ClassFormat.Palette` — whether and how roles are shown.
* `ClassFormat.Piece`, `ClassFormat.Line` — text with a role, and a line of such pieces.
* `ClassFormat.Palette.paint`, `ClassFormat.Palette.render` — a piece and a whole listing as text.

## Main results

* `ClassFormat.Role.style_of_entry` — which roles inherit their styles, and from where.

## Design

How a style is shown on a terminal is left to the library `ansi_term`, which is not part of this
development. `Colour.code`, `Style.codes` and `Style.apply` write down what that library documents:
the codes of bold, dimmed and underlined text, then the code of the colour, between `ESC [` and `m`,
the text, and a reset; a style without any of these is not shown at all. Results on colour rest on
these three definitions and on nothing else about terminals.
-/

namespace ClassFormat

/-- The colours of text. -/
inductive Colour where
  | green
  | yellow
  | blue
  | purple
  | cyan
  deriving DecidableEq, Repr

/-- The escape code of a colour. -/
def Colour.code : Colour → String
  | green => "32"
  | yellow => "33"
  | blue => "34"
  | purple => "35"
  | cyan => "36"

/-- How text looks. -/
structure Style where
  bold : Bool := false
  dimmed : Bool := false
  underlined : Bool := false
  colour : Option Colour := none
  deriving DecidableEq, Repr

/-- The escape codes of a style, in increasing order. -/
def Style.codes (style : Style) : List String :=
  (if style.bold then ["1"] else []) ++ (if style.dimmed then ["2"] else []) ++
    (if style.underlined then ["4"] else []) ++ (style.colour.map Colour.code).toList

/-- Puts text between the escape codes of a style; a style without any leaves it as it is. -/
def Style.apply (style : Style) (text : String) : String :=
  match style.codes with
  | [] => text
  | codes => "\x1b[" ++ ";".intercalate codes ++ "m" ++ text ++ "\x1b[0m"

/-- What a style changes in another one. -/
structure Overrides where
  /-- The colour, which can also be taken away. -/
  colour : Option (Option Colour) := none
  bold : Option Bool := none
  underlined : Option Bool := none
  deriving DecidableEq, Repr

/-- A style with changes made to it. -/
def Overrides.apply (overrides : Overrides) (style : Style) : Style :=
  { style with
    colour := overrides.colour.getD style.colour
    bold := overrides.bold.getD style.bold
    underlined := overrides.underlined.getD style.underlined }

/-- What is said about a style: all of it, or what it changes in the style above it. -/
inductive StyleEntry where
  | base (style : Style)
  | inherit (overrides : Overrides)
  deriving DecidableEq, Repr

/-- What a piece of text is. -/
inductive Role where
  | banner
  | heading
  | memberHeading
  | name
  | className
  | poolIndex
  | poolKind
  | poolValue
  | poolText
  | access
  | descriptor
  | opcode
  | immediate
  | switchImmediate
  | comment
  deriving DecidableEq, Repr

namespace Role

/-- Every role. -/
def all : List Role :=
  [banner, heading, memberHeading, name, className, poolIndex, poolKind, poolValue,
    poolText, access, descriptor, opcode, immediate, switchImmediate, comment]

/-- The components of a role's path, outermost first. A role below another one has one more. -/
def components : Role → List String
  | banner => ["banner"]
  | heading => ["heading"]
  | memberHeading => ["heading", "member"]
  | name => ["name"]
  | className => ["name", "class"]
  | poolIndex => ["pool", "index"]
  | poolKind => ["pool", "kind"]
  | poolValue => ["pool", "val"]
  | poolText => ["pool", "val", "string"]
  | access => ["access"]
  | descriptor => ["descriptor"]
  | opcode => ["opcode"]
  | immediate => ["opcode", "immediate"]
  | switchImmediate => ["opcode", "immediate", "switch"]
  | comment => ["comment"]

/-- The path under which a role is known: its components with dots between them. -/
def path (role : Role) : String :=
  ".".intercalate role.components

/-- The role of a path. -/
def ofPath? (path : String) : Option Role :=
  all.find? fun role => role.path == path

/-- What is said about the style of a role. -/
def entry : Role → StyleEntry
  | banner => .base { colour := some .cyan }
  | heading => .base { bold := true }
  | memberHeading => .inherit { colour := some (some .blue) }
  | name => .base { colour := some .green }
  | className => .inherit { bold := some true }
  | poolIndex => .base { bold := true, colour := some .cyan }
  | poolKind => .base { colour := some .yellow }
  | poolValue => .base {}
  | poolText => .base { colour := some .green }
  | access => .base { colour := some .yellow }
  | descriptor => .base { colour := some .purple }
  | opcode => .base { colour := some .cyan }
  | immediate => .base { colour := some .yellow }
  | switchImmediate => .inherit { underlined := some true }
  | comment => .base { dimmed := true, colour := some .cyan }

/-- The style of the role whose path has these components, innermost first. A role that inherits its
style takes the one of the path without the innermost component; if there is no role with that path,
it has no style. -/
def styleAt? : List String → Option Style
  | [] => none
  | component :: above =>
    match all.find? fun role => role.components == (component :: above).reverse with
    | none => none
    | some role =>
      match role.entry with
      | .base style => some style
      | .inherit overrides => (styleAt? above).map overrides.apply

/-- The style of a role. -/
def style (role : Role) : Style :=
  (styleAt? role.components.reverse).getD {}

/-- **Roles inherit styles from the roles above them.** A role has the style that is its own, or
that of the role whose path is one component shorter, with its own changes. -/
theorem style_of_entry (role : Role) :
    (∀ style, role.entry = .base style → role.style = style) ∧
    ∀ overrides, role.entry = .inherit overrides →
      ∃ above : Role, above.components = role.components.dropLast ∧
        role.style = overrides.apply above.style := by
  constructor
  · rintro style hentry
    cases role <;> cases hentry <;> rfl
  · rintro overrides hentry
    cases role <;> cases hentry
    · exact ⟨heading, rfl, rfl⟩
    · exact ⟨name, rfl, rfl⟩
    · exact ⟨immediate, rfl, rfl⟩

end Role

/-- Text with the role that it has, if any. -/
structure Piece where
  role : Option Role
  text : String
  deriving DecidableEq, Repr

/-- A line of a listing. -/
abbrev Line := List Piece

/-- Text without a role. -/
def Piece.bare (text : String) : Piece where
  role := none
  text := text

/-- Text with a role. -/
def Role.piece (role : Role) (text : String) : Piece where
  role := some role
  text := text

/-- Whether roles are shown by their styles. -/
inductive Palette where
  | plain
  | coloured
  deriving DecidableEq, Repr

namespace Palette

/-- The palette with or without colour. -/
def ofColour (colour : Bool) : Palette :=
  if colour then coloured else plain

/-- A piece as text. -/
def paint (palette : Palette) (piece : Piece) : String :=
  match palette, piece.role with
  | coloured, some role => role.style.apply piece.text
  | _, _ => piece.text

/-- A line as text, with its end. -/
def renderLine (palette : Palette) (line : Line) : String :=
  String.join (line.map palette.paint) ++ "\n"

/-- A listing as text. -/
def render (palette : Palette) (lines : List Line) : String :=
  String.join (lines.map palette.renderLine)

end Palette

end ClassFormat
