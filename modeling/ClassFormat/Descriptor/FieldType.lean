import ClassFormat.Descriptor.Name
import ClassFormat.Fault

/-!
# Type descriptors

The type of a field is written as a short text: `I` for an integer, `[[J` for an array of arrays of
long integers, `Ljava/util/List;` for a class.

## Main definitions

* `ClassFormat.TypeDescriptor` — a number of array dimensions over a base type.
* `ClassFormat.TypeDescriptor.encode` — the text of a type.
* `ClassFormat.TypeDescriptor.read?` — reads a type off the front of a text.
* `ClassFormat.TypeDescriptor.parse` — reads a text that is a type as a whole.
* `ClassFormat.TypeDescriptor.text` — a type as source code writes it.

## Main results

* `ClassFormat.TypeDescriptor.length_lt_of_read?` — reading a type uses up some of the text.
-/

namespace ClassFormat

/-- The primitive types. -/
inductive Primitive where
  | byte
  | char
  | double
  | float
  | int
  | long
  | short
  | boolean
  deriving DecidableEq, Repr

namespace Primitive

/-- Every primitive type. -/
def all : List Primitive :=
  [byte, char, double, float, int, long, short, boolean]

/-- The letter of a primitive type. -/
def letter : Primitive → Char
  | byte => 'B'
  | char => 'C'
  | double => 'D'
  | float => 'F'
  | int => 'I'
  | long => 'J'
  | short => 'S'
  | boolean => 'Z'

/-- The keyword of a primitive type. -/
def keyword : Primitive → String
  | byte => "byte"
  | char => "char"
  | double => "double"
  | float => "float"
  | int => "int"
  | long => "long"
  | short => "short"
  | boolean => "boolean"

/-- The primitive type of a letter. -/
def ofLetter? (letter : Char) : Option Primitive :=
  all.find? fun primitive => primitive.letter == letter

end Primitive

/-- What an array is made of in the end, and what anything else is. -/
inductive BaseType where
  | primitive (primitive : Primitive)
  /-- No value; only for the result of a method. -/
  | void
  /-- A class, by its internal name. -/
  | object (name : String)
  deriving DecidableEq, Repr

/-- A type. -/
structure TypeDescriptor where
  /-- How often `array of` applies to the base type. -/
  dimensions : Nat
  /-- The type under all array dimensions. -/
  base : BaseType
  deriving DecidableEq, Repr

namespace TypeDescriptor

/-- The text of a base type. -/
def encodeBase : BaseType → List Char
  | .primitive primitive => [primitive.letter]
  | .void => ['V']
  | .object name => 'L' :: name.toList ++ [';']

/-- The text of a type. -/
def encode (type : TypeDescriptor) : List Char :=
  List.replicate type.dimensions '[' ++ encodeBase type.base

/-- Reads a base type under `dimensions` array dimensions off the front of a text. There are no
arrays of nothing, and a class has a name. -/
def readBase? (dimensions : Nat) : List Char → Option (BaseType × List Char)
  | [] => none
  | 'V' :: rest => if dimensions = 0 then some (.void, rest) else none
  | 'L' :: rest =>
    let name := rest.takeWhile (· ≠ ';')
    match rest.dropWhile (· ≠ ';') with
    | [] => none
    | _ :: rest => if name.isEmpty then none else some (.object (String.ofList name), rest)
  | letter :: rest => (Primitive.ofLetter? letter).map fun primitive => (.primitive primitive, rest)

/-- Reads a type off the front of a text. -/
def read? (text : List Char) : Option (TypeDescriptor × List Char) :=
  let dimensions := (text.takeWhile (· = '[')).length
  (readBase? dimensions (text.dropWhile (· = '['))).map
    fun (base, rest) => (⟨dimensions, base⟩, rest)

/-- Reads a text that is a type as a whole. -/
def parse (text : String) : Except Fault TypeDescriptor :=
  match read? text.toList with
  | some (type, []) => .ok type
  | _ => .error (.invalidDescriptor text)

/-- A text that is refused is named as a whole. -/
theorem eq_of_parse_error {text : String} {fault : Fault} (h : parse text = .error fault) :
    fault = .invalidDescriptor text := by
  unfold parse at h
  split at h <;> cases h
  rfl

/-- Whether a type is the absence of a value. -/
def isVoid (type : TypeDescriptor) : Bool :=
  type.base = .void

/-! ## Source code -/

/-- The name of the base type in source code: its keyword, or the class without its package. -/
def baseName (type : TypeDescriptor) : String :=
  match type.base with
  | .primitive primitive => primitive.keyword
  | .void => "void"
  | .object name => InternalName.simpleName name

/-- The internal name of the class under all array dimensions. -/
def object? (type : TypeDescriptor) : Option String :=
  match type.base with
  | .object name => some name
  | _ => none

/-- What source code has to import in order to use the type's name. -/
def importPath? (type : TypeDescriptor) : Option String :=
  type.object?.bind InternalName.importPath?

/-- A type as source code writes it. -/
def text (type : TypeDescriptor) : String :=
  type.baseName ++ String.join (List.replicate type.dimensions "[]")

/-! ## Reading uses up text -/

/-- Reading a base type uses up at least its letter. -/
theorem length_lt_of_readBase? {dimensions : Nat} {text rest : List Char} {base : BaseType}
    (h : readBase? dimensions text = some (base, rest)) : rest.length < text.length := by
  unfold readBase? at h
  split at h
  · cases h
  · split at h
    · cases h; simp
    · cases h
  · next tail =>
    have hle := (List.dropWhile_sublist (fun c => decide (c ≠ ';')) (l := tail)).length_le
    split at h
    · cases h
    · next first after hdrop =>
      rw [hdrop, List.length_cons] at hle
      dsimp only at h
      split at h
      · cases h
      · cases h
        rw [List.length_cons]
        omega
  · next letter tail _ _ =>
    obtain ⟨primitive, _, heq⟩ := Option.map_eq_some_iff.mp h
    cases heq
    simp

/-- Reading a type uses up at least one character. -/
theorem length_lt_of_read? {text rest : List Char} {type : TypeDescriptor}
    (h : read? text = some (type, rest)) : rest.length < text.length := by
  obtain ⟨⟨base, tail⟩, hbase, heq⟩ := Option.map_eq_some_iff.mp h
  cases heq
  have hlt := length_lt_of_readBase? hbase
  have hle := (List.dropWhile_sublist (fun c => decide (c = '[')) (l := text)).length_le
  omega

end TypeDescriptor

end ClassFormat
