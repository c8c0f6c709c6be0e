import ClassFormat.Descriptor.FieldType

/-!
# Method signatures

The type of a method is written as its parameter types in parentheses and its result type behind
them, as in `(I[Ljava/lang/String;)V`.

## Main definitions

* `ClassFormat.Signature` — parameter types and result type.
* `ClassFormat.Signature.encode` — the text of a signature.
* `ClassFormat.Signature.parse` — reads a text that is a signature as a whole.
* `ClassFormat.Signature.text` — a signature as the outline writes it.
-/

namespace ClassFormat

/-- The types of a method. -/
structure Signature where
  /-- The types of the parameters, in order. -/
  params : List TypeDescriptor
  /-- The type of the result; `void` for a method that returns nothing. -/
  result : TypeDescriptor
  deriving DecidableEq, Repr

namespace Signature

/-- The text of a signature. -/
def encode (signature : Signature) : List Char :=
  '(' :: signature.params.flatMap TypeDescriptor.encode ++ ')' :: signature.result.encode

/-- Reads parameter types up to the closing parenthesis, behind the types `done`, which are held in
reverse. No parameter is void. -/
def readParams? (done : List TypeDescriptor) (text : List Char) :
    Option (List TypeDescriptor × List Char) :=
  match text with
  | ')' :: rest => some (done.reverse, rest)
  | text =>
    match h : TypeDescriptor.read? text with
    | some (type, rest) =>
      have := TypeDescriptor.length_lt_of_read? h
      if type.isVoid then none else readParams? (type :: done) rest
    | none => none
termination_by text.length

/-- Reads a signature from the characters of a whole text. -/
def read? : List Char → Option Signature
  | '(' :: text =>
    match readParams? [] text with
    | some (params, rest) =>
      match TypeDescriptor.read? rest with
      | some (result, []) => some ⟨params, result⟩
      | _ => none
    | none => none
  | _ => none

/-- Reads a text that is a signature as a whole. -/
def parse (text : String) : Except Fault Signature :=
  match read? text.toList with
  | some signature => .ok signature
  | none => .error (.invalidDescriptor text)

/-- A text that is refused is named as a whole. -/
theorem eq_of_parse_error {text : String} {fault : Fault} (h : parse text = .error fault) :
    fault = .invalidDescriptor text := by
  unfold parse at h
  split at h <;> cases h
  rfl

/-- A signature as source code would write it, without the method's name. -/
def text (signature : Signature) : String :=
  signature.result.text ++ " (" ++
    ", ".intercalate (signature.params.map TypeDescriptor.text) ++ ")"

end Signature

end ClassFormat
