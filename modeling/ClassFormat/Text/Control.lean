import ClassFormat.Bytes.Hex

/-!
# Text that steers no terminal

Some control characters make a terminal move, ring or change its colours. A log shows them by their
codes, so that a name chosen by someone else cannot do that. The controls that lay out text, such as
the line end and the tab, are left as they are.

## Main definitions

* `ClassFormat.Control.escape` — one character as the log shows it.
* `ClassFormat.Control.disarm` — a text as the log shows it.
-/

namespace ClassFormat.Control

/-- The characters of a single byte that steer a terminal: bell, backspace, form feed, escape and
delete. -/
def single : List Char :=
  ['\x07', '\x08', '\x0c', '\x1b', '\x7f']

/-- Whether a character is one of the second set of controls, which terminals of eight bits obey. -/
def IsSecond (c : Char) : Prop :=
  0x80 ≤ c.toNat ∧ c.toNat ≤ 0x9F

/-- Standing in the second range of control characters is a matter of comparisons. -/
instance (c : Char) : Decidable (IsSecond c) :=
  inferInstanceAs (Decidable (_ ∧ _))

/-- A character as the log shows it: one that steers a terminal by its code, in two digits behind
`\\x` or between braces behind `\\u`. -/
def escape (c : Char) : List Char :=
  if c ∈ single then ['\\', 'x'] ++ (Hex.digits c.toNat).leftpad 2 '0'
  else if IsSecond c then ['\\', 'u', '\x7b'] ++ Hex.digits c.toNat ++ ['\x7d']
  else [c]

/-- A text as the log shows it. -/
def disarm (text : String) : String :=
  String.ofList (text.toList.flatMap escape)

end ClassFormat.Control
