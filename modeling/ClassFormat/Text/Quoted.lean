import ClassFormat.Bytes.Hex
import ClassFormat.Text.Printable

/-!
# Quoted text

A message that complains about a text shows it in double quotes, so that its ends and its invisible
characters can be seen.

## Main definitions

* `ClassFormat.Quoted.escape` — one character as it stands between the quotes.
* `ClassFormat.Quoted.quote` — a text in quotes.
-/

namespace ClassFormat.Quoted

/-- A character by its hexadecimal code point between `\\u` and braces. -/
def escapeCode (c : Char) : List Char :=
  ['\\', 'u', '\x7b'] ++ Hex.digits c.toNat ++ ['\x7d']

/-- A character as it stands between the quotes: the quote, the backslash, the line and tab controls
and NUL behind a backslash, any other character without a form of its own by its code point. -/
def escape (c : Char) : List Char :=
  match c with
  | '"' => ['\\', '"']
  | '\\' => ['\\', '\\']
  | '\n' => ['\\', 'n']
  | '\r' => ['\\', 'r']
  | '\t' => ['\\', 't']
  | '\x00' => ['\\', '0']
  | c => if IsShown c then [c] else escapeCode c

/-- A text in double quotes. -/
def quote (text : String) : String :=
  String.ofList (['"'] ++ text.toList.flatMap escape ++ ['"'])

end ClassFormat.Quoted
