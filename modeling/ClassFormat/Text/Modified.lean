import ClassFormat.Bytes.BigEndian
import ClassFormat.Text.CodeUnit

/-!
# Modified UTF-8

The text of a constant is stored as a string of 16-bit units, each of which takes one to three
bytes: `01..7F` alone, `C0..DF` with one continuation byte, `E0..EF` with two. NUL is written in two
bytes, a supplementary character as its two surrogates, and four-byte sequences do not occur.

## Main definitions

* `ClassFormat.Modified.units` — the units of a byte string, or the byte that is to blame.
* `ClassFormat.Modified.decode` — the text of a byte string. Bytes that are standard UTF-8 without
  NUL and without four-byte sequences are taken over as they are.
* `ClassFormat.Modified.encode` — the bytes of a text.

## Design

A continuation byte that is out of place is blamed itself; where the bytes end inside a unit, the
unit's first byte is blamed, since the string as a whole is complete.
-/

namespace ClassFormat

/-- A byte that has no place in modified UTF-8, with its absolute position. -/
structure TextFault where
  /-- The absolute position of the byte. -/
  offset : Nat
  /-- The byte itself. -/
  byte : UInt8
  deriving DecidableEq, Repr

namespace Modified

/-- Whether a byte continues a unit, that is, lies in `80..BF`. -/
def IsContinuation (byte : UInt8) : Prop :=
  0x80 ≤ byte.toNat ∧ byte.toNat ≤ 0xBF

/-- Being a continuation byte is a matter of two comparisons. -/
instance (byte : UInt8) : Decidable (IsContinuation byte) :=
  inferInstanceAs (Decidable (_ ∧ _))

/-- How many bytes a unit takes, by its first byte; a byte that begins no unit has no length. -/
def unitLength? (lead : UInt8) : Option Nat :=
  let number := lead.toNat
  if 0x01 ≤ number ∧ number ≤ 0x7F then some 1
  else if 0xC0 ≤ number ∧ number ≤ 0xDF then some 2
  else if 0xE0 ≤ number ∧ number ≤ 0xEF then some 3
  else none

/-- The unit of two bytes `110xxxxx 10xxxxxx`. -/
def unitOfTwo (lead second : UInt8) : UInt16 :=
  UInt16.ofNat (lead.toNat % 0x20 * 0x40 + second.toNat % 0x40)

/-- The unit of three bytes `1110xxxx 10xxxxxx 10xxxxxx`. -/
def unitOfThree (lead second third : UInt8) : UInt16 :=
  UInt16.ofNat (lead.toNat % 0x10 * 0x1000 + second.toNat % 0x40 * 0x40 + third.toNat % 0x40)

/-- Reads the units of bytes that begin at the absolute position `offset`, behind the units `done`,
which are held in reverse. -/
def unitsOnto (offset : Nat) (done : List UInt16) : Bytes → Except TextFault (List UInt16)
  | [] => .ok done.reverse
  | lead :: rest =>
    match unitLength? lead, rest with
    | some 1, rest => unitsOnto (offset + 1) (UInt16.ofNat lead.toNat :: done) rest
    | some 2, second :: rest =>
      if IsContinuation second then
        unitsOnto (offset + 2) (unitOfTwo lead second :: done) rest
      else .error ⟨offset + 1, second⟩
    | some 3, [second] =>
      if IsContinuation second then .error ⟨offset, lead⟩ else .error ⟨offset + 1, second⟩
    | some 3, second :: third :: rest =>
      if IsContinuation second then
        if IsContinuation third then
          unitsOnto (offset + 3) (unitOfThree lead second third :: done) rest
        else .error ⟨offset + 2, third⟩
      else .error ⟨offset + 1, second⟩
    | _, _ => .error ⟨offset, lead⟩

/-- The units of a byte string whose first byte has the absolute position `base`. -/
def units (base : Nat) (bytes : Bytes) : Except TextFault (List UInt16) :=
  unitsOnto base [] bytes

/-! ## Text -/

/-- A text, with the note whether its bytes were taken over as they are. -/
structure Reading where
  /-- The text. -/
  text : String
  /-- Whether the bytes were standard UTF-8 already. -/
  verbatim : Bool
  deriving DecidableEq, Repr

/-- Whether a byte may stand in text that is taken over as it is: neither NUL nor part of a
four-byte sequence of standard UTF-8. -/
def IsPlain (byte : UInt8) : Prop :=
  byte ≠ 0 ∧ byte.toNat < 0xF0

/-- Being plain is a matter of two comparisons. -/
instance (byte : UInt8) : Decidable (IsPlain byte) :=
  inferInstanceAs (Decidable (_ ∧ _))

/-- The text of bytes that modified and standard UTF-8 both accept, read by the standard. -/
def verbatim? (bytes : Bytes) : Option String :=
  if bytes.all fun byte => IsPlain byte then String.fromUTF8? ⟨bytes.toArray⟩ else none

/-- The text that the units of a byte string spell. -/
def spell (base : Nat) (bytes : Bytes) : Except TextFault String :=
  (units base bytes).map fun us => String.ofList (CodeUnit.read us)

/-- The text of a byte string whose first byte has the absolute position `base`. -/
def decode (base : Nat) (bytes : Bytes) : Except TextFault Reading :=
  match verbatim? bytes with
  | some text => .ok ⟨text, true⟩
  | none => (spell base bytes).map fun text => ⟨text, false⟩

/-! ## Writing -/

/-- The bytes of a unit: as few as hold it, except that NUL takes two. -/
def unitBytes (unit : UInt16) : Bytes :=
  let number := unit.toNat
  if 0x01 ≤ number ∧ number ≤ 0x7F then [UInt8.ofNat number]
  else if number ≤ 0x7FF then
    [UInt8.ofNat (0xC0 + number / 0x40), UInt8.ofNat (0x80 + number % 0x40)]
  else
    [UInt8.ofNat (0xE0 + number / 0x1000), UInt8.ofNat (0x80 + number / 0x40 % 0x40),
      UInt8.ofNat (0x80 + number % 0x40)]

/-- The bytes of a text. -/
def encode (text : String) : Bytes :=
  text.toList.flatMap fun c => (CodeUnit.ofChar c).flatMap unitBytes

end Modified

end ClassFormat
