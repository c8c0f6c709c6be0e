import ClassFormat.Bytes.BigEndian

/-!
# Hexadecimal text

Numbers in messages are written with lower-case digits behind `0x`, bytes in listings as pairs of
upper-case digits.

## Main definitions

* `ClassFormat.Hex.ofNat`, `ClassFormat.Hex.padded` — a number behind `0x`, with no more digits than
  it needs or with at least a given count.
* `ClassFormat.Hex.pairs` — a byte string as upper-case pairs.
-/

namespace ClassFormat.Hex

/-- The lower-case digits of a number, as few as it needs. -/
def digits (number : Nat) : List Char :=
  Nat.toDigits 16 number

/-- A number behind `0x`, with as few digits as it needs. -/
def ofNat (number : Nat) : String :=
  "0x" ++ String.ofList (digits number)

/-- A number behind `0x`, filled up with zeros to `width` digits. -/
def padded (width number : Nat) : String :=
  "0x" ++ String.ofList ((digits number).leftpad width '0')

/-- The upper-case digit of a number below 16. -/
def upperDigit (number : Nat) : Char :=
  (Nat.digitChar number).toUpper

/-- The two digits of a byte. -/
def pair (byte : UInt8) : List Char :=
  [upperDigit (byte.toNat / 16), upperDigit (byte.toNat % 16)]

/-- A byte string as upper-case pairs of digits, without separators. -/
def pairs (bytes : Bytes) : String :=
  String.ofList (bytes.flatMap pair)

end ClassFormat.Hex
