/-!
# Big-endian words

Every number of a class file is stored with its most significant byte first. This module reads a
byte string as a number to base 256, writes a number with a given count of digits, and ties both
to the machine words of the format.

## Main definitions

* `ClassFormat.BigEndian.value` — the number that a byte string denotes.
* `ClassFormat.BigEndian.digits` — the lowest digits of a number, most significant first.
* `ClassFormat.BigEndian.capacity` — how many numbers a count of digits can tell apart.
* `ClassFormat.Word` — the fixed-width words, each with its size in bytes and its number.
* `ClassFormat.Word.ofBytes`, `ClassFormat.Word.toBytes` — a word read from and written to bytes.

## Main results

* `ClassFormat.BigEndian.value_digits`, `ClassFormat.BigEndian.digits_value` — reading and writing
  are inverse to one another on numbers and strings of the same width.
* `ClassFormat.Word.ofBytes_toBytes`, `ClassFormat.Word.toBytes_ofBytes` — the same for words.
-/

namespace ClassFormat

/-- A byte string. -/
abbrev Bytes := List UInt8

namespace BigEndian

/-- The number whose digits to base 256 are `bytes`, most significant first. -/
def value (bytes : Bytes) : Nat :=
  bytes.foldl (fun number byte => number * 256 + byte.toNat) 0

/-- The `width` lowest digits of `number` to base 256, most significant first. -/
def digits : Nat → Nat → Bytes
  | 0, _ => []
  | width + 1, number => digits width (number / 256) ++ [UInt8.ofNat number]

/-- How many numbers can be written with `width` digits to base 256. -/
def capacity : Nat → Nat
  | 0 => 1
  | width + 1 => 256 * capacity width

/-- Every width has room for at least the number zero. -/
theorem capacity_pos (width : Nat) : 0 < capacity width := by
  induction width with
  | zero => exact Nat.one_pos
  | succ width ih => exact Nat.mul_pos (by decide) ih

/-- No bytes denote zero. -/
@[simp] theorem value_nil : value [] = 0 := rfl

/-- A number is written with as many bytes as the width asks for. -/
@[simp] theorem length_digits (width number : Nat) : (digits width number).length = width := by
  induction width generalizing number with
  | zero => rfl
  | succ width ih => simp [digits, ih]

/-- Starting the reading at `high` puts `high` in front of all digits. -/
theorem foldl_eq_value_add (bytes : Bytes) (high : Nat) :
    bytes.foldl (fun number byte => number * 256 + byte.toNat) high =
      high * capacity bytes.length + value bytes := by
  induction bytes generalizing high with
  | nil => simp [capacity]
  | cons byte bytes ih =>
    have hhead : value (byte :: bytes) = byte.toNat * capacity bytes.length + value bytes := by
      rw [value, List.foldl_cons, ih]
      simp
    rw [List.foldl_cons, ih, hhead, Nat.add_mul, List.length_cons, capacity, Nat.mul_assoc]
    omega

/-- The first byte counts for as much as the bytes behind it have room for. -/
theorem value_cons (byte : UInt8) (bytes : Bytes) :
    value (byte :: bytes) = byte.toNat * capacity bytes.length + value bytes := by
  rw [value, List.foldl_cons, foldl_eq_value_add]
  simp

/-- The value of a byte string from the values of its two halves. -/
theorem value_append (high low : Bytes) :
    value (high ++ low) = value high * capacity low.length + value low := by
  rw [value, List.foldl_append, foldl_eq_value_add]
  rfl

/-- A byte string denotes a number below the capacity of its length. -/
theorem value_lt (bytes : Bytes) : value bytes < capacity bytes.length := by
  induction bytes with
  | nil => exact Nat.one_pos
  | cons byte bytes ih =>
    have hbyte : (byte.toNat + 1) * capacity bytes.length ≤ 256 * capacity bytes.length :=
      Nat.mul_le_mul_right _ byte.toNat_lt
    rw [value_cons, List.length_cons, capacity]
    rw [Nat.add_mul] at hbyte
    omega

/-- Writing `width` digits and reading them back keeps the number modulo their capacity.

**Proof sketch.** Induction on the width. The last digit is the remainder by 256, the digits before
it denote the quotient modulo the capacity of the smaller width. -/
theorem value_digits (width number : Nat) :
    value (digits width number) = number % capacity width := by
  induction width generalizing number with
  | zero => simp [digits, capacity, Nat.mod_one]
  | succ width ih =>
    have hbyte : value [UInt8.ofNat number] = number % 256 := by simp [value_cons, capacity]
    rw [digits, value_append, ih, hbyte, capacity, Nat.mod_mul, List.length_singleton,
      capacity, capacity]
    omega

/-- Two byte strings of one length that denote the same number are equal.

**Proof sketch.** The first digit is the quotient of the number by the capacity of the other digits,
and the digits after it denote the remainder. -/
theorem eq_of_value_eq {a b : Bytes} (hlength : a.length = b.length) (hvalue : value a = value b) :
    a = b := by
  induction a generalizing b with
  | nil => exact (List.length_eq_zero_iff.mp hlength.symm).symm
  | cons x a ih =>
    cases b with
    | nil => simp at hlength
    | cons y b =>
      have hlen : a.length = b.length := by simpa using hlength
      have hpos := capacity_pos b.length
      have ha := value_lt a
      have hb := value_lt b
      rw [hlen] at ha
      rw [value_cons, value_cons, hlen] at hvalue
      have hx : x.toNat = y.toNat := by
        rw [Nat.mul_comm, Nat.mul_comm y.toNat] at hvalue
        have hdiv := congrArg (· / capacity b.length) hvalue
        simpa [Nat.mul_add_div hpos, Nat.div_eq_of_lt ha, Nat.div_eq_of_lt hb] using hdiv
      have htail : value a = value b := by
        rw [hx] at hvalue
        omega
      rw [UInt8.toNat_inj.mp hx, ih hlen htail]

/-- Reading a byte string and writing as many digits gives the string back. -/
theorem digits_value (bytes : Bytes) : digits bytes.length (value bytes) = bytes := by
  apply eq_of_value_eq
  · simp
  · rw [value_digits, Nat.mod_eq_of_lt (value_lt bytes)]

end BigEndian

/-! ## Words -/

/-- A word of fixed width: its size in bytes, and the number that its bytes denote. -/
class Word (α : Type) where
  /-- How many bytes the word takes. -/
  size : Nat
  /-- The word with the given number, taken modulo the capacity of its bytes. -/
  ofNat : Nat → α
  /-- The number of the word, below the capacity of its bytes; a negative word counts in two's
  complement. -/
  toNat : α → Nat
  ofNat_toNat : ∀ word, ofNat (toNat word) = word
  toNat_ofNat : ∀ number, toNat (ofNat number) = number % BigEndian.capacity size

namespace Word

variable {α : Type} [Word α]

/-- The word stored big-endian in `bytes`. -/
def ofBytes (bytes : Bytes) : α :=
  ofNat (BigEndian.value bytes)

/-- The bytes that store a word big-endian. -/
def toBytes (word : α) : Bytes :=
  BigEndian.digits (size α) (toNat word)

/-- A word is written with the bytes that its type has. -/
@[simp] theorem length_toBytes (word : α) : (toBytes word).length = size α := by
  simp [toBytes]

/-- A word denotes a number that its bytes have room for. -/
theorem toNat_lt (word : α) : toNat word < BigEndian.capacity (size α) := by
  rw [← ofNat_toNat word, toNat_ofNat]
  exact Nat.mod_lt _ (BigEndian.capacity_pos _)

/-- A word that is stored and read again is itself. -/
@[simp] theorem ofBytes_toBytes (word : α) : ofBytes (toBytes word) = word := by
  rw [ofBytes, toBytes, BigEndian.value_digits, Nat.mod_eq_of_lt (toNat_lt word), ofNat_toNat]

/-- Bytes that are read as a word of their length are stored again as they were. -/
theorem toBytes_ofBytes {bytes : Bytes} (h : bytes.length = size α) :
    toBytes (ofBytes bytes : α) = bytes := by
  rw [toBytes, ofBytes, toNat_ofNat, ← h, Nat.mod_eq_of_lt (BigEndian.value_lt bytes),
    BigEndian.digits_value]

end Word

/-- Bytes are words of one byte. -/
instance : Word UInt8 where
  size := 1
  ofNat := UInt8.ofNat
  toNat := UInt8.toNat
  ofNat_toNat := by simp
  toNat_ofNat := by simp [BigEndian.capacity]

/-- A byte is stored as itself. -/
theorem Word.toBytes_byte (byte : UInt8) : toBytes byte = [byte] := by
  show [UInt8.ofNat byte.toNat] = [byte]
  rw [UInt8.ofNat_toNat]

/-- Unsigned words of two bytes. -/
instance : Word UInt16 where
  size := 2
  ofNat := UInt16.ofNat
  toNat := UInt16.toNat
  ofNat_toNat := by simp
  toNat_ofNat := by simp [BigEndian.capacity]

/-- Unsigned words of four bytes. -/
instance : Word UInt32 where
  size := 4
  ofNat := UInt32.ofNat
  toNat := UInt32.toNat
  ofNat_toNat := by simp
  toNat_ofNat := by simp [BigEndian.capacity]

/-- Unsigned words of eight bytes. -/
instance : Word UInt64 where
  size := 8
  ofNat := UInt64.ofNat
  toNat := UInt64.toNat
  ofNat_toNat := by simp
  toNat_ofNat := by simp [BigEndian.capacity]

/-- Signed words of one byte. -/
instance : Word Int8 where
  size := 1
  ofNat number := (UInt8.ofNat number).toInt8
  toNat word := word.toUInt8.toNat
  ofNat_toNat := by simp
  toNat_ofNat := by simp [BigEndian.capacity]

/-- Signed words of two bytes. -/
instance : Word Int16 where
  size := 2
  ofNat number := (UInt16.ofNat number).toInt16
  toNat word := word.toUInt16.toNat
  ofNat_toNat := by simp
  toNat_ofNat := by simp [BigEndian.capacity]

/-- Signed words of four bytes. -/
instance : Word Int32 where
  size := 4
  ofNat number := (UInt32.ofNat number).toInt32
  toNat word := word.toUInt32.toNat
  ofNat_toNat := by simp
  toNat_ofNat := by simp [BigEndian.capacity]

/-- Signed words of eight bytes. -/
instance : Word Int64 where
  size := 8
  ofNat number := (UInt64.ofNat number).toInt64
  toNat word := word.toUInt64.toNat
  ofNat_toNat := by simp
  toNat_ofNat := by simp [BigEndian.capacity]

end ClassFormat
