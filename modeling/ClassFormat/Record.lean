import ClassFormat.Decoder
import ClassFormat.Fault

/-!
# Records

The decoders of a class file share a few habits: a failed read is a fault of the file, a fault
without a position of its own is pinned to the record it was found in, and a list of records begins
with its length.

## Main definitions

* `ClassFormat.Record.read` — a read whose failure is a fault of the file.
* `ClassFormat.Record.located` — a record to whose first byte faults are pinned.
* `ClassFormat.Record.table` — a 16-bit count and that many records.
-/

namespace ClassFormat.Record

open Decoder

variable {α : Type}

/-- A read whose failure is a fault of the file. -/
def read (decoder : Decoder ReadFault α) : Decoder Fault α :=
  decoder.mapFault .truncated

/-- A word of the file. -/
def word [Word α] : Decoder Fault α :=
  read Decoder.word

/-- A window of the next `count` bytes of the file. -/
def split (count : Nat) : Decoder Fault Cursor :=
  read (Decoder.split count)

/-- Decodes a record, and pins a fault without a position of its own to the record's first byte. -/
def located (record : Decoder Fault α) : Decoder Fault α :=
  fun start => record.mapFault (fun fault => fault.pinnedAt start.position) start

/-- A 16-bit count and that many records. -/
def table (record : Decoder Fault α) : Decoder Fault (List α) := do
  let count : UInt16 ← word
  seq count.toNat (located record)

/-- A word takes up bytes, if its type has any. -/
theorem advances_word [Word α] (h : 0 < Word.size α) : (word : Decoder Fault α).Advances :=
  (advances_take h).bind.mapFault

/-- Where faults are located has no part in whether a record takes up bytes. -/
theorem advances_located {record : Decoder Fault α} (h : record.Advances) :
    (located record).Advances :=
  fun start value hok => h.mapFault start value hok

end ClassFormat.Record
