import ClassFormat.Proofs.Decoder.Steps
import Mathlib.Data.List.Forall2

/-!
# Decoders that read what was written

A format is written by functions from values to bytes. A decoder reads a value back if, wherever its
bytes stand, it gives this value and moves behind them, whatever follows. This module states that of
a decoder and passes it on to sequences, windows and tables.

## Main definitions

* `ClassFormat.Decoder.Reads` — a decoder reads a value from its bytes.
* `ClassFormat.tableBytes` — a table as it is stored: its length and its records.

## Main results

* `ClassFormat.Decoder.Reads.bind`, `ClassFormat.Decoder.Reads.seq` — sequences and repetitions.
* `ClassFormat.Record.reads_window` — a window is opened on bytes of a known length.
* `ClassFormat.Record.reads_table` — tables.
-/

namespace ClassFormat

namespace Decoder

variable {ε ε' α β ρ : Type}

/-- If the bytes stand at the cursor, the decoder gives the value and moves behind them. -/
def Reads (decoder : Decoder ε α) (start : Cursor) (bytes : Bytes) (value : α) : Prop :=
  bytes <+: start.rest →
    (decoder start).result = .ok value ∧ (decoder start).cursor.offset = start.offset + bytes.length

variable {start : Cursor} {bytes front back : Bytes} {value : α}

/-- The bytes that are read can be written in another way. -/
lemma Reads.of_eq {decoder : Decoder ε α} {bytes' : Bytes} (h : Reads decoder start bytes value)
    (heq : bytes = bytes') : Reads decoder start bytes' value :=
  heq ▸ h

/-- To give a value needs no bytes. -/
lemma reads_pure (value : α) : Reads (pure value : Decoder ε α) start [] value :=
  fun _ => ⟨rfl, rfl⟩

/-- A success from elsewhere needs no bytes. -/
lemma reads_given {found : Except ε α} (h : found = .ok value) :
    Reads (given found) start [] value := by
  rw [h]
  exact reads_pure value

/-- A note needs no bytes. -/
lemma reads_note (event : Event) : Reads (note event : Decoder ε Unit) start [] () :=
  fun _ => ⟨rfl, rfl⟩

/-- What is read does not depend on faults. -/
lemma Reads.mapFault {decoder : Decoder ε α} {f : ε → ε'} (h : Reads decoder start bytes value) :
    Reads (decoder.mapFault f) start bytes value :=
  fun hbytes => ⟨mapFault_ok_iff.mpr (h hbytes).1, (h hbytes).2⟩

/-- What is left behind the bytes that were read. -/
lemma Reads.rest_eq {decoder : Decoder ε α} (h : Reads decoder start bytes value)
    (hbytes : bytes <+: start.rest) :
    (decoder start).cursor.rest = start.rest.drop bytes.length := by
  rw [Cursor.rest_eq_drop_of_le (decoder start).ahead, (h hbytes).2, Nat.add_sub_cancel_left]

/-- The position grows by the bytes that are read. -/
lemma Reads.position_eq {decoder : Decoder ε α} (h : Reads decoder start bytes value)
    (hbytes : bytes <+: start.rest) :
    (decoder start).cursor.position = start.position + bytes.length := by
  have hoffset := (h hbytes).2
  have hbase := (decoder start).ahead.2.1
  unfold Cursor.position
  omega

/-- Two steps read their bytes one after the other. -/
lemma Reads.bind {first : Decoder ε α} {next : α → Decoder ε β} {result : β}
    (hfirst : Reads first start front value)
    (hnext : Reads (next value) (first start).cursor back result) :
    Reads (first >>= next) start (front ++ back) result := by
  rintro ⟨tail, htail⟩
  rw [List.append_assoc] at htail
  have hfront : front <+: start.rest := ⟨back ++ tail, htail⟩
  have hback : back <+: (first start).cursor.rest := by
    rw [hfirst.rest_eq hfront, ← htail, List.drop_left]
    exact List.prefix_append _ _
  obtain ⟨hresult, hoffset⟩ := hfirst hfront
  obtain ⟨hresult', hoffset'⟩ := hnext hback
  rw [result_bind_of_ok hresult, cursor_bind_of_ok hresult, hoffset', hoffset, List.length_append,
    Nat.add_assoc]
  exact ⟨hresult', rfl⟩

/-- A step that reads nothing leaves all bytes to the next one. -/
lemma Reads.bind_of_nil {first : Decoder ε α} {next : α → Decoder ε β} {result : β}
    (hfirst : Reads first start [] value)
    (hnext : Reads (next value) (first start).cursor bytes result) :
    Reads (first >>= next) start bytes result :=
  hfirst.bind hnext

/-- A step that only changes the value reads the same bytes. -/
lemma Reads.map {decoder : Decoder ε α} (h : Reads decoder start bytes value) (f : α → β) :
    Reads (decoder >>= fun found => pure (f found)) start bytes (f value) :=
  (h.bind (reads_pure (f value))).of_eq (List.append_nil bytes)

/-- What a decoder finds in a window is found without moving. -/
lemma reads_inside {window : Cursor} {decoder : Decoder ε α}
    (h : (decoder window).result = .ok value) :
    Reads (inside window decoder) start [] (value, (decoder window).cursor) := by
  intro _
  refine ⟨?_, rfl⟩
  show (decoder window).result.map _ = _
  rw [h]
  rfl

/-- Items that are read one by one are read in a row.

**Proof sketch.** Induction along the two lists; the bytes of the first item stand before those of
the others. -/
lemma Reads.seq {item : Decoder ε α} {encode : ρ → Bytes} {raws : List ρ} {values : List α}
    (h : List.Forall₂ (fun raw value => ∀ c, Reads item c (encode raw) value) raws values) :
    Reads (seq raws.length item) start (raws.flatMap encode) values := by
  induction h generalizing start with
  | nil => exact reads_pure []
  | cons hfirst _ ih =>
    rw [List.length_cons, seq_succ, List.flatMap_cons]
    exact (hfirst start).bind (ih.map _)

/-- Bytes are read as themselves. -/
lemma reads_take {count : Nat} (hcount : bytes.length = count) :
    Reads (take count) start bytes bytes := by
  subst hcount
  rintro ⟨tail, htail⟩
  have hle : bytes.length ≤ start.remaining := by
    rw [Cursor.remaining, ← htail, List.length_append]
    omega
  rw [take_apply_of_le hle, ← htail, List.take_left]
  exact ⟨rfl, rfl⟩

/-- A word is read from its bytes, in whatever decoder. -/
lemma reads_bareWord [Word α] (value : α) :
    Reads Decoder.word start (Word.toBytes value) value := by
  have hword : Reads (Decoder.word (α := α)) start (Word.toBytes value)
      (Word.ofBytes (Word.toBytes value)) :=
    (reads_take (Word.length_toBytes value)).map Word.ofBytes
  rwa [Word.ofBytes_toBytes] at hword

end Decoder

/-! ## Words, windows and tables -/

/-- A table as it is stored: its length and its records. -/
def tableBytes {ρ : Type} (encode : ρ → Bytes) (raws : List ρ) : Bytes :=
  Word.toBytes (UInt16.ofNat raws.length) ++ raws.flatMap encode

namespace Record

open Decoder hiding word split

variable {α β ρ : Type} {start : Cursor} {bytes : Bytes} {value : α}

/-- What is read by itself is read as a part of a record. -/
lemma reads_read {decoder : Decoder ReadFault α} (h : Reads decoder start bytes value) :
    Reads (read decoder) start bytes value :=
  Reads.mapFault h

/-- A word is read from its bytes. -/
lemma reads_word [Word α] (value : α) : Reads word start (Word.toBytes value) value :=
  reads_read (reads_bareWord value)

/-- A byte is a word of its own. -/
lemma reads_byte (byte : UInt8) : Reads word start [byte] byte := by
  rw [← Word.toBytes_byte]
  exact reads_word byte

/-- A window is opened on the bytes at the cursor. -/
lemma reads_split {count : Nat} {payload : Bytes} (hcount : payload.length = count) :
    Reads (split count) start payload (start.inner count) := by
  intro hpayload
  have hle : count ≤ start.remaining := by
    rw [← hcount]
    exact hpayload.length_le
  have happly := split_apply_of_le hle
  refine ⟨mapFault_ok_iff.mpr (by rw [happly]), ?_⟩
  show (Decoder.split count start).cursor.offset = _
  rw [happly, hcount]
  rfl

/-- A window on bytes of a known length holds just these bytes, and the next step starts behind
them. -/
lemma reads_window {count : Nat} {next : Cursor → Decoder Fault α} {payload : Bytes}
    (hcount : payload.length = count)
    (hnext : ∀ window c : Cursor, window.rest = payload → window.offset = 0 →
      Reads (next window) c bytes value) :
    Reads (split count >>= next) start (payload ++ bytes) value := by
  intro hbytes
  have hpayload : payload <+: start.rest := (List.prefix_append payload bytes).trans hbytes
  have hrest : (start.inner count).rest = payload := by
    rw [← hcount]
    exact (List.prefix_iff_eq_take.mp hpayload).symm
  exact (reads_split hcount).bind (hnext _ _ hrest rfl) hbytes

/-- What is read does not depend on where faults are located. -/
lemma reads_located {record : Decoder Fault α} (h : Reads record start bytes value) :
    Reads (located record) start bytes value :=
  Reads.mapFault h

/-- A table is read from its bytes if its length fits the count and each of its records is read. -/
lemma reads_table {record : Decoder Fault α} {encode : ρ → Bytes} {raws : List ρ} {values : List α}
    {R : ρ → α → Prop} (hlength : raws.length < UInt16.size) (h : List.Forall₂ R raws values)
    (hrecord : ∀ raw ∈ raws, ∀ value, R raw value → ∀ c, Reads record c (encode raw) value) :
    Reads (table record) start (tableBytes encode raws) values := by
  refine (reads_word _).bind ?_
  rw [UInt16.toNat_ofNat_of_lt' hlength]
  refine Reads.seq (((List.forall₂_and_left _ _).mpr ⟨fun _ hmem => hmem, h⟩).imp ?_)
  exact fun raw value hpair c => reads_located (hrecord raw hpair.1 value hpair.2 c)

end Record

end ClassFormat
