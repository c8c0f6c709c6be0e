import ClassFormat.Proofs.Instruction.CodeArray

/-!
# Switches and their tables

The operands of a switch are looked at twice: first to find out how long they are, by words ahead of
the cursor, and later to take the table out of them, by words one behind the other. This module
writes a table back as operands, and says exactly which operands hold a table. Both looks agree on
every switch that was read: its table accounts for all of its operands. They do not agree on
operands from elsewhere, where one look refuses an empty range of keys and the other one does not.

## Main definitions

* `ClassFormat.SwitchTable.content` — a table as it is stored, behind the padding.
* `ClassFormat.Instruction.HoldsTable` — operands that begin with padding and a table.
* `ClassFormat.Instruction.HoldsRange` — the first and the last key that operands announce.

## Main results

* `ClassFormat.Instruction.switchTable?_eq_some_iff` — the table of an instruction is the one that
  its operands hold.
* `ClassFormat.Instruction.switchTable?_of_reader` — switches that were read.
* `ClassFormat.Instruction.inverted_iff_of_switchTable?` — switches from elsewhere.
-/

namespace ClassFormat

/-! ## Items of one size -/

/-- Bytes are those of a list of items, if every string of the size of an item is that of some item.
-/
lemma exists_flatMap_eq {α : Type} {encode : α → Bytes} {size : Nat}
    (hencode : ∀ bytes : Bytes, bytes.length = size → ∃ value, encode value = bytes) {count : Nat}
    {bytes : Bytes} (hlength : bytes.length = size * count) :
    ∃ values : List α, values.length = count ∧ values.flatMap encode = bytes := by
  induction count generalizing bytes with
  | zero => exact ⟨[], rfl, (List.eq_nil_of_length_eq_zero hlength).symm⟩
  | succ count ih =>
    rw [Nat.mul_succ] at hlength
    obtain ⟨first, hfirst⟩ := hencode (bytes.take size) (by rw [List.length_take]; omega)
    have htail : (bytes.drop size).length = size * count := by
      rw [List.length_drop]
      omega
    obtain ⟨rest, hcount, hrest⟩ := ih htail
    refine ⟨first :: rest, congrArg Nat.succ hcount, ?_⟩
    rw [List.flatMap_cons, hfirst, hrest, List.take_append_drop]

/-- Items of one size, written one behind the other, take up a multiple of it. -/
lemma length_flatMap_of_forall {α : Type} {encode : α → Bytes} {size : Nat}
    (hencode : ∀ value, (encode value).length = size) (values : List α) :
    (values.flatMap encode).length = size * values.length := by
  induction values with
  | nil => rfl
  | cons value values ih =>
    rw [List.flatMap_cons, List.length_append, hencode, ih, List.length_cons, Nat.mul_succ,
      Nat.add_comm]

/-! ## Tables as they are stored -/

/-- A key and its target as they are stored. -/
def pairBytes (pair : Int32 × Int32) : Bytes :=
  Word.toBytes pair.1 ++ Word.toBytes pair.2

/-- A pair of a key and an offset takes eight bytes. -/
lemma length_pairBytes (pair : Int32 × Int32) : (pairBytes pair).length = 8 := by
  rw [pairBytes, List.length_append, Word.length_toBytes, Word.length_toBytes]
  rfl

/-- Any eight bytes are a pair of a key and an offset. -/
lemma exists_pairBytes_eq {bytes : Bytes} (hlength : bytes.length = 8) :
    ∃ pair, pairBytes pair = bytes := by
  have hsize : Word.size Int32 = 4 := rfl
  refine ⟨(Word.ofBytes (bytes.take 4), Word.ofBytes (bytes.drop 4)), ?_⟩
  rw [pairBytes, Word.toBytes_ofBytes (by rw [List.length_take]; omega),
    Word.toBytes_ofBytes (by rw [List.length_drop]; omega), List.take_append_drop]

namespace SwitchTable

/-- The opcode of the switches that have such a table. -/
def opcode : SwitchTable → Opcode
  | table .. => .tableswitch
  | lookup .. => .lookupswitch

/-- The last of the keys from `low` on that have these targets; the one before `low` if there are no
targets. -/
def lastKey (low : Int32) (offsets : List Int32) : Int :=
  low.toInt + offsets.length - 1

/-- A table as it is stored, behind the padding. -/
def content : SwitchTable → Bytes
  | table default low offsets =>
    Word.toBytes default ++ Word.toBytes low ++ Word.toBytes (Int32.ofInt (lastKey low offsets)) ++
      offsets.flatMap Word.toBytes
  | lookup default pairs =>
    Word.toBytes default ++ Word.toBytes (Int32.ofInt pairs.length) ++ pairs.flatMap pairBytes

/-- A table whose last key, or whose count of pairs, fits its field. -/
def Fits : SwitchTable → Prop
  | table _ low offsets =>
    Int32.minValue.toInt ≤ lastKey low offsets ∧ lastKey low offsets ≤ Int32.maxValue.toInt
  | lookup _ pairs => (pairs.length : Int) ≤ Int32.maxValue.toInt

/-- A table of consecutive keys that has a key. A switch by search needs none. -/
def HasRange : SwitchTable → Prop
  | table _ _ offsets => offsets ≠ []
  | lookup .. => True

end SwitchTable

/-- A number that fits a word is the number of that word. -/
lemma toInt_ofInt_of_fits {number : Int} (hlow : Int32.minValue.toInt ≤ number)
    (hhigh : number ≤ Int32.maxValue.toInt) : (Int32.ofInt number).toInt = number := by
  rw [Int32.toInt_minValue] at hlow
  rw [Int32.toInt_maxValue] at hhigh
  exact Int32.toInt_ofInt_of_le hlow (by omega)

/-- A table whose last key is the number of a word fits. -/
lemma SwitchTable.fits_of_lastKey (default : Int32) {low high : Int32} {offsets : List Int32}
    (hlast : lastKey low offsets = high.toInt) : (table default low offsets).Fits := by
  refine ⟨?_, ?_⟩ <;> rw [hlast]
  · rw [Int32.toInt_minValue]
    exact high.le_toInt
  · exact high.toInt_le

/-- A count of pairs that is the number of a word fits. -/
lemma SwitchTable.fits_of_length (default : Int32) {count : Int32} {pairs : List (Int32 × Int32)}
    (hlength : (pairs.length : Int) = count.toInt) : (lookup default pairs).Fits := by
  show (pairs.length : Int) ≤ _
  rw [hlength]
  exact count.toInt_le

namespace Instruction

open Decoder hiding word split
open Record hiding word split

/-- The operands of a switch at a place begin with its padding and the table. -/
def HoldsTable (pc : Nat) (operands : Bytes) (table : SwitchTable) : Prop :=
  table.Fits ∧
    ∃ padding rest, padding.length = switchPadding pc ∧ operands = padding ++ table.content ++ rest

/-! ## Operands that hold a table are read -/

section Reads

variable {start : Cursor} {α : Type}

/-- As many items as were announced are read back from their bytes. -/
lemma reads_itemsReader {item : Decoder ReadFault α} {encode : α → Bytes} {size : Nat}
    (hsize : 0 < size) (hencode : ∀ value, (encode value).length = size)
    (hitem : ∀ value c, Reads item c (encode value) value) (values : List α) :
    Reads (itemsReader (some values.length) size item) start (values.flatMap encode) values := by
  intro hbytes
  have hlength := length_flatMap_of_forall hencode values
  have hle : values.length ≤ start.remaining / size := by
    rw [Nat.le_div_iff_mul_le hsize, Nat.mul_comm, ← hlength]
    exact hbytes.length_le
  have hseq : Reads (seq values.length item) start (values.flatMap encode) values :=
    Reads.seq (List.forall₂_same.mpr fun value _ c => hitem value c)
  revert hbytes
  refine Reads.bind_of_nil (fun _ => ⟨rfl, rfl⟩) ?_
  show Reads (if values.length ≤ start.remaining / size then _ else _) start _ _
  rw [if_pos hle]
  exact hseq.mapFault

/-- A table has as many keys as there are from the first one to the last one. -/
lemma keyCount?_lastKey {low : Int32} {offsets : List Int32}
    (hlow : Int32.minValue.toInt ≤ SwitchTable.lastKey low offsets)
    (hhigh : SwitchTable.lastKey low offsets ≤ Int32.maxValue.toInt) :
    keyCount? low (Int32.ofInt (SwitchTable.lastKey low offsets)) = some offsets.length := by
  have hcount : SwitchTable.lastKey low offsets - low.toInt + 1 = offsets.length := by
    unfold SwitchTable.lastKey
    omega
  unfold keyCount?
  rw [toInt_ofInt_of_fits hlow hhigh]
  simp [hcount]

/-- A word is read from its bytes, whatever becomes of the fault. -/
lemma reads_faultlessWord (word : Int32) :
    Reads (Decoder.word.mapFault fun _ => ()) start (Word.toBytes word) word :=
  (reads_bareWord word).mapFault

/-- A table is read back from its bytes behind the default. -/
lemma reads_tableReader (default : Int32) {low : Int32} {offsets : List Int32}
    (hlow : Int32.minValue.toInt ≤ SwitchTable.lastKey low offsets)
    (hhigh : SwitchTable.lastKey low offsets ≤ Int32.maxValue.toInt) :
    Reads (tableReader default) start
      (Word.toBytes low ++ (Word.toBytes (Int32.ofInt (SwitchTable.lastKey low offsets)) ++
        offsets.flatMap Word.toBytes)) (.table default low offsets) := by
  unfold tableReader
  refine (reads_faultlessWord low).bind ((reads_faultlessWord _).bind ?_)
  rw [keyCount?_lastKey hlow hhigh]
  exact (reads_itemsReader (by decide) Word.length_toBytes
    (fun word c => reads_bareWord word) offsets).map _

/-- A list of pairs is read back from its bytes behind the default. -/
lemma reads_lookupReader (default : Int32) {pairs : List (Int32 × Int32)}
    (hcount : (pairs.length : Int) ≤ Int32.maxValue.toInt) :
    Reads (lookupReader default) start
      (Word.toBytes (Int32.ofInt pairs.length) ++ pairs.flatMap pairBytes)
        (.lookup default pairs) := by
  have htoInt : (Int32.ofInt pairs.length).toInt = pairs.length :=
    toInt_ofInt_of_fits (by rw [Int32.toInt_minValue]; omega) hcount
  have hpair : ∀ (pair : Int32 × Int32) (c : Cursor),
      Reads (do return (← Decoder.word, ← Decoder.word)) c (pairBytes pair) pair :=
    fun pair c => (reads_bareWord pair.1).bind ((reads_bareWord pair.2).map _)
  unfold lookupReader
  refine (reads_faultlessWord _).bind ?_
  rw [htoInt, if_pos (Int.natCast_nonneg _), Int.toNat_natCast]
  exact (reads_itemsReader (by decide) length_pairBytes hpair pairs).map _

/-- A table that fits its fields is read back from the operands that it is stored in. -/
lemma reads_switchReader {pc : Nat} {padding : Bytes} {table : SwitchTable}
    (hpadding : padding.length = switchPadding pc) (hfits : table.Fits) :
    Reads (switchReader pc table.opcode) start (padding ++ table.content) table := by
  unfold switchReader
  refine (reads_take hpadding).mapFault.bind ?_
  cases table with
  | table default low offsets =>
    simp only [SwitchTable.content, SwitchTable.opcode, List.append_assoc, if_true]
    exact (reads_faultlessWord default).bind (reads_tableReader default hfits.1 hfits.2)
  | lookup default pairs =>
    have hother : Opcode.lookupswitch ≠ .tableswitch := by decide
    simp only [SwitchTable.content, SwitchTable.opcode, List.append_assoc, if_true,
      hother, if_false]
    exact (reads_faultlessWord default).bind (reads_lookupReader default hfits)

end Reads

/-! ## Tables that are read are held by the operands -/

section Ensures

variable {start : Cursor} {α : Type}

/-- A word that is read is passed. -/
lemma ensures_bareWord [Word α] :
    Ensures (Decoder.word : Decoder ReadFault α) start fun value c =>
      start.Passes (Word.toBytes value) c :=
  ensures_mapFault_iff.mp ensures_word

/-- Items that are read are as many as were announced, and are passed. -/
lemma ensures_itemsReader {item : Decoder ReadFault α} {encode : α → Bytes}
    (hitem : ∀ c, Ensures item c fun value d => c.Passes (encode value) d) (count? : Option Nat)
    (size : Nat) :
    Ensures (itemsReader count? size item) start fun values c =>
      count? = some values.length ∧ start.Passes (values.flatMap encode) c := by
  unfold itemsReader
  refine ensures_here.bind ?_
  rintro _ start _ ⟨rfl, rfl⟩
  split
  · next count =>
    split
    · have hblocks : ∀ c, start ≤ c → Ensures item c fun value d =>
          ∃ bytes, encode value = bytes ∧ c.Passes bytes d :=
        fun c _ => (hitem c).imp fun value d _ hpasses => ⟨_, rfl, hpasses⟩
      refine ((Ensures.seq_passes hblocks count).mapFault).imp ?_
      rintro values c _ ⟨hlength, blocks, hencode, hpasses⟩
      have hmap : values.map encode = blocks := by
        rwa [← List.forall₂_map_left_iff, List.forall₂_eq_eq_eq] at hencode
      rw [← hmap, ← List.flatMap_def] at hpasses
      exact ⟨congrArg some hlength.symm, hpasses⟩
    · exact ensures_fail _
  · exact ensures_fail _

/-- If there are as many targets as keys, the last key is the one that was announced. -/
lemma lastKey_of_keyCount? {low high : Int32} {offsets : List Int32}
    (h : keyCount? low high = some offsets.length) :
    SwitchTable.lastKey low offsets = high.toInt := by
  unfold keyCount? at h
  dsimp only at h
  split at h
  · have hcount := Option.some.inj h
    unfold SwitchTable.lastKey
    omega
  · cases h

/-- A table that is read fits its words and is passed. -/
lemma ensures_tableReader (default : Int32) :
    Ensures (tableReader default) start fun table c =>
      table.opcode = .tableswitch ∧ table.Fits ∧
        ∃ bytes, table.content = Word.toBytes default ++ bytes ∧ start.Passes bytes c := by
  unfold tableReader
  refine ensures_bareWord.mapFault.bind fun low c _ hlow => ?_
  refine ensures_bareWord.mapFault.bind fun high d _ hhigh => ?_
  refine (ensures_itemsReader (fun c => ensures_bareWord) _ _).bind ?_
  rintro offsets e _ ⟨hcount, hoffsets⟩
  have hlast := lastKey_of_keyCount? hcount
  refine ensures_pure
    ⟨rfl, SwitchTable.fits_of_lastKey default hlast, _, ?_, (hlow.trans hhigh).trans hoffsets⟩
  simp only [SwitchTable.content, hlast, Int32.ofInt_toInt, List.append_assoc]

/-- A list of pairs that is read fits its words and is passed. -/
lemma ensures_lookupReader (default : Int32) :
    Ensures (lookupReader default) start fun table c =>
      table.opcode = .lookupswitch ∧ table.Fits ∧
        ∃ bytes, table.content = Word.toBytes default ++ bytes ∧ start.Passes bytes c := by
  unfold lookupReader
  refine ensures_bareWord.mapFault.bind fun count c _ hcount => ?_
  have hpair : ∀ c, Ensures (do return (← Decoder.word, ← Decoder.word)) c
      fun (pair : Int32 × Int32) d => c.Passes (pairBytes pair) d := by
    intro c
    refine ensures_bareWord.bind fun key d _ hkey => ?_
    exact ensures_bareWord.bind fun offset e _ hoffset => ensures_pure (hkey.trans hoffset)
  refine (ensures_itemsReader hpair _ _).bind ?_
  rintro pairs d _ ⟨hlength, hpairs⟩
  have hcountPairs : (pairs.length : Int) = count.toInt := by
    split at hlength
    · have hlength := Option.some.inj hlength
      omega
    · cases hlength
  refine ensures_pure
    ⟨rfl, SwitchTable.fits_of_length default hcountPairs, _, ?_, hcount.trans hpairs⟩
  simp only [SwitchTable.content, hcountPairs, Int32.ofInt_toInt, List.append_assoc]

/-- A table that is read fits its fields, and the operands begin with what it is stored in. -/
lemma ensures_switchReader (pc : Nat) (opcode : Opcode) :
    Ensures (switchReader pc opcode) start fun table c =>
      table.opcode = opcode ∧ table.Fits ∧ ∃ padding, padding.length = switchPadding pc ∧
        start.Passes (padding ++ table.content) c := by
  unfold switchReader
  refine (ensures_mapFault_iff.mp (ensures_take (switchPadding pc))).mapFault.bind ?_
  rintro padding c _ ⟨hlength, hpadding⟩
  refine ensures_bareWord.mapFault.bind fun default d _ hdefault => ?_
  have hwhole : ∀ (table : SwitchTable) (e : Cursor), d ≤ e →
      (table.opcode = opcode ∧ table.Fits ∧
        ∃ bytes, table.content = Word.toBytes default ++ bytes ∧ d.Passes bytes e) →
      table.opcode = opcode ∧ table.Fits ∧ ∃ padding, padding.length = switchPadding pc ∧
        start.Passes (padding ++ table.content) e := by
    rintro table e _ ⟨hopcode, hfits, bytes, hcontent, hbytes⟩
    rw [hcontent]
    exact ⟨hopcode, hfits, padding, hlength, hpadding.trans (hdefault.trans hbytes)⟩
  split
  · next htable =>
    subst htable
    exact (ensures_tableReader default).imp hwhole
  · split
    · next hlookup =>
      subst hlookup
      exact (ensures_lookupReader default).imp hwhole
    · exact ensures_fail _

end Ensures

/-- **The table of an instruction is the one that its operands hold**, for an opcode that has such a
table. Bytes behind the table make no difference. -/
theorem switchTable?_eq_some_iff {instruction : Instruction} {table : SwitchTable} :
    instruction.switchTable? = some table ↔
      table.opcode = instruction.opcode ∧ HoldsTable instruction.pc instruction.operands table := by
  have hresult : instruction.switchTable? = some table ↔
      (switchReader instruction.pc instruction.opcode (.ofBytes instruction.operands)).result =
        .ok table := by
    unfold switchTable?
    cases (switchReader instruction.pc instruction.opcode
      (.ofBytes instruction.operands)).result <;>
      simp [Except.toOption]
  rw [hresult]
  constructor
  · intro hok
    obtain ⟨hopcode, hfits, padding, hpadding, hpasses⟩ := ensures_switchReader _ _ table hok
    exact ⟨hopcode, hfits, padding, _, hpadding, hpasses.rest_eq⟩
  · rintro ⟨hopcode, hfits, padding, rest, hpadding, hoperands⟩
    rw [← hopcode]
    exact (reads_switchReader hpadding hfits ⟨rest, hoperands.symm⟩).1

/-! ## Switches that were read -/

/-- An instruction whose operands are the padding and a table as it is stored, with nothing behind
it. -/
structure IsStored (instruction : Instruction) (table : SwitchTable) : Prop where
  opcode : table.opcode = instruction.opcode
  fits : table.Fits
  hasRange : table.HasRange
  length_padding : (instruction.operands.take (switchPadding instruction.pc)).length =
    switchPadding instruction.pc
  operands : instruction.operands =
    instruction.operands.take (switchPadding instruction.pc) ++ table.content

/-- Operands that are padding and the content of a switch table store that table. -/
lemma isStored_of_eq_append {pc : Nat} {padding : Bytes} {table : SwitchTable} (hfits : table.Fits)
    (hrange : table.HasRange) (hpadding : padding.length = switchPadding pc) :
    IsStored ⟨pc, table.opcode, padding ++ table.content⟩ table := by
  have htake : (padding ++ table.content).take (switchPadding pc) = padding := by
    rw [← hpadding, List.take_left]
  refine ⟨rfl, hfits, hrange, ?_, ?_⟩ <;> dsimp only <;> rw [htake]
  exact hpadding

/-- The operands of a well-formed switch are those of a table. -/
lemma WellFormed.exists_isStored {instruction : Instruction} (h : instruction.WellFormed)
    (hswitch : instruction.opcode = .tableswitch ∨ instruction.opcode = .lookupswitch) :
    ∃ table, instruction.IsStored table := by
  cases h with
  | fixed hlength =>
    dsimp only at hswitch
    rcases hswitch with rfl | rfl <;> cases hlength
  | @tableswitch pc padding targets default low high hpadding hrange htargets =>
    have hword : ∀ bytes : Bytes, bytes.length = 4 → ∃ word : Int32, Word.toBytes word = bytes :=
      fun bytes hlength => ⟨_, Word.toBytes_ofBytes hlength⟩
    obtain ⟨offsets, hcount, rfl⟩ := exists_flatMap_eq hword htargets
    have hlast : SwitchTable.lastKey low offsets = high.toInt := by
      unfold SwitchTable.lastKey
      omega
    have hne : offsets ≠ [] := by
      rintro rfl
      rw [List.length_nil] at hcount
      omega
    have hstored := isStored_of_eq_append (SwitchTable.fits_of_lastKey default hlast) hne hpadding
    simp only [SwitchTable.content, hlast, Int32.ofInt_toInt, ← List.append_assoc] at hstored
    exact ⟨_, hstored⟩
  | @lookupswitch pc padding bytes default count hpadding hcount hbytes =>
    obtain ⟨pairs, hpairs, rfl⟩ := exists_flatMap_eq (fun _ => exists_pairBytes_eq) hbytes
    have hlength : (pairs.length : Int) = count.toInt := by omega
    have hstored :=
      isStored_of_eq_append (SwitchTable.fits_of_length default hlength) trivial hpadding
    simp only [SwitchTable.content, hlength, Int32.ofInt_toInt, ← List.append_assoc] at hstored
    exact ⟨_, hstored⟩
  | wide | wideIncrement => rcases hswitch with hopcode | hopcode <;> cases hopcode

/-- A table whose bytes are the operands is the table of the instruction. -/
lemma IsStored.switchTable?_eq {instruction : Instruction} {table : SwitchTable}
    (h : instruction.IsStored table) : instruction.switchTable? = some table := by
  refine switchTable?_eq_some_iff.mpr ⟨h.opcode, h.fits, _, [], h.length_padding, ?_⟩
  rw [List.append_nil]
  exact h.operands

/-- Only the two switches have a switch table. -/
lemma opcode_of_switchTable? {instruction : Instruction} {table : SwitchTable}
    (h : instruction.switchTable? = some table) :
    instruction.opcode = .tableswitch ∨ instruction.opcode = .lookupswitch := by
  rw [← (switchTable?_eq_some_iff.mp h).1]
  cases table with
  | table => exact .inl rfl
  | lookup => exact .inr rfl

/-- **The table of a switch that was read accounts for all of its operands.** Exactly the two
switches have a table, and the operands are the padding and the table as it is stored, with nothing
behind it. A table of consecutive keys has at least one, and its last key fits a word.

**Proof sketch.** An instruction that was read is well-formed, so behind the padding stand whole
words, as many as the first of them announce. They are the content of a table, and the table that
the operands hold is this one. -/
theorem switchTable?_of_reader {start : Cursor} {instruction : Instruction}
    (h : (Instruction.reader start).result = .ok instruction) :
    (instruction.switchTable?.isSome ↔
      instruction.opcode = .tableswitch ∨ instruction.opcode = .lookupswitch) ∧
    ∀ table, instruction.switchTable? = some table → instruction.IsStored table := by
  obtain ⟨-, hwellFormed, -⟩ := ensures_reader start instruction h
  constructor
  · rw [Option.isSome_iff_exists]
    constructor
    · rintro ⟨table, htable⟩
      exact opcode_of_switchTable? htable
    · intro hswitch
      obtain ⟨table, hstored⟩ := hwellFormed.exists_isStored hswitch
      exact ⟨table, hstored.switchTable?_eq⟩
  · intro table htable
    obtain ⟨other, hstored⟩ := hwellFormed.exists_isStored (opcode_of_switchTable? htable)
    rw [hstored.switchTable?_eq] at htable
    cases htable
    exact hstored

/-- A switch at the second place of the code, whose last key is the greatest number of a word. -/
def greatestKey : Bytes :=
  [0x1A, 0xAA, 0, 0, 0, 0, 0, 0x20] ++ [0x7F, 0xFF, 0xFF, 0xFE, 0x7F, 0xFF, 0xFF, 0xFF] ++
    [0, 0, 0, 0x10, 0xFF, 0xFF, 0xFF, 0xFF]

/-- A table whose last key is the greatest there is, behind one byte of another instruction. -/
theorem switchTable?_of_reader_greatestKey :
    (Instruction.reader ((Cursor.ofBytes greatestKey).advance 1 (by decide))).result =
      .ok ⟨1, .tableswitch, greatestKey.drop 2⟩ ∧
    IsStored ⟨1, .tableswitch, greatestKey.drop 2⟩ (.table 0x20 0x7FFFFFFE [0x10, -1]) := by
  have hread : (Instruction.reader ((Cursor.ofBytes greatestKey).advance 1 (by decide))).result =
      .ok ⟨1, .tableswitch, greatestKey.drop 2⟩ := rfl
  exact ⟨hread, (switchTable?_of_reader hread).2 _ rfl⟩

/-! ## Switches from elsewhere -/

/-- The first and the last key that the operands of a switch of consecutive keys at a place
announce. -/
def HoldsRange (pc : Nat) (operands : Bytes) (low high : Int32) : Prop :=
  ∃ (padding : Bytes) (default : Int32) (rest : Bytes), padding.length = switchPadding pc ∧
    operands = padding ++ Word.toBytes default ++ Word.toBytes low ++ Word.toBytes high ++ rest

/-- A range that ends before it begins is refused. -/
lemma reader_of_inverted {start : Cursor} {operands : Bytes} {low high : Int32}
    (hrest : start.rest = Opcode.tableswitch.byte :: operands)
    (hrange : HoldsRange start.offset operands low high) (hinverted : high.toInt < low.toInt) :
    (Instruction.reader start).result = .error (.malformedSwitch start.offset) := by
  obtain ⟨padding, default, rest, hpadding, hoperands⟩ := hrange
  have hopcode : Reads Record.word start [Opcode.tableswitch.byte] Opcode.tableswitch.byte :=
    reads_byte _
  have hbyte : [Opcode.tableswitch.byte] <+: start.rest := ⟨operands, hrest.symm⟩
  obtain ⟨hresult, hoffset⟩ := hopcode hbyte
  have hahead : (Record.word (α := UInt8) start).cursor.rest = operands := by
    rw [hopcode.rest_eq hbyte, hrest]
    rfl
  have hpc : (Record.word (α := UInt8) start).cursor.offset = start.offset + 1 := hoffset
  obtain ⟨hlow, hhigh⟩ := reads_range hpc hpadding
    (by rw [hahead, hoperands]; exact List.prefix_append _ rest)
  have hlength :
      (operandLength start.offset .tableswitch (Record.word (α := UInt8) start).cursor).result =
      .error (.malformedSwitch start.offset) := by
    show (tableLength start.offset _).result = _
    unfold tableLength
    rw [result_bind_of_ok (hlow (List.nil_prefix)).1, cursor_wordAt,
      result_bind_of_ok (hhigh (List.nil_prefix)).1, if_pos hinverted]
    rfl
  unfold Instruction.reader
  have hhere : (here start : Outcome Fault Cursor start).result = .ok start := rfl
  rw [result_bind_of_ok hhere]
  show ((Record.word >>= _) start).result = _
  rw [result_bind_of_ok hresult, Opcode.ofByte?_byte]
  exact result_bind_of_error hlength

/-- A table that has its range makes the operands well-formed up to its end. -/
lemma wellFormed_of_hasRange {pc : Nat} {padding : Bytes} {table : SwitchTable} (hfits : table.Fits)
    (hrange : table.HasRange) (hpadding : padding.length = switchPadding pc) :
    WellFormed ⟨pc, table.opcode, padding ++ table.content⟩ := by
  cases table with
  | table default low offsets =>
    have hlast := toInt_ofInt_of_fits hfits.1 hfits.2
    have hpositive : 0 < offsets.length := List.length_pos_of_ne_nil hrange
    have hcount : (Int32.ofInt (SwitchTable.lastKey low offsets)).toInt - low.toInt + 1 =
        offsets.length := by
      rw [hlast, SwitchTable.lastKey]
      omega
    simp only [SwitchTable.content, ← List.append_assoc]
    refine .tableswitch default hpadding (by omega) ?_
    rw [length_flatMap_of_forall Word.length_toBytes, hcount]
    rfl
  | lookup default pairs =>
    have hcount := toInt_ofInt_of_fits (by rw [Int32.toInt_minValue]; omega) hfits
    simp only [SwitchTable.content, ← List.append_assoc]
    refine .lookupswitch default hpadding (by omega) ?_
    rw [length_flatMap_of_forall length_pairBytes, hcount]
    rfl

/-- A switch whose operands begin with a table that has its range is read, with this table. -/
lemma exists_reader_of_holdsTable {start : Cursor} {operands : Bytes} {table : SwitchTable}
    (hrest : start.rest = table.opcode.byte :: operands) (hrange : table.HasRange)
    (h : HoldsTable start.offset operands table) :
    ∃ instruction, (Instruction.reader start).result = .ok instruction ∧
      instruction.switchTable? = some table := by
  obtain ⟨hfits, padding, rest, hpadding, hoperands⟩ := h
  have hwellFormed := wellFormed_of_hasRange hfits hrange hpadding
  have hstored := isStored_of_eq_append hfits hrange hpadding
  refine ⟨_, (reads_reader hwellFormed rfl ⟨rest, ?_⟩).1, hstored.switchTable?_eq⟩
  rw [hrest, hoperands]
  rfl

/-- **A table that is taken from operands is inverted exactly if it is empty.** Then its range ends
right before it begins, and an instruction with these operands is refused where it is read. Every
other table is the one of the instruction that is read from the same bytes.

**Proof sketch.** As many targets stand in the table as there are keys in its range, so the range
ends at worst one key before it begins. A range with a key makes the operands well-formed up to the
end of the table. -/
theorem inverted_iff_of_switchTable? {pc : Nat} {operands : Bytes} {table : SwitchTable}
    (h : switchTable? ⟨pc, .tableswitch, operands⟩ = some table) :
    ∃ low high : Int32, HoldsRange pc operands low high ∧
      low.toInt ≤ high.toInt + 1 ∧ (high.toInt < low.toInt ↔ ¬table.HasRange) ∧
      ∀ start : Cursor, start.offset = pc → start.rest = Opcode.tableswitch.byte :: operands →
        ((Instruction.reader start).result = .error (.malformedSwitch pc) ↔ ¬table.HasRange) ∧
        (table.HasRange → ∃ instruction, (Instruction.reader start).result = .ok instruction ∧
          instruction.switchTable? = some table) := by
  obtain ⟨hopcode, htable⟩ := switchTable?_eq_some_iff.mp h
  have ⟨hfits, padding, rest, hpadding, hoperands⟩ := htable
  cases table with
  | lookup => cases hopcode
  | table default low offsets =>
    dsimp only at htable hpadding hoperands
    have hlast := toInt_ofInt_of_fits hfits.1 hfits.2
    set high := Int32.ofInt (SwitchTable.lastKey low offsets) with hhigh
    unfold SwitchTable.lastKey at hlast
    have hheld : HoldsRange pc operands low high := by
      refine ⟨padding, default, offsets.flatMap Word.toBytes ++ rest, hpadding, ?_⟩
      rw [hoperands]
      simp only [SwitchTable.content, ← hhigh, List.append_assoc]
    have hempty : high.toInt < low.toInt ↔ ¬(SwitchTable.table default low offsets).HasRange := by
      show _ ↔ ¬offsets ≠ []
      rw [ne_eq, not_not, ← List.length_eq_zero_iff]
      omega
    refine ⟨low, high, hheld, by omega, hempty, ?_⟩
    rintro start rfl hrest
    have hread : (SwitchTable.table default low offsets).HasRange → _ :=
      fun hrange => exists_reader_of_holdsTable hrest hrange htable
    refine ⟨⟨fun hrefused hrange => ?_, fun hrange => ?_⟩, hread⟩
    · obtain ⟨instruction, haccepted, -⟩ := hread hrange
      rw [hrefused] at haccepted
      cases haccepted
    · exact reader_of_inverted hrest hheld (hempty.mpr hrange)

/-- The operands of a switch at a place with a byte of padding. They hold a table with one key, and
go on behind it. -/
def trailingOperands : Bytes :=
  [0, 0, 0, 0, 9, 0xFF, 0xFF, 0xFF, 0xFF, 0xFF, 0xFF, 0xFF, 0xFF, 0, 0, 0, 2, 0xB1]

/-- Operands with bytes behind the table have a table all the same, and the table is not inverted.
-/
theorem inverted_iff_of_switchTable?_trailing :
    switchTable? ⟨2, .tableswitch, trailingOperands⟩ = some (.table 9 (-1) [2]) ∧
    (∃ low high : Int32, HoldsRange 2 trailingOperands low high ∧ ¬high.toInt < low.toInt) ∧
    ∃ instruction, (Instruction.reader
        ((Cursor.ofBytes ([0, 0, 0xAA] ++ trailingOperands)).advance 2 (by decide))).result =
          .ok instruction ∧
      instruction.switchTable? = some (.table 9 (-1) [2]) := by
  have htable : switchTable? ⟨2, .tableswitch, trailingOperands⟩ = some (.table 9 (-1) [2]) := by
    decide
  have hkey : SwitchTable.HasRange (.table 9 (-1) [2]) := List.cons_ne_nil 2 []
  obtain ⟨low, high, hrange, -, hempty, hread⟩ := inverted_iff_of_switchTable? htable
  exact ⟨htable, ⟨low, high, hrange, fun hlt => hempty.mp hlt hkey⟩, (hread _ rfl rfl).2 hkey⟩

/-- A range from five to four is taken for an empty table, and refused where it is read. -/
theorem switchTable?_of_inverted :
    switchTable? ⟨0, .tableswitch, [0, 0, 0, 0, 0, 0, 9, 0, 0, 0, 5, 0, 0, 0, 4]⟩ =
      some (.table 9 5 []) ∧
    HoldsRange 0 [0, 0, 0, 0, 0, 0, 9, 0, 0, 0, 5, 0, 0, 0, 4] 5 4 ∧
    (4 : Int32).toInt < (5 : Int32).toInt ∧
    (Instruction.reader (.ofBytes [0xAA, 0, 0, 0, 0, 0, 0, 9, 0, 0, 0, 5, 0, 0, 0, 4])).result =
      .error (.malformedSwitch 0) :=
  ⟨rfl, ⟨[0, 0, 0], 9, [], rfl, rfl⟩, by decide, rfl⟩

end Instruction

end ClassFormat
