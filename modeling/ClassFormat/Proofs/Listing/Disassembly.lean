import ClassFormat.Attribute.Reader
import ClassFormat.Listing.Contents
import ClassFormat.Proofs.Bytes.Hex
import ClassFormat.Proofs.Instruction.CodeArray
import ClassFormat.Proofs.Listing.Plain
import Mathlib.Data.List.Nodup

/-!
# Reading a disassembly

The listing of a method's body names each instruction by its mnemonic and shows its operands as
pairs of digits. Nothing is lost by that: the code of the body can be put together from the text
alone.

## Main definitions

* `ClassFormat.Opcode.ofMnemonic?` — the opcode with a given mnemonic.
* `ClassFormat.Disassembly.bytesOfLine?` — the bytes of the instruction on a line.
* `ClassFormat.Disassembly.code?` — the code in the listing of a body.

## Main results

* `ClassFormat.Opcode.mnemonic_injective` — no two opcodes have the same mnemonic.
* `ClassFormat.Disassembly.code?_render` — the listing of a body holds the bytes of its
  instructions.
* `ClassFormat.Disassembly.code?_of_reader` — the listing of a body that was read holds its code
  array.
-/

namespace ClassFormat

/-! ## Mnemonics -/

/-- The bytes of a text in UTF-8. -/
def utf8Bytes (text : String) : Bytes :=
  text.toByteArray.data.toList

/-- The bytes of a text are those of its characters. -/
lemma utf8Bytes_eq (text : String) :
    utf8Bytes text = text.toList.flatMap String.utf8EncodeChar := by
  rw [utf8Bytes, ← String.utf8Encode_toList, List.utf8Encode, List.toList_data_toByteArray]

/-- A text whose bytes are all behind the blank holds no blank and no control character. -/
lemma not_mem_toList_of_forall_lt {text : String} (h : ∀ byte ∈ utf8Bytes text, 0x20 < byte)
    {c : Char} (byte : UInt8) (hc : String.utf8EncodeChar c = [byte]) (hbyte : byte ≤ 0x20) :
    c ∉ text.toList := by
  rw [utf8Bytes_eq] at h
  intro hmem
  have hlt := h byte (List.mem_flatMap.mpr ⟨c, hmem, by simp [hc]⟩)
  exact absurd hlt (UInt8.not_lt.mpr hbyte)

namespace Opcode

/-- Every opcode, in byte order. -/
def all : List Opcode :=
  (List.range 256).filterMap fun number => ofByte? (UInt8.ofNat number)

/-- The opcode with a given mnemonic. -/
def ofMnemonic? (name : String) : Option Opcode :=
  all.find? fun opcode => opcode.mnemonic == name

/-- The list of opcodes is complete. -/
lemma mem_all (opcode : Opcode) : opcode ∈ all := by
  refine List.mem_filterMap.mpr ⟨opcode.byte.toNat, List.mem_range.mpr opcode.byte.toNat_lt, ?_⟩
  rw [UInt8.ofNat_toNat, ofByte?_byte]

/-- No two opcodes have the same row of the table. -/
lemma rank_injective {a b : Opcode} (h : a.rank = b.rank) : a = b := by
  obtain ⟨byte, hassigned⟩ := a
  obtain ⟨byte', hassigned'⟩ := b
  have hbyte : byte.toNat = byte'.toNat := by
    unfold rank at h
    dsimp only at h
    split at h <;> split at h <;> omega
  cases UInt8.toNat_inj.mp hbyte
  rfl

/-- The table has the mnemonic of each opcode at its place. -/
lemma getElem?_table (opcode : Opcode) :
    (table.toList.map Prod.fst)[opcode.rank]? = some opcode.mnemonic := by
  rw [List.getElem?_map, Array.getElem?_toList, Array.getElem?_eq_getElem opcode.rank_lt]
  rfl

/-- The mnemonics in the table are different, as the numbers that their bytes spell are. -/
lemma nodup_mnemonics : (table.toList.map Prod.fst).Nodup := by
  have hnumbers : ((table.toList.map Prod.fst).map fun name =>
      BigEndian.value (utf8Bytes name)).Nodup := by decide +kernel
  exact hnumbers.of_map _

/-- No two opcodes have the same mnemonic. -/
theorem mnemonic_injective {a b : Opcode} (h : a.mnemonic = b.mnemonic) : a = b := by
  have hlt : a.rank < (table.toList.map Prod.fst).length := by
    rw [List.length_map, Array.length_toList]
    exact a.rank_lt
  refine rank_injective ((List.getElem?_inj hlt nodup_mnemonics).mp ?_)
  rw [getElem?_table, getElem?_table, h]

/-- An opcode is found by its mnemonic. -/
lemma ofMnemonic?_mnemonic (opcode : Opcode) : ofMnemonic? opcode.mnemonic = some opcode := by
  cases hfound : ofMnemonic? opcode.mnemonic with
  | none => exact absurd (List.find?_eq_none.mp hfound opcode opcode.mem_all) (by simp)
  | some found =>
    have hname : found.mnemonic = opcode.mnemonic := by simpa using List.find?_some hfound
    rw [mnemonic_injective hname]

/-- A mnemonic is not empty, and all its bytes are behind the blank. -/
lemma utf8Bytes_mnemonic (opcode : Opcode) :
    utf8Bytes opcode.mnemonic ≠ [] ∧ ∀ byte ∈ utf8Bytes opcode.mnemonic, 0x20 < byte := by
  have htable : ∀ name ∈ table.toList.map Prod.fst,
      utf8Bytes name ≠ [] ∧ ∀ byte ∈ utf8Bytes name, 0x20 < byte := by decide +kernel
  exact htable _ (List.mem_of_getElem? opcode.getElem?_table)

/-- A mnemonic is a word without blanks. -/
lemma isWord_mnemonic (opcode : Opcode) :
    opcode.mnemonic.toList ≠ [] ∧ ' ' ∉ opcode.mnemonic.toList ∧ '\n' ∉ opcode.mnemonic.toList := by
  obtain ⟨hne, hbytes⟩ := opcode.utf8Bytes_mnemonic
  refine ⟨fun hnil => hne ?_, ?_, ?_⟩
  · rw [utf8Bytes_eq, hnil]
    rfl
  · exact not_mem_toList_of_forall_lt hbytes 0x20 (by decide) (by decide)
  · exact not_mem_toList_of_forall_lt hbytes 0x0A (by decide) (by decide)

end Opcode

namespace Disassembly

/-! ## Lines of instructions -/

/-- The words of a line, between its blanks. -/
def words (line : List Char) : List (List Char) :=
  (line.splitOn ' ').filter fun word => !word.isEmpty

/-- The bytes of the instruction on a line: its mnemonic, and its operands as pairs of digits if it
has any. -/
def bytesOfLine? (line : List Char) : Option Bytes :=
  match words line with
  | [name] => do
    let opcode ← Opcode.ofMnemonic? (String.ofList name)
    return [opcode.byte]
  | [name, pairs] => do
    let opcode ← Opcode.ofMnemonic? (String.ofList name)
    let operands ← Hex.ofPairs? pairs
    return opcode.byte :: operands
  | _ => none

/-- Words behind a margin of blanks are read back. -/
lemma words_of_intercalate (margin : Nat) {list : List (List Char)} (hne : list ≠ [])
    (h : ∀ word ∈ list, word ≠ [] ∧ ' ' ∉ word) :
    words ([' '].intercalate (List.replicate margin [] ++ list)) = list := by
  have hblank : ∀ word ∈ List.replicate margin [] ++ list, ' ' ∉ word := by
    intro word hword
    rcases List.mem_append.mp hword with hmem | hmem
    · rw [List.eq_of_mem_replicate hmem]
      exact List.not_mem_nil
    · exact (h word hmem).2
  rw [words, List.splitOn_intercalate _ hblank (List.append_ne_nil_of_right_ne_nil _ hne),
    List.filter_append]
  have hmargin :
      (List.replicate margin ([] : List Char)).filter (fun word => !word.isEmpty) = [] := by
    rw [List.filter_replicate_of_neg (by decide)]
  have hlist : list.filter (fun word => !word.isEmpty) = list := by
    refine List.filter_eq_self.mpr fun word hword => ?_
    simpa using (h word hword).1
  rw [hmargin, hlist, List.nil_append]

/-- The words of an instruction: its mnemonic, and its operands if it has any. -/
def wordsOf (instruction : Instruction) : List (List Char) :=
  instruction.opcode.mnemonic.toList ::
    if instruction.operands.isEmpty then [] else [(Hex.pairs instruction.operands).toList]

/-- The line of an instruction is its words behind a margin. -/
lemma chars_instruction (instruction : Instruction) :
    Line.chars (Contents.instruction instruction) =
      [' '].intercalate (List.replicate 10 [] ++ wordsOf instruction) := by
  unfold Contents.instruction wordsOf
  split <;> simp [Line.chars, Piece.bare, Role.piece, Contents.operands, List.replicate_succ]

/-- The words on the line of an instruction are not empty, and no blank or line end stands in them.
-/
lemma isWord_of_mem_wordsOf {instruction : Instruction} {word : List Char}
    (h : word ∈ wordsOf instruction) : word ≠ [] ∧ ' ' ∉ word ∧ '\n' ∉ word := by
  rcases List.mem_cons.mp h with rfl | hpairs
  · exact instruction.opcode.isWord_mnemonic
  · split at hpairs
    · cases hpairs
    · next hoperands =>
      rw [List.mem_singleton.mp hpairs]
      refine ⟨fun hnil => hoperands ?_, fun hmem => ?_, fun hmem => ?_⟩
      · exact List.isEmpty_iff.mpr (Hex.eq_nil_of_pairs hnil)
      · exact absurd (Hex.isAlphanum_of_mem_pairs hmem) (by decide)
      · exact absurd (Hex.isAlphanum_of_mem_pairs hmem) (by decide)

/-- The bytes of an instruction are read back from its line. -/
lemma bytesOfLine?_instruction (instruction : Instruction) :
    bytesOfLine? (Line.chars (Contents.instruction instruction)) = some instruction.bytes := by
  have hwords : words (Line.chars (Contents.instruction instruction)) = wordsOf instruction := by
    rw [chars_instruction]
    refine words_of_intercalate 10 (List.cons_ne_nil _ _) fun word hword => ?_
    exact ⟨(isWord_of_mem_wordsOf hword).1, (isWord_of_mem_wordsOf hword).2.1⟩
  rw [bytesOfLine?, hwords, wordsOf]
  -- an instruction without operands is one word, any other is two
  cases hoperands : instruction.operands with
  | nil =>
    show (do
      return [(← Opcode.ofMnemonic? (String.ofList instruction.opcode.mnemonic.toList)).byte]) = _
    rw [String.ofList_toList, Opcode.ofMnemonic?_mnemonic, Instruction.bytes, hoperands]
    rfl
  | cons operand operands =>
    show (do
      let opcode ← Opcode.ofMnemonic? (String.ofList instruction.opcode.mnemonic.toList)
      return opcode.byte :: (← Hex.ofPairs? (Hex.pairs (operand :: operands)).toList)) = _
    rw [String.ofList_toList, Opcode.ofMnemonic?_mnemonic, Hex.ofPairs?_pairs, Instruction.bytes,
      hoperands]
    rfl

/-! ## Bodies -/

/-- The line behind which the instructions of a body begin. -/
def bodyLine : List Char :=
  "        Body:".toList

/-- The code in the listing of a body: the bytes of the lines behind the one that announces them. -/
def code? (text : String) : Option Bytes := do
  let blocks ← (((linesOf text).dropWhile (· != bodyLine)).tail).mapM bytesOfLine?
  return blocks.flatten

/-- The bytes of instructions are read back from their lines. -/
lemma mapM_bytesOfLine? (instructions : List Instruction) :
    (instructions.map fun instruction => Line.chars (Contents.instruction instruction)).mapM
      bytesOfLine? =
      some (instructions.map Instruction.bytes) := by
  induction instructions with
  | nil => rfl
  | cons instruction instructions ih =>
    rw [List.map_cons, List.mapM_cons, bytesOfLine?_instruction, ih]
    rfl

/-- A line before the one that announces the instructions, and other than that. -/
def IsPreamble (line : List Char) : Prop :=
  '\n' ∉ line ∧ line ≠ bodyLine

/-- A line with a label of its own, which shows at the first character behind the margin. -/
lemma isPreamble_bare {label text : String} {c : Char} (hlabel : label.toList[8]? = some c)
    (hc : c ≠ 'B') (hnewline : '\n' ∉ label.toList) (htext : '\n' ∉ text.toList) :
    IsPreamble (Line.chars [.bare (label ++ text)]) := by
  have hchars : Line.chars [.bare (label ++ text)] = label.toList ++ text.toList := by
    simp [Line.chars, Piece.bare]
  have hbody : bodyLine[8]? = some 'B' := rfl
  have hlt : 8 < label.toList.length := (List.getElem?_eq_some_iff.mp hlabel).1
  rw [hchars]
  refine ⟨by simp [hnewline, htext], fun heq => ?_⟩
  rw [← heq, List.getElem?_append_left hlt, hlabel] at hbody
  exact hc (Option.some.inj hbody)

/-- The head of a body ends with the line that announces the instructions. -/
lemma exists_map_chars_codeHead (code : Code) :
    ∃ front, (∀ line ∈ front, IsPreamble line) ∧
      (Contents.codeHead code).map Line.chars = front ++ [bodyLine] := by
  have hcount : ∀ count : Nat, '\n' ∉ (toString count ++ " (not dumped)").toList := by
    intro count
    have hsuffix : '\n' ∉ " (not dumped)".toList := by decide
    rw [String.toList_append, List.mem_append]
    exact not_or.mpr ⟨not_mem_toString (by decide) count, hsuffix⟩
  refine ⟨((Contents.codeHead code).take 4).map Line.chars, ?_, rfl⟩
  simp only [Contents.codeHead, List.take_succ_cons, List.take_zero, List.map_cons, List.map_nil,
    List.forall_mem_cons, String.append_assoc]
  refine ⟨?_, ?_, ?_, ?_, nofun⟩
  · exact isPreamble_bare (c := 'M') rfl (by decide) (by decide)
      (not_mem_toString (by decide) _)
  · exact isPreamble_bare (c := 'M') rfl (by decide) (by decide)
      (not_mem_toString (by decide) _)
  · exact isPreamble_bare (c := 'E') rfl (by decide) (by decide) (hcount _)
  · exact isPreamble_bare (c := 'A') rfl (by decide) (by decide) (hcount _)

/-- The line of an instruction does not break in its middle. -/
lemma newline_not_mem_instruction (instruction : Instruction) :
    '\n' ∉ Line.chars (Contents.instruction instruction) := by
  have hwords : ∀ word ∈ wordsOf instruction, '\n' ∉ word :=
    fun word hword => (isWord_of_mem_wordsOf hword).2.2
  rw [chars_instruction]
  unfold wordsOf at hwords ⊢
  split at hwords <;> simp_all [List.replicate_succ]

/-- The lines of a body, as they are found in its listing. -/
lemma linesOf_code (code : Code) :
    ∃ front, (∀ line ∈ front, IsPreamble line) ∧
      linesOf (Palette.plain.render (Contents.code code)) = front ++ bodyLine ::
        code.instructions.map fun instruction => Line.chars (Contents.instruction instruction) := by
  obtain ⟨front, hfront, hhead⟩ := exists_map_chars_codeHead code
  have hlines : (Contents.code code).map Line.chars = front ++ bodyLine ::
      code.instructions.map fun instruction => Line.chars (Contents.instruction instruction) := by
    rw [Contents.code, List.map_append, hhead, List.map_map, List.append_assoc]
    rfl
  refine ⟨front, hfront, ?_⟩
  rw [linesOf_render, hlines]
  intro line hline
  have hline := List.mem_map_of_mem (f := Line.chars) hline
  rw [hlines] at hline
  generalize Line.chars line = chars at hline ⊢
  rcases List.mem_append.mp hline with hmem | hmem
  · exact (hfront chars hmem).1
  · rcases List.mem_cons.mp hmem with rfl | hmem
    · decide
    · obtain ⟨instruction, _, rfl⟩ := List.mem_map.mp hmem
      exact newline_not_mem_instruction instruction

/-- The listing of a body holds the bytes of its instructions.

**Proof sketch.** The lines are told apart by their ends, and the first line that announces
instructions is the last one of the head. Each line behind it is one word or two: the mnemonic,
which names one opcode only, and the operands, from whose digits the bytes are read back. -/
theorem code?_render (code : Code) :
    code? (Palette.plain.render (Contents.code code)) =
      some (code.instructions.flatMap Instruction.bytes) := by
  obtain ⟨front, hfront, hlines⟩ := linesOf_code code
  have hbody : ((front ++ bodyLine :: code.instructions.map fun instruction =>
      Line.chars (Contents.instruction instruction)).dropWhile (· != bodyLine)).tail =
      code.instructions.map fun instruction => Line.chars (Contents.instruction instruction) := by
    rw [List.dropWhile_append_of_pos fun line hline => bne_iff_ne.mpr (hfront line hline).2,
      List.dropWhile_cons_of_neg (by simp), List.tail_cons]
  rw [code?, hlines, hbody, mapM_bytesOfLine?]
  show some (code.instructions.map Instruction.bytes).flatten = _
  rw [List.flatMap_def]

end Disassembly

/-! ## Bodies that were read -/

open Decoder hiding word split split_ok
open Record

/-- The code array of a body stands behind its length, and is read to the instructions by itself. -/
lemma Code.ensures_codeArray (pool : Pool) (start : Cursor) :
    Ensures (Code.reader pool) start fun code _ => ∃ array tail,
      start.rest = Word.toBytes code.maxStack ++ Word.toBytes code.maxLocals ++
        Word.toBytes code.codeLength ++ array ++ tail ∧
      array.length = code.codeLength.toNat ∧
      (Instruction.allReader (.ofBytes array)).result = .ok code.instructions := by
  have hhead : Ensures (Code.headReader pool) start fun head _ => ∃ array tail,
      start.rest = Word.toBytes head.maxStack ++ Word.toBytes head.maxLocals ++
        Word.toBytes head.codeLength ++ array ++ tail ∧
      array.length = head.codeLength.toNat ∧
      (Instruction.allReader (.ofBytes array)).result = .ok head.instructions := by
    unfold Code.headReader
    refine ensures_word.bind fun maxStack c _ hstack => ?_
    refine ensures_word.bind fun maxLocals d _ hlocals => ?_
    refine ensures_word.bind fun codeLength e _ hcodeLength => ?_
    refine (ensures_split codeLength.toNat).bind ?_
    rintro window f _ ⟨hoffset, hlength, hwindow⟩
    refine (ensures_inside (Instruction.ensures_allReader window)).bind ?_
    rintro ⟨instructions, stop⟩ g _ ⟨hlaidOut, hrest⟩
    refine ensures_bind fun handlers _ => ensures_pure ⟨window.rest, f.rest, ?_, hlength, ?_⟩
    · exact (((hstack.trans hlocals).trans hcodeLength).trans hwindow).rest_eq
    · rw [hoffset] at hlaidOut
      exact Instruction.result_allReader hlaidOut hrest
  rw [Code.reader_eq]
  refine hhead.bind fun head c _ harray => ensures_bind fun attributes _ => ?_
  exact ensures_bind fun _ _ => ensures_pure harray

namespace Disassembly

/-- **A disassembly is lossless.** A body that was read has its code array behind its two maxima and
its length, and that array can be put together again from the listing of the body.

**Proof sketch.** The array is the bytes of the instructions that were read from it, padding
included, and the listing holds the bytes of all instructions. -/
theorem code?_of_reader {pool : Pool} {start : Cursor} {code : Code}
    (h : (Code.reader pool start).result = .ok code) :
    ∃ array tail,
      start.rest = Word.toBytes code.maxStack ++ Word.toBytes code.maxLocals ++
        Word.toBytes code.codeLength ++ array ++ tail ∧
      array.length = code.codeLength.toNat ∧
      (Instruction.allReader (.ofBytes array)).result = .ok code.instructions ∧
      code? (Palette.plain.render (Contents.code code)) = some array := by
  obtain ⟨array, tail, hrest, hlength, hinstructions⟩ := Code.ensures_codeArray pool start code h
  have hbytes : array = code.instructions.flatMap Instruction.bytes :=
    (Instruction.ensures_allReader (.ofBytes array) code.instructions hinstructions).2
  refine ⟨array, tail, hrest, hlength, hinstructions, ?_⟩
  rw [code?_render, ← hbytes]

/-- A code array with a switch, whose padding is not zero, and with a wide instruction. -/
def switchAndWide : Bytes :=
  [0x00] ++
    [0xAA, 0x7F, 0xFF, 0, 0, 0, 23, 0, 0, 0, 0, 0, 0, 0, 0, 0, 0, 0, 19] ++
    [0xC4, 0x15, 0, 1] ++
    [0xB1]

/-- A body with this code array, without handlers and attributes. -/
def switchAndWideBody : Bytes :=
  [0, 1, 0, 2, 0, 0, 0, 25] ++ (switchAndWide ++ [0, 0, 0, 0])

/-- The padding of the switch is in the listing too. -/
theorem code?_of_reader_switchAndWide :
    ∃ code, (Code.reader Pool.empty (.ofBytes switchAndWideBody)).result = .ok code ∧
      code? (Palette.plain.render (Contents.code code)) = some switchAndWide := by
  generalize hread : (Code.reader Pool.empty (.ofBytes switchAndWideBody)).result = found
  have hhead : found.toOption.map (fun code => (code.maxStack, code.maxLocals, code.codeLength)) =
      some (1, 2, 25) := by
    rw [← hread, Code.reader_eq, Attribute.listReader_eq]
    decide +kernel
  cases found with
  | error fault => cases hhead
  | ok code =>
    obtain ⟨array, tail, hrest, hlength, _, hcode⟩ := code?_of_reader hread
    simp only [Except.toOption, Option.map_some, Option.some.injEq, Prod.mk.injEq] at hhead
    rw [hhead.1, hhead.2.1, hhead.2.2, List.append_assoc] at hrest
    rw [hhead.2.2] at hlength
    have harray : switchAndWide = array :=
      (List.append_inj (List.append_cancel_left hrest) hlength.symm).1
    exact ⟨code, rfl, harray ▸ hcode⟩

end Disassembly

end ClassFormat
