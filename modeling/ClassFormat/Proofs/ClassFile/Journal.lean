import ClassFormat.ClassFile.Reader
import ClassFormat.Proofs.Decoder.Law

/-!
# Which decoders begin a section

The journal of a decode tells where each section began. Only the decoders of sections write such
notes: what is read inside a section, down to the attributes of a body inside a body, writes none.

## Main definitions

* `ClassFormat.Event.beginning?` — the section that a note begins, and where.
* `ClassFormat.Law.quiet` — the law of outcomes whose journals begin no section.

## Main results

* `ClassFormat.Attribute.quiet_readers` — attributes and bodies begin no section, at any depth.
* `ClassFormat.Pool.quiet_reader`, `ClassFormat.Field.quiet_reader`,
  `ClassFormat.Method.quiet_reader` — nor do the pool and the members.
-/

namespace ClassFormat

/-- The section that a note begins, and where. -/
def Event.beginning? : Event → Option (Section × Nat)
  | beginning part offset => some (part, offset)
  | _ => none

/-- The law of outcomes whose journals begin no section. -/
def Law.quiet (ε : Type) : Law ε where
  Holds outcome := ∀ event ∈ outcome.journal, event.beginning? = none
  pure _ := by simp [Outcome.pure]
  andThen {_ _ _ first next} hfirst hnext := by
    unfold Outcome.andThen
    split
    · next value h =>
      intro event hevent
      rcases List.mem_append.mp hevent with hmem | hmem
      · exact hfirst event hmem
      · exact hnext value h event hmem
    · exact hfirst

open Decoder hiding word split
open Record

namespace Decoder

variable {ε ε' α : Type}

/-- A decoder that begins no section, from a given cursor. -/
abbrev Quiet (decoder : Decoder ε α) (start : Cursor) : Prop :=
  Obeys (Law.quiet ε) decoder start

/-- A decoder that notes nothing begins no section. -/
lemma quiet_of_journal_eq_nil {decoder : Decoder ε α} {start : Cursor}
    (h : (decoder start).journal = []) : Quiet decoder start := by
  show ∀ event ∈ _, _
  rw [h]
  simp

/-- Failing begins no section. -/
lemma quiet_fail (fault : ε) (start : Cursor) : Quiet (fail fault : Decoder ε α) start :=
  quiet_of_journal_eq_nil rfl

/-- A result from elsewhere begins no section. -/
lemma quiet_given (found : Except ε α) (start : Cursor) : Quiet (given found) start := by
  cases found <;> exact quiet_of_journal_eq_nil rfl

/-- A note begins no section unless it says so. -/
lemma quiet_note {event : Event} (h : event.beginning? = none) (start : Cursor) :
    Quiet (note event : Decoder ε Unit) start := by
  intro found hfound
  rw [List.mem_singleton.mp hfound]
  exact h

/-- What is quiet in a window is quiet from outside. -/
lemma quiet_inside {window : Cursor} {decoder : Decoder ε α} (h : Quiet decoder window)
    (start : Cursor) : Quiet (inside window decoder) start :=
  h

/-- A change of faults leaves the journal as it is. -/
lemma Quiet.mapFault {decoder : Decoder ε α} {start : Cursor} (h : Quiet decoder start)
    (f : ε → ε') : Quiet (decoder.mapFault f) start :=
  h

/-- Taking bytes begins no section. -/
lemma quiet_take (count : Nat) (start : Cursor) : Quiet (take count) start := by
  by_cases h : count ≤ start.remaining
  · exact quiet_of_journal_eq_nil (by rw [take_apply_of_le h])
  · exact quiet_of_journal_eq_nil (by rw [take_apply_of_lt (Nat.lt_of_not_le h)]; rfl)

end Decoder

namespace Record

variable {α : Type}

/-- Reading a word begins no section. -/
lemma quiet_word [Word α] (start : Cursor) : Quiet (word : Decoder Fault α) start :=
  ((quiet_take _ start).bind fun _ _ => obeys_pure _ _ : Quiet Decoder.word start)

/-- Opening a window begins no section. -/
lemma quiet_split (count : Nat) (start : Cursor) : Quiet (split count) start :=
  ((obeys_here start).bind fun _ _ => (quiet_take _ _).bind fun _ _ => obeys_pure _ _ :
    Quiet (Decoder.split count) start)

/-- A table is quiet if its records are. -/
lemma quiet_table {record : Decoder Fault α} {start : Cursor}
    (h : ∀ c, start ≤ c → Quiet record c) : Quiet (table record) start := by
  refine (quiet_word start).bind fun count _ => Obeys.seq (fun c hc => ?_) count.toNat
  exact h c (Cursor.le_trans (word (α := UInt16) start).ahead hc)

end Record

/-! ## The constant pool -/

namespace Constant

/-- A text begins no section. -/
lemma quiet_textReader (start : Cursor) : Quiet textReader start := by
  apply quiet_of_journal_eq_nil
  unfold textReader
  split <;> rfl

/-- The content of a constant begins no section. -/
lemma quiet_contentReader (index : Index) (kind : Kind) (start : Cursor) :
    Quiet (contentReader index kind) start := by
  cases kind with
  | utf8 => exact (quiet_textReader start).bind fun _ _ => obeys_pure _ _
  | integer | float | long | double | label =>
    exact (quiet_word start).bind fun _ _ => obeys_pure _ _
  | member | nameAndType | dynamic =>
    exact (quiet_word start).bind fun _ _ => (quiet_word _).bind fun _ _ => obeys_pure _ _
  | methodHandle =>
    refine (quiet_word start).bind fun code _ => ?_
    split
    · exact (quiet_word _).bind fun _ _ => obeys_pure _ _
    · exact quiet_fail _ _

/-- The length of a constant begins no section. -/
lemma quiet_lengthReader (kind : Kind) (start : Cursor) : Quiet (lengthReader kind) start := by
  unfold lengthReader
  split
  · exact obeys_pure _ _
  · exact (quiet_word start).bind fun _ _ => obeys_pure _ _

/-- A constant begins no section. -/
lemma quiet_reader (index : Index) (start : Cursor) : Quiet (Constant.reader index) start := by
  unfold Constant.reader
  refine (quiet_word start).bind fun tag _ => ?_
  split
  · next kind _ =>
    refine (quiet_lengthReader kind _).bind fun length _ => (quiet_split length _).bind ?_
    intro window _
    exact (quiet_inside (quiet_contentReader index kind window) _).bind fun _ _ => obeys_pure _ _
  · exact quiet_fail _ _

end Constant

namespace Pool

/-- A slot begins no section. -/
lemma quiet_slotReader (slots : Array Slot) (start : Cursor) : Quiet (slotReader slots) start := by
  unfold slotReader
  split
  · exact obeys_pure _ _
  · refine ((Constant.quiet_reader _ start).mapFault _).bind fun constant _ => ?_
    exact (quiet_note rfl _).bind fun _ _ => obeys_pure _ _

/-- A constant pool notes how large it is, but no beginning of a section. -/
lemma quiet_reader (start : Cursor) : Quiet Pool.reader start := by
  unfold Pool.reader
  refine (obeys_position start).bind fun _ _ => (quiet_word _).bind fun declared _ => ?_
  split
  · exact quiet_fail _ _
  · refine (Obeys.grow (fun items c _ => quiet_slotReader items c) _).bind fun slots _ => ?_
    split
    · exact quiet_fail _ _
    · refine (obeys_position _).bind fun stop _ => ?_
      exact (quiet_note rfl _).bind fun _ _ => obeys_pure _ _

end Pool

/-! ## Instructions and handlers -/

namespace Instruction

variable {α : Type}

/-- Looking at a word ahead begins no section. -/
lemma quiet_wordAt [Word α] (offset : Nat) (start : Cursor) :
    Quiet (wordAt offset : Decoder Fault α) start :=
  (obeys_here start).bind fun _ _ => quiet_given _ _

/-- Finding the length of a table begins no section. -/
lemma quiet_tableLength (pc : Nat) (start : Cursor) : Quiet (tableLength pc) start := by
  unfold tableLength
  refine (quiet_wordAt _ start).bind fun low _ => (quiet_wordAt _ _).bind fun high _ => ?_
  split
  · exact quiet_fail _ _
  · exact obeys_pure _ _

/-- Finding the length of a list of pairs begins no section. -/
lemma quiet_lookupLength (pc : Nat) (start : Cursor) : Quiet (lookupLength pc) start := by
  unfold lookupLength
  refine (quiet_wordAt _ start).bind fun count _ => ?_
  split
  · exact quiet_fail _ _
  · exact obeys_pure _ _

/-- Finding the length of a widened instruction begins no section. -/
lemma quiet_wideLength (pc : Nat) (start : Cursor) : Quiet (wideLength pc) start := by
  unfold wideLength
  refine (quiet_wordAt _ start).bind fun modified _ => ?_
  split
  · exact obeys_pure _ _
  · exact quiet_fail _ _

/-- Finding the length of operands begins no section. -/
lemma quiet_operandLength (pc : Nat) (opcode : Opcode) (start : Cursor) :
    Quiet (operandLength pc opcode) start := by
  unfold operandLength
  split
  · exact obeys_pure _ _
  · split
    · exact quiet_tableLength pc start
    · split
      · exact quiet_lookupLength pc start
      · exact quiet_wideLength pc start

/-- An instruction begins no section. -/
lemma quiet_reader (start : Cursor) : Quiet Instruction.reader start := by
  unfold Instruction.reader
  refine (obeys_here start).bind fun _ _ => (quiet_word _).bind fun byte _ => ?_
  split
  · next opcode _ =>
    refine (quiet_operandLength _ opcode _).bind fun length _ => ?_
    refine ((quiet_take length _).mapFault _).bind fun operands _ => ?_
    exact (quiet_note rfl _).bind fun _ _ => obeys_pure _ _
  · exact quiet_fail _ _

/-- A code array begins no section. -/
lemma quiet_allReader (start : Cursor) : Quiet allReader start :=
  Obeys.untilEmpty _ fun c _ => (quiet_reader c).mapFault _

end Instruction

/-- A handler begins no section. -/
lemma Handler.quiet_reader (pool : Pool) (codeLength : Nat) (start : Cursor) :
    Quiet (Handler.reader pool codeLength) start := by
  unfold Handler.reader
  refine (quiet_word start).bind fun first _ => (quiet_word _).bind fun last _ => ?_
  refine (quiet_word _).bind fun target _ => (quiet_word _).bind fun catches _ => ?_
  have hrange : ∀ name c, Quiet (do
      let handler ← given (Handler.ofRange first.toNat last.toNat target.toNat name)
      if codeLength < last.toNat then fail (.malformedRange first.toNat last.toNat)
      else return handler) c := by
    intro name c
    refine (quiet_given _ c).bind fun handler _ => ?_
    split
    · exact quiet_fail _ _
    · exact obeys_pure _ _
  by_cases hcatches : catches = 0
  · simp only [hcatches, if_true]
    exact (obeys_pure _ _).bind fun name _ => hrange name _
  · simp only [hcatches, if_false]
    exact ((quiet_given _ _).bind fun _ _ => obeys_pure _ _).bind fun name _ => hrange name _

/-! ## Attributes and members -/

namespace Attribute

/-- A frame begins no section. -/
lemma quiet_frameReader (pool : Pool) (start : Cursor) : Quiet (frameReader pool) start := by
  unfold frameReader
  refine (quiet_word start).bind fun nameIndex _ => (quiet_given _ _).bind fun name _ => ?_
  refine (quiet_word _).bind fun length _ => ?_
  exact (quiet_split _ _).bind fun payload _ => obeys_pure _ _

/-- The bytes behind a body are noted, but no beginning of a section. -/
lemma quiet_finishCode (frame : Frame) (body : Code) (stop start : Cursor) :
    Quiet (finishCode frame body stop) start := by
  unfold finishCode
  split
  · exact obeys_pure _ _
  · exact (quiet_note rfl _).bind fun _ _ => obeys_pure _ _

end Attribute

/-- The head of a body begins no section. -/
lemma Code.quiet_headReader (pool : Pool) (start : Cursor) :
    Quiet (Code.headReader pool) start := by
  unfold Code.headReader
  refine (quiet_word start).bind fun maxStack _ => (quiet_word _).bind fun maxLocals _ => ?_
  refine (quiet_word _).bind fun codeLength _ => (quiet_split _ _).bind fun window _ => ?_
  refine (quiet_inside (Instruction.quiet_allReader window) _).bind fun _ _ => ?_
  refine (quiet_table fun c _ => Handler.quiet_reader pool _ c).bind fun handlers _ => ?_
  exact obeys_pure _ _

namespace Attribute

/-- Attributes, bodies and lists of attributes begin no section. -/
theorem quiet_readers (pool : Pool) (start : Cursor) :
    Quiet (Attribute.reader pool) start ∧ Quiet (Code.reader pool) start ∧
      Quiet (Attribute.listReader pool) start := by
  refine readers_induction pool ?_ ?_ ?_ start
  · intro start hbody
    rw [Attribute.reader_eq]
    refine (quiet_frameReader pool start).bind fun frame hframe => ?_
    split
    · exact (quiet_inside (hbody frame hframe) _).bind fun _ _ => quiet_finishCode frame _ _ _
    · exact obeys_pure _ _
  · intro start hlist
    rw [Code.reader_eq]
    refine (Code.quiet_headReader pool start).bind fun head hhead => ?_
    refine (hlist head hhead).bind fun attributes _ => ?_
    exact (quiet_note rfl _).bind fun _ _ => obeys_pure _ _
  · intro start hitem
    rw [Attribute.listReader_eq]
    refine (quiet_word start).bind fun count hcount => Obeys.seq (fun c hc => ?_) count.toNat
    exact (hitem count hcount c hc).mapFault _

/-- A list of attributes begins no section, at any depth. -/
lemma quiet_listReader (pool : Pool) (start : Cursor) : Quiet (Attribute.listReader pool) start :=
  (quiet_readers pool start).2.2

end Attribute

/-- Flags begin no section. -/
lemma Access.quiet_reader (options : Options) (target : AccessTarget) (start : Cursor) :
    Quiet (Access.reader options target) start := by
  unfold Access.reader
  refine (quiet_word start).bind fun raw _ => ?_
  dsimp only
  split
  · exact (quiet_given _ _).bind fun _ _ => obeys_pure _ _
  · exact obeys_pure _ _

/-- A field begins no section. -/
lemma Field.quiet_reader (pool : Pool) (options : Options) (start : Cursor) :
    Quiet (Field.reader pool options) start := by
  unfold Field.reader
  refine (Access.quiet_reader options .field start).bind fun access _ => ?_
  refine (quiet_word _).bind fun nameIndex _ => (quiet_given _ _).bind fun name _ => ?_
  refine (quiet_word _).bind fun index _ => (quiet_given _ _).bind fun descriptor _ => ?_
  refine (quiet_given _ _).bind fun type _ => ?_
  split
  · exact quiet_fail _ _
  · exact (Attribute.quiet_listReader pool _).bind fun attributes _ => obeys_pure _ _

/-- A method begins no section. -/
lemma Method.quiet_reader (pool : Pool) (options : Options) (start : Cursor) :
    Quiet (Method.reader pool options) start := by
  unfold Method.reader
  refine (Access.quiet_reader options .method start).bind fun access _ => ?_
  refine (quiet_word _).bind fun nameIndex _ => (quiet_given _ _).bind fun name _ => ?_
  refine (quiet_word _).bind fun index _ => (quiet_given _ _).bind fun descriptor _ => ?_
  refine (quiet_given _ _).bind fun signature _ => ?_
  exact (Attribute.quiet_listReader pool _).bind fun attributes _ => obeys_pure _ _

/-! ## What sections hold -/

namespace ClassFile

/-- What stands in the header begins no further section. -/
lemma quiet_headerReader (options : Options) (start : Cursor) :
    Quiet (headerReader options) start := by
  unfold headerReader
  refine (quiet_word start).bind fun found _ => ?_
  split
  · exact quiet_fail _ _
  · refine (obeys_position _).bind fun _ _ => ?_
    refine (quiet_word _).bind fun minor _ => (quiet_word _).bind fun major _ => ?_
    split
    · exact quiet_fail _ _
    · exact obeys_pure _ _

/-- What stands in the section of the constant pool begins no further section. -/
lemma quiet_poolReader (options : Options) (start : Cursor) : Quiet (poolReader options) start := by
  unfold poolReader
  refine (Pool.quiet_reader start).bind fun pool _ => ?_
  split
  · exact (quiet_given _ _).bind fun _ _ => obeys_pure _ _
  · exact obeys_pure _ _

/-- The names of a class begin no further section. -/
lemma quiet_namesReader (pool : Pool) (start : Cursor) : Quiet (namesReader pool) start := by
  unfold namesReader
  refine (quiet_word start).bind fun this _ => (quiet_word _).bind fun super _ => ?_
  refine (quiet_given _ _).bind fun name _ => ?_
  split
  · exact (obeys_pure _ _).bind fun superName _ => obeys_pure _ _
  · exact (quiet_given _ _).bind fun superName _ => obeys_pure _ _

/-- An interface begins no section. -/
lemma quiet_interfaceReader (pool : Pool) (start : Cursor) : Quiet (interfaceReader pool) start :=
  (quiet_word start).bind fun _ _ => quiet_given _ _

end ClassFile

end ClassFormat
