import ClassFormat.Proofs.ClassFile.Sections
import ClassFormat.Proofs.Decoder.Extension

/-!
# Bytes behind a class file

Sections follow one another, and each one ends where its last record ends. So what stands behind a
class file is never looked at: it changes neither the class file that was found, nor a fault that
was found before the bytes ran out.

## Main results

* `ClassFormat.ClassFile.extensible_sectionsReader` — the sections are read from the cursor on, and
  no further than they reach.
* `ClassFormat.ClassFile.decode_append` — a class file with bytes behind it.
-/

namespace ClassFormat

open Decoder hiding word split Extensible extensible_split
open Record

/-! ## The constant pool -/

/-- The length of a constant does not depend on what follows it. -/
lemma Constant.extensible_lengthReader (kind : Kind) : Extensible (lengthReader kind) := by
  unfold lengthReader
  split
  · exact extensible_pure _
  · exact extensible_word.bind fun _ => extensible_pure _

/-- A constant is decoded in a window of its own, behind its tag and its length. -/
lemma Constant.extensible_reader (index : Index) : Extensible (Constant.reader index) := by
  unfold Constant.reader
  refine extensible_word.bind fun tag => ?_
  split
  · next kind _ =>
    refine (extensible_lengthReader kind).bind fun length => ?_
    refine (extensible_split length).bind fun window => ?_
    exact (extensible_inside window _).bind fun _ => extensible_pure _
  · exact extensible_fail _

namespace Pool

/-- A slot does not depend on what follows it. -/
lemma extensible_slotReader (slots : Array Slot) : Extensible (slotReader slots) := by
  unfold slotReader
  split
  · exact extensible_pure _
  · refine (Constant.extensible_reader _).located.bind fun constant => ?_
    exact (extensible_note _).bind fun _ => extensible_pure _

/-- A constant pool does not depend on what follows it. -/
lemma extensible_reader : Extensible Pool.reader := by
  unfold Pool.reader
  refine extensible_position.bind fun start => extensible_word.bind fun declared => ?_
  split
  · exact extensible_fail _
  · refine (Extensible.grow extensible_slotReader _).bind fun slots => ?_
    split
    · exact extensible_fail _
    · refine extensible_position.bind fun stop => ?_
      exact (extensible_note _).bind fun _ => extensible_pure _

end Pool

/-! ## Attributes and members -/

namespace Attribute

/-- A frame does not depend on what follows its payload. -/
lemma extensible_frameReader (pool : Pool) : Extensible (frameReader pool) := by
  unfold frameReader
  refine extensible_word.bind fun nameIndex => (extensible_given _).bind fun name => ?_
  refine extensible_word.bind fun length => ?_
  exact (extensible_split _).bind fun payload => extensible_pure _

/-- Completing a body does not depend on what follows its frame. -/
lemma extensible_finishCode (frame : Frame) (body : Code) (stop : Cursor) :
    Extensible (finishCode frame body stop) := by
  unfold finishCode
  split
  · exact extensible_pure _
  · exact (extensible_note _).bind fun _ => extensible_pure _

/-- Only the frame of an attribute is read from the outer window, however deeply its payload is
nested. -/
lemma extensible_reader (pool : Pool) : Extensible (Attribute.reader pool) := by
  rw [Attribute.reader_eq]
  refine (extensible_frameReader pool).bind fun frame => ?_
  split
  · refine (extensible_inside frame.payload _).bind ?_
    rintro ⟨body, stop⟩
    exact extensible_finishCode frame body stop
  · exact extensible_pure _

/-- A list of attributes does not depend on what follows it. -/
lemma extensible_listReader (pool : Pool) : Extensible (Attribute.listReader pool) := by
  rw [Attribute.listReader_eq]
  exact (extensible_reader pool).table

end Attribute

/-- Flags do not depend on what follows them. -/
lemma Access.extensible_reader (options : Options) (target : AccessTarget) :
    Extensible (Access.reader options target) := by
  unfold Access.reader
  refine extensible_word.bind fun raw => ?_
  dsimp only
  split
  · exact (extensible_given _).bind fun _ => extensible_pure _
  · exact extensible_pure _

/-- A field does not depend on what follows it. -/
lemma Field.extensible_reader (pool : Pool) (options : Options) :
    Extensible (Field.reader pool options) := by
  unfold Field.reader
  refine (Access.extensible_reader options .field).bind fun access => ?_
  refine extensible_word.bind fun nameIndex => (extensible_given _).bind fun name => ?_
  refine extensible_word.bind fun index => (extensible_given _).bind fun descriptor => ?_
  refine (extensible_given _).bind fun type => ?_
  split
  · exact extensible_fail _
  · exact (Attribute.extensible_listReader pool).bind fun attributes => extensible_pure _

/-- A method does not depend on what follows it. -/
lemma Method.extensible_reader (pool : Pool) (options : Options) :
    Extensible (Method.reader pool options) := by
  unfold Method.reader
  refine (Access.extensible_reader options .method).bind fun access => ?_
  refine extensible_word.bind fun nameIndex => (extensible_given _).bind fun name => ?_
  refine extensible_word.bind fun index => (extensible_given _).bind fun descriptor => ?_
  refine (extensible_given _).bind fun signature => ?_
  exact (Attribute.extensible_listReader pool).bind fun attributes => extensible_pure _

/-! ## Sections -/

/-- A fault of a class file that is a read of more than the bytes up to the position `finish`,
reported where the read began. -/
def ClassFault.IsShortage (finish : Nat) (fault : ClassFault) : Prop :=
  fault.cause.IsShortage finish ∧ fault.cause.location? = some fault.offset

namespace ClassFile

/-- The header does not depend on what follows it. -/
lemma extensible_headerReader (options : Options) : Extensible (headerReader options) := by
  unfold headerReader
  refine extensible_word.bind fun found => ?_
  split
  · exact extensible_fail _
  · refine extensible_position.bind fun start => ?_
    refine extensible_word.bind fun minor => extensible_word.bind fun major => ?_
    split
    · exact extensible_fail _
    · exact extensible_pure _

/-- The section of the constant pool does not depend on what follows it. -/
lemma extensible_poolReader (options : Options) : Extensible (poolReader options) := by
  unfold poolReader
  refine Pool.extensible_reader.bind fun pool => ?_
  split
  · exact (extensible_given _).bind fun _ => extensible_pure _
  · exact extensible_pure _

/-- The names of a class do not depend on what follows them. -/
lemma extensible_namesReader (pool : Pool) : Extensible (namesReader pool) := by
  unfold namesReader
  refine extensible_word.bind fun this => extensible_word.bind fun super => ?_
  refine (extensible_given _).bind fun name => ?_
  split
  · exact (extensible_pure _).bind fun superName => extensible_pure _
  · exact (extensible_given _).bind fun superName => extensible_pure _

/-- An interface does not depend on what follows it. -/
lemma extensible_interfaceReader (pool : Pool) : Extensible (interfaceReader pool) :=
  extensible_word.bind fun _ => extensible_given _

/-- A shortage knows where the read began, so a section reports it there. -/
lemma extensible_inSection {α : Type} (part : Section) {content : Decoder Fault α}
    (h : Extensible content) :
    Decoder.Extensible ClassFault.IsShortage (inSection part content) := by
  unfold inSection
  refine extensible_position.bind fun start => (extensible_note _).bind fun _ => ?_
  refine h.mapFault fun finish fault hshort => ?_
  cases fault with
  | truncated cause => exact ⟨hshort, rfl⟩
  | _ => exact hshort.elim

/-- The sections of a class file do not depend on what follows the last one. -/
lemma extensible_sectionsReader (raw : Bytes) (options : Options) :
    Decoder.Extensible ClassFault.IsShortage (sectionsReader raw options) := by
  unfold sectionsReader
  refine (extensible_inSection _ (extensible_headerReader options)).bind fun version => ?_
  refine (extensible_inSection _ (extensible_poolReader options)).bind fun pool => ?_
  refine (extensible_inSection _ (Access.extensible_reader options _)).bind fun access => ?_
  refine (extensible_inSection _ (extensible_namesReader pool)).bind ?_
  rintro ⟨name, superName⟩
  refine (extensible_inSection _ (extensible_interfaceReader pool).table).bind fun interfaces => ?_
  refine (extensible_inSection _ (Field.extensible_reader pool options).table).bind fun fields => ?_
  refine (extensible_inSection _ (Method.extensible_reader pool options).table).bind
    fun methods => ?_
  refine (extensible_inSection _ (Attribute.extensible_listReader pool)).bind fun attributes => ?_
  exact extensible_of_still (fun start => (finish_apply _ start).1) fun start =>
    (finish_apply _ start).2

/-- Changing the raw bytes at the end is the same as having the others from the start. -/
lemma finish_bind (file : ClassFile) (raw : Bytes) :
    (do
      let file ← finish file
      return { file with raw }) = finish { file with raw } := by
  unfold finish
  rw [bind_assoc]
  congr 1
  funext stop
  split <;> simp only [bind_assoc, pure_bind]

/-- Other raw bytes make no difference to anything else. -/
lemma sectionsReader_result (raw raw' : Bytes) (options : Options) (start : Cursor) :
    (sectionsReader raw' options start).result =
      (sectionsReader raw options start).result.map fun file => { file with raw := raw' } := by
  have hbind : sectionsReader raw' options = do
      let file ← sectionsReader raw options
      return { file with raw := raw' } := by
    unfold sectionsReader
    simp only [bind_assoc, finish_bind]
  rw [hbind, bind_pure_apply]
  rfl

/-! ## A class file with bytes behind it -/

/-- **Bytes behind a class file are not looked at.** A class file is found again, with only its raw
bytes changed; and so is every fault but that of a read which ran out of bytes.

**Proof sketch.** The sections are extensible from the start of the bytes. If they stay in the
window, both decodes have the same result but for the raw bytes. If they run into its end, the fault
is that of a read. -/
theorem decode_append (bytes tail : Bytes) (options : Options) :
    (∀ file, decode bytes options = .ok file →
      decode (bytes ++ tail) options = .ok { file with raw := bytes ++ tail }) ∧
    ∀ fault, decode bytes options = .error fault → (∀ cause, fault.cause ≠ .truncated cause) →
      decode (bytes ++ tail) options = .error fault := by
  have hraw := sectionsReader_result bytes (bytes ++ tail) options (.ofBytes (bytes ++ tail))
  simp only [decode_eq, hraw]
  cases extensible_sectionsReader bytes options (.ofBytes bytes) tail with
  | within hresult _ =>
    rw [Cursor.ofBytes_extend] at hresult
    rw [hresult]
    constructor
    · intro file hfile
      rw [hfile]
      rfl
    · intro fault hfault _
      rw [hfault]
      rfl
  | beyond hresult hshort _ =>
    rw [hresult]
    constructor
    · intro file hfile
      cases hfile
    · intro fault hfault hcause
      cases hfault
      obtain ⟨_, _, _, heq, _⟩ := hshort.1.exists_eq
      exact absurd heq (hcause _)

/-- Bytes behind a class file with nested bodies, and behind one whose inner body cannot be read. -/
theorem decode_append_nestedBodies :
    (∃ file, decode (nestedBodies [0, 0, 0xB1]) {} = .ok file ∧
      decode (nestedBodies [0, 0, 0xB1] ++ [0xCA, 0xFE]) {} =
        .ok { file with raw := nestedBodies [0, 0, 0xB1] ++ [0xCA, 0xFE] }) ∧
    decode (nestedBodies [0, 0xC4, 0]) {} = .error ⟨.methods, 84, .unsupportedOpcode 2 0⟩ ∧
    decode (nestedBodies [0, 0xC4, 0] ++ [0xCA, 0xFE]) {} =
      .error ⟨.methods, 84, .unsupportedOpcode 2 0⟩ := by
  obtain ⟨file, hfile⟩ : ∃ file, decode (nestedBodies [0, 0, 0xB1]) {} = .ok file :=
    exists_decode_eq_ok_iff.mpr (by decide +kernel)
  have hfault :
      decode (nestedBodies [0, 0xC4, 0]) {} = .error ⟨.methods, 84, .unsupportedOpcode 2 0⟩ :=
    decode_eq_error_iff.mpr (by decide +kernel)
  refine ⟨⟨file, hfile, (decode_append _ _ _).1 file hfile⟩, hfault, ?_⟩
  exact (decode_append _ _ _).2 _ hfault nofun

end ClassFile

end ClassFormat
