import ClassFormat.ClassFile.Reader
import ClassFormat.Proofs.Decoder.Steps

/-!
# The sections of a class file

A class file is a sequence of eight sections, and a few notes at its end that neither read nor fail.
This module takes the decode apart in this way, for all that is to be said about it section by
section.

## Main definitions

* `ClassFormat.ClassFile.sectionsReader` — the sections of a class file, for given raw bytes.
* `ClassFormat.ClassFile.fault?` — the fault of a decode, which can be computed and compared.
* `ClassFormat.ClassFile.nestedBodies` — a small class file with nested windows, to run decodes on.

## Main results

* `ClassFormat.ClassFile.decode_eq` — a class file is its sections.
* `ClassFormat.ClassFile.inSection_error` — how a section reports a fault.
-/

namespace ClassFormat.ClassFile

open Decoder hiding word split
open Record

section InSection

variable {α : Type} (part : Section) {content : Decoder Fault α} (start : Cursor)

/-- A section notes its beginning, and then what its content notes. -/
lemma inSection_journal :
    (inSection part content start).journal =
      .beginning part start.position :: (content start).journal :=
  rfl

/-- A section ends where its content ends. -/
lemma inSection_cursor : (inSection part content start).cursor = (content start).cursor :=
  rfl

/-- A section gives what its content gives. -/
lemma inSection_ok_iff {value : α} :
    (inSection part content start).result = .ok value ↔ (content start).result = .ok value :=
  mapFault_ok_iff

/-- A section reports a fault as its own, without the position of its record. -/
lemma inSection_error {fault : ClassFault}
    (h : (inSection part content start).result = .error fault) :
    ∃ cause, (content start).result = .error cause ∧
      ⟨part, cause.location?.getD start.position, cause.unpinned⟩ = fault :=
  exists_of_mapFault_error h

end InSection

/-- The notes at the end of a class file, and the class file itself. -/
def finish (file : ClassFile) : Decoder ClassFault ClassFile := do
  let stop ← here
  unless stop.isEmpty do
    note (.fileTrailing stop.position stop.remaining)
  note (.classFile file.name file.fields.length file.methods.length)
  return file

/-- The sections of a class file, with the given bytes as its raw bytes. -/
def sectionsReader (raw : Bytes) (options : Options) : Decoder ClassFault ClassFile := do
  let version ← inSection .header (headerReader options)
  let pool ← inSection .constantPool (poolReader options)
  let access ← inSection .accessFlags (Access.reader options .classFile)
  let (name, superName) ← inSection .classNames (namesReader pool)
  let interfaces ← inSection .interfaces (table (interfaceReader pool))
  let fields ← inSection .fields (table (Field.reader pool options))
  let methods ← inSection .methods (table (Method.reader pool options))
  let attributes ← inSection .attributes (Attribute.listReader pool)
  finish { raw, version, pool, access, name, superName, interfaces, fields, methods, attributes }

/-- A class file is its sections, with all bytes as raw bytes. -/
lemma decode_eq (bytes : Bytes) (options : Options) :
    decode bytes options = (sectionsReader bytes options (.ofBytes bytes)).result :=
  rfl

/-- The notes at the end neither fail nor move on. -/
lemma finish_apply (file : ClassFile) (start : Cursor) :
    (finish file start).result = .ok file ∧ (finish file start).cursor = start := by
  unfold finish
  have hhere : (here start : Outcome ClassFault Cursor start).result = .ok start := rfl
  rw [result_bind_of_ok hhere, cursor_bind_of_ok hhere]
  cases start.isEmpty <;> exact ⟨rfl, rfl⟩

/-! ## Decodes that can be run -/

/-- The fault of a decode that failed. -/
def fault? (bytes : Bytes) (options : Options) : Option ClassFault :=
  match decode bytes options with
  | .ok _ => none
  | .error fault => some fault

/-- A decode fails with the fault that is looked up. -/
lemma decode_eq_error_iff {bytes : Bytes} {options : Options} {fault : ClassFault} :
    decode bytes options = .error fault ↔ fault? bytes options = some fault := by
  unfold fault?
  split <;> simp_all

/-- A decode succeeds exactly if no fault is found. -/
lemma exists_decode_eq_ok_iff {bytes : Bytes} {options : Options} :
    (∃ file, decode bytes options = .ok file) ↔ fault? bytes options = none := by
  unfold fault?
  split <;> simp_all

/-- A class file whose only method has a body inside its body, the inner one with the given three
bytes of code. -/
def nestedBodies (code : Bytes) : Bytes :=
  [0xCA, 0xFE, 0xBA, 0xBE, 0, 0, 0, 52] ++
    -- the pool: `A`, the class of that name, `()V` and `Code`
    [0, 5, 1, 0, 1, 65, 7, 0, 1, 1, 0, 3, 40, 41, 86, 1, 0, 4, 67, 111, 100, 101] ++
    [0, 0x21, 0, 2, 0, 0, 0, 0, 0, 0] ++
    [0, 1, 0, 1, 0, 1, 0, 3, 0, 1] ++
    [0, 4, 0, 0, 0, 34, 0, 0, 0, 0, 0, 0, 0, 1, 0xB1, 0, 0, 0, 1] ++
    [0, 4, 0, 0, 0, 15, 0, 0, 0, 0, 0, 0, 0, 3] ++ code ++ [0, 0, 0, 0] ++
    [0, 0]

end ClassFormat.ClassFile
