import ClassFormat.Proofs.RawClass.Basic

/-!
# Reading stored attributes

An attribute is read back from its frame, and a body from the payload in the frame, with the
attributes that it carries in its turn. What stands in a payload behind a body is passed over with
the payload.

## Main results

* `ClassFormat.RawHandler.reads_reader`, `ClassFormat.RawHead.reads_headReader` — handlers and the
  heads of bodies are read back from their bytes.
* `ClassFormat.RawAttribute.reads_reader`, `ClassFormat.RawAttribute.reads_listReader` — so are
  attributes, to any depth, and tables of them.
-/

namespace ClassFormat

open Decoder hiding word split
open Record

variable {pool : Pool} {start : Cursor}

/-! ## Handlers -/

/-- The class that an index names is found, and zero finds none. -/
lemma Pool.Names.reads_bind {α : Type} {index : Index} {name : Option String}
    (h : pool.Names index name) {next : Option String → Decoder Fault α} {bytes : Bytes} {value : α}
    (hnext : ∀ c, Reads (next name) c bytes value) :
    Reads (if index = 0 then pure none >>= next else some <$> given (pool.className index) >>= next)
      start bytes value := by
  cases name with
  | none =>
    have hzero : index = 0 := h
    rw [if_pos hzero]
    exact (reads_pure none).bind_of_nil (hnext _)
  | some name =>
    have hholds : pool.HoldsLabel .classInfo index name := h
    rw [if_neg hholds.ne_zero, map_eq_pure_bind]
    exact ((reads_given (Pool.label_eq_ok_iff.mpr hholds)).map some).bind_of_nil (hnext _)

/-- A handler is read back from its bytes. -/
lemma RawHandler.reads_reader {raw : RawHandler} {codeLength : Nat} {handler : Handler}
    (hraw : raw.WellFormed pool codeLength) (h : raw.Describes pool handler) :
    Reads (Handler.reader pool codeLength) start raw.bytes handler := by
  obtain ⟨hrange, hlast, _⟩ := hraw
  obtain ⟨name, hname, rfl⟩ := h
  have hchecks : ∀ c, Reads (do
      let handler ← given (Handler.ofRange raw.first.toNat raw.last.toNat raw.target.toNat name)
      if codeLength < raw.last.toNat then fail (.malformedRange raw.first.toNat raw.last.toNat)
      else return handler) c [] ⟨raw.first.toNat, raw.last.toNat, raw.target.toNat, name⟩ := by
    intro c
    refine (reads_given (if_neg (Nat.not_le.mpr hrange))).bind_of_nil ?_
    rw [if_neg (Nat.not_lt.mpr hlast)]
    exact reads_pure _
  rw [RawHandler.bytes, List.append_assoc, List.append_assoc]
  unfold Handler.reader
  refine (reads_word raw.first).bind ((reads_word raw.last).bind ((reads_word raw.target).bind ?_))
  exact ((reads_word raw.catches).bind (hname.reads_bind hchecks)).of_eq (List.append_nil _)

/-! ## Bodies and attributes -/

/-- The head of a body is read back from its bytes. -/
lemma RawHead.reads_headReader {raw : RawHead} {handlers : List Handler}
    (hraw : raw.WellFormed pool)
    (h : List.Forall₂ (RawHandler.Describes pool) raw.handlers handlers) :
    Reads (Code.headReader pool) start raw.bytes
      ⟨raw.maxStack, raw.maxLocals, UInt32.ofNat raw.code.length, raw.instructions, handlers⟩ := by
  have hlength : (UInt32.ofNat raw.code.length).toNat = raw.code.length :=
    UInt32.toNat_ofNat_of_lt' hraw.codeLength
  have hhandlers : ∀ c, Reads (table (Handler.reader pool raw.code.length)) c
      (tableBytes RawHandler.bytes raw.handlers) handlers := fun c =>
    reads_table hraw.handlerCount h fun handler hmem _ hdescribes _ =>
      RawHandler.reads_reader (hraw.handlers handler hmem) hdescribes
  rw [RawHead.bytes, List.append_assoc, List.append_assoc, List.append_assoc]
  unfold Code.headReader
  refine (reads_word raw.maxStack).bind ((reads_word raw.maxLocals).bind ((reads_word _).bind ?_))
  rw [hlength]
  refine reads_window rfl fun window c hwindow hoffset => ?_
  have hcode : (Instruction.allReader window).result = .ok raw.instructions :=
    Instruction.result_allReader (hoffset ▸ hraw.instructions) hwindow
  exact (reads_inside hcode).bind_of_nil ((hhandlers _).map _)

namespace RawAttribute

/-- The frame of an attribute is read back from its bytes, with the payload in a window. -/
lemma reads_frame {α : Type} {nameIndex : Index} {name : String} {payload : Bytes}
    (hname : pool.Holds nameIndex (.utf8 name)) (hlength : payload.length < UInt32.size)
    {next : Frame → Decoder Fault α} {value : α}
    (hnext : ∀ window c : Cursor, window.rest = payload →
      Reads (next ⟨nameIndex, name, window⟩) c [] value) :
    Reads (Attribute.frameReader pool >>= next) start (frame nameIndex payload) value := by
  rw [frame, List.append_assoc]
  unfold Attribute.frameReader
  simp only [bind_assoc, pure_bind]
  refine (reads_word nameIndex).bind ?_
  refine (reads_given (Pool.utf8_eq_ok_iff.mpr hname)).bind_of_nil ((reads_word _).bind ?_)
  rw [UInt32.toNat_ofNat_of_lt' hlength]
  refine (reads_window rfl fun window c hwindow _ => ?_).of_eq (List.append_nil payload)
  exact hnext window c hwindow

/-- A body is read back from the front of a payload. -/
lemma reads_code {head : RawHead} {handlers : List Handler} {raws : List RawAttribute}
    {attributes : List Attribute} (hhead : head.WellFormed pool)
    (hhandlers : List.Forall₂ (RawHandler.Describes pool) head.handlers handlers)
    (hcount : raws.length < UInt16.size)
    (hattributes : List.Forall₂ (Describes pool) raws attributes)
    (hnested : ∀ raw ∈ raws, ∀ value, raw.Describes pool value →
      ∀ c, Reads (Attribute.reader pool) c raw.bytes value) :
    Reads (Code.reader pool) start (head.bytes ++ tableBytes bytes raws) {
      maxStack := head.maxStack
      maxLocals := head.maxLocals
      codeLength := UInt32.ofNat head.code.length
      instructions := head.instructions
      handlers
      attributes } := by
  rw [Code.reader_eq]
  refine (RawHead.reads_headReader hhead hhandlers).bind ?_
  rw [Attribute.listReader_eq]
  refine ((reads_table hcount hattributes hnested).bind ?_).of_eq (List.append_nil _)
  exact (reads_note _).bind_of_nil (reads_pure _)

/-- Bytes behind a body are noted and nothing else. -/
lemma reads_finishCode (frame : Frame) (body : Code) (stop : Cursor) :
    Reads (Attribute.finishCode frame body stop) start []
      (.code frame.nameIndex frame.name body) := by
  unfold Attribute.finishCode
  split
  · exact reads_pure _
  · exact (reads_note _).bind_of_nil (reads_pure _)

/-- An attribute is read back from its bytes.

**Proof sketch.** Induction on how the attribute is built. The name decides whether the payload is
kept or decoded; the attributes of a body are read back by the induction hypothesis, in a row behind
its head. -/
theorem reads_reader {raw : RawAttribute} (hraw : raw.WellFormed pool) {value : Attribute}
    (h : raw.Describes pool value) : Reads (Attribute.reader pool) start raw.bytes value := by
  induction hraw generalizing value start with
  | @plain nameIndex name payload hname hplain hlength =>
    cases h with
    | @plain _ name' _ hname' =>
      obtain rfl : name = name' := Constant.utf8.inj (hname.unique hname')
      rw [Attribute.reader_eq]
      refine reads_frame hname hlength fun window c hwindow => ?_
      rw [if_neg (by simp [hplain]), hwindow]
      exact reads_pure _
  | @code nameIndex name head raws trailing hname hcode hhead hcount _ hlength ih =>
    cases h with
    | @code _ name' _ _ _ handlers attributes hname' hhandlers hattributes =>
      obtain rfl : name = name' := Constant.utf8.inj (hname.unique hname')
      rw [Attribute.reader_eq]
      refine reads_frame hname hlength fun window c hwindow => ?_
      rw [if_pos hcode]
      have hfront : head.bytes ++ tableBytes bytes raws <+: window.rest := by
        rw [hwindow, payload_code, ← List.append_assoc]
        exact List.prefix_append _ _
      have hnested : ∀ raw ∈ raws, ∀ value, raw.Describes pool value →
          ∀ c, Reads (Attribute.reader pool) c raw.bytes value :=
        fun raw hmem value hdescribes c => ih raw hmem hdescribes
      have hresult := (reads_code hhead hhandlers hcount hattributes hnested hfront).1
      exact (reads_inside hresult).bind_of_nil (reads_finishCode _ _ _)

/-- Attributes in a table are read back from their bytes. -/
lemma reads_listReader {raws : List RawAttribute} {attributes : List Attribute}
    (hcount : raws.length < UInt16.size) (hraws : ∀ raw ∈ raws, raw.WellFormed pool)
    (h : List.Forall₂ (Describes pool) raws attributes) :
    Reads (Attribute.listReader pool) start (tableBytes bytes raws) attributes := by
  rw [Attribute.listReader_eq]
  exact reads_table hcount h fun raw hmem _ hdescribes _ => reads_reader (hraws raw hmem) hdescribes

end RawAttribute

end ClassFormat
