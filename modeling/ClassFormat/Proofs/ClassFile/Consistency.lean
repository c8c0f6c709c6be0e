import ClassFormat.Proofs.ClassFile.Sections
import ClassFormat.Proofs.Descriptor.Grammar
import ClassFormat.Proofs.Instruction.CodeArray

/-!
# Consistent class files

The parts of a decoded class file repeat what others say: a name beside its index, a type beside its
descriptor, a length beside the instructions that add up to it. This module shows that they agree in
every class file that a decode gives, with whatever options, and in attributes at any depth.

## Main definitions

* `ClassFormat.Attribute.Occurs` — an attribute inside another one, at any depth.
* `ClassFormat.CodeOf.Consistent`, `ClassFormat.Attribute.Consistent`,
  `ClassFormat.ClassFile.Consistent` — bodies, attributes and class files whose parts agree.

## Main results

* `ClassFormat.Attribute.ensures_readers` — attributes, bodies and lists of attributes are
  consistent throughout.
* `ClassFormat.ClassFile.consistent_of_decode` — so is every class file that is decoded.
-/

namespace ClassFormat

/-- Texts that are alike but for the case of their ASCII letters. -/
def AlikeIgnoringCase (a b : String) : Prop :=
  a.toList.map Char.toLower = b.toList.map Char.toLower

/-- Bodies have names like `Code`. -/
lemma Attribute.isCodeName_iff {name : String} :
    isCodeName name = true ↔ AlikeIgnoringCase name "Code" :=
  decide_eq_true_iff

/-! ## Parts that agree -/

/-- A body whose instructions follow one another from zero up to the length of the code, and whose
handlers cover something, but nothing behind the code. -/
structure CodeOf.Consistent {α : Type} (code : CodeOf α) : Prop where
  contiguous : Instruction.Contiguous code.instructions
  codeLength : Instruction.totalLength code.instructions = code.codeLength.toNat
  handlers : ∀ handler ∈ code.handlers,
    handler.first < handler.last ∧ handler.last ≤ code.codeLength.toNat

namespace Attribute

/-- An attribute occurs in itself, and in a body with whatever occurs in an attribute of the body.
-/
inductive Occurs : Attribute → Attribute → Prop
  | self (attr : Attribute) : Occurs attr attr
  | inBody {attr other : Attribute} {nameIndex : Index} {name : String} {body : Code}
    (hother : other ∈ body.attributes) (h : Occurs attr other) :
    Occurs attr (.code nameIndex name body)

/-- An attribute with the name that its index refers to, which is decoded exactly if the name asks
for it, and then to a consistent body. -/
structure Consistent (pool : Pool) (attr : Attribute) : Prop where
  name : pool.utf8 attr.nameIndex = .ok attr.name
  isCode : attr.code?.isSome ↔ AlikeIgnoringCase attr.name "Code"
  body : ∀ body, attr.code? = some body → body.Consistent

/-- An attribute that is consistent at every depth. -/
def ConsistentThroughout (pool : Pool) (attr : Attribute) : Prop :=
  ∀ other : Attribute, other.Occurs attr → other.Consistent pool

end Attribute

/-- A field whose type is the one that its descriptor spells, and not void. -/
structure Field.Consistent (field : Field) : Prop where
  type : TypeDescriptor.parse field.descriptor = .ok field.type
  not_void : field.type.isVoid = false

/-- A method whose types are those that its descriptor spells, without a void parameter. -/
structure Method.Consistent (method : Method) : Prop where
  signature : Signature.parse method.descriptor = .ok method.signature
  not_void : ∀ param ∈ method.signature.params, param.isVoid = false

namespace ClassFile

/-- An attribute of the class, of a field or of a method. -/
def Carries (file : ClassFile) (attr : Attribute) : Prop :=
  attr ∈ file.attributes ∨ (∃ field ∈ file.fields, attr ∈ field.attributes) ∨
    ∃ method ∈ file.methods, attr ∈ method.attributes

/-- A class file whose members are consistent, and whose attributes are so at every depth. -/
structure Consistent (file : ClassFile) : Prop where
  attributes : ∀ outer, file.Carries outer → ∀ attr : Attribute, attr.Occurs outer →
    attr.Consistent file.pool
  fields : ∀ field ∈ file.fields, field.Consistent
  methods : ∀ method ∈ file.methods, method.Consistent

end ClassFile

open Decoder hiding word split split_ok
open Record

/-! ## Bodies and attributes -/

section Readers

variable {pool : Pool} {start : Cursor}

/-- A handler that is read covers something, but nothing behind the code. -/
lemma Handler.ensures_reader (pool : Pool) (codeLength : Nat) (start : Cursor) :
    Ensures (Handler.reader pool codeLength) start fun handler _ =>
      handler.first < handler.last ∧ handler.last ≤ codeLength := by
  unfold Handler.reader
  refine ensures_bind fun first _ => ensures_bind fun last _ => ?_
  refine ensures_bind fun target _ => ensures_bind fun catches _ => ?_
  have hchecks : ∀ name c, Ensures (do
      let handler ← given (Handler.ofRange first.toNat last.toNat target.toNat name)
      if codeLength < last.toNat then fail (.malformedRange first.toNat last.toNat)
      else return handler) c fun handler _ =>
        handler.first < handler.last ∧ handler.last ≤ codeLength := by
    intro name c
    refine (ensures_given _).bind ?_
    rintro handler c _ ⟨hrange, rfl⟩
    unfold Handler.ofRange at hrange
    split at hrange <;> cases hrange
    split
    · exact ensures_fail _
    · exact ensures_pure ⟨by dsimp only; omega, by dsimp only; omega⟩
  dsimp only
  split
  · exact ensures_bind fun name _ => hchecks name _
  · exact ensures_bind fun name _ => hchecks name _

/-- The instructions of a body fill its code, and its handlers keep to it. -/
lemma Code.ensures_headReader (pool : Pool) (start : Cursor) :
    Ensures (Code.headReader pool) start fun head _ =>
      Instruction.Contiguous head.instructions ∧
      Instruction.totalLength head.instructions = head.codeLength.toNat ∧
      ∀ handler ∈ head.handlers,
        handler.first < handler.last ∧ handler.last ≤ head.codeLength.toNat := by
  unfold Code.headReader
  refine ensures_bind fun maxStack _ =>
    ensures_bind fun maxLocals _ => ensures_bind fun codeLength _ => ?_
  refine (ensures_split codeLength.toNat).bind ?_
  rintro window c _ ⟨hoffset, hlength, _⟩
  refine (ensures_inside (Instruction.ensures_allReader window)).bind ?_
  rintro ⟨instructions, stop⟩ d _ ⟨hlaidOut, hrest⟩
  refine (ensures_table fun c => Handler.ensures_reader pool codeLength.toNat c).bind ?_
  intro handlers e _ hhandlers
  have hspells := Instruction.spells_iff.mpr ⟨hoffset ▸ hlaidOut, hrest⟩
  refine ensures_pure ⟨hspells.contiguous, ?_, hhandlers⟩
  rw [← Instruction.length_flatMap_bytes, hspells.bytes, hlength]

namespace Attribute

/-- The name of a frame is the text that its index refers to. -/
lemma ensures_frameReader (pool : Pool) (start : Cursor) :
    Ensures (frameReader pool) start fun frame _ => pool.utf8 frame.nameIndex = .ok frame.name := by
  unfold frameReader
  refine ensures_bind fun nameIndex _ => (ensures_given _).bind ?_
  rintro name c _ ⟨hname, rfl⟩
  exact ensures_bind fun length _ => ensures_bind fun payload _ => ensures_pure hname

/-- A body becomes an attribute with the name of its frame. -/
lemma ensures_finishCode (frame : Frame) (body : Code) (stop start : Cursor) :
    Ensures (finishCode frame body stop) start fun attr _ =>
      attr = .code frame.nameIndex frame.name body := by
  unfold finishCode
  split
  · exact ensures_pure rfl
  · exact ensures_bind fun _ _ => ensures_pure rfl

/-- An attribute that is kept as it is holds nothing but itself. -/
lemma consistentThroughout_raw {nameIndex : Index} {name : String} (data : Bytes)
    (hname : pool.utf8 nameIndex = .ok name) (hplain : ¬isCodeName name) :
    ConsistentThroughout pool (.raw nameIndex name data) := by
  rintro other ⟨⟩
  refine ⟨hname, ?_, nofun⟩
  rw [← isCodeName_iff]
  exact iff_of_false nofun hplain

/-- A body is consistent throughout if it is so itself and all its attributes are. -/
lemma consistentThroughout_code {nameIndex : Index} {name : String} {body : Code}
    (hname : pool.utf8 nameIndex = .ok name) (hcode : isCodeName name) (hbody : body.Consistent)
    (hattributes : ∀ attr ∈ body.attributes, attr.ConsistentThroughout pool) :
    ConsistentThroughout pool (.code nameIndex name body) := by
  intro other hoccurs
  cases hoccurs with
  | self =>
    refine ⟨hname, iff_of_true rfl (isCodeName_iff.mp hcode), ?_⟩
    rintro _ ⟨⟩
    exact hbody
  | inBody hmem hinner => exact hattributes _ hmem other hinner

/-- **Attributes are consistent at every depth.**

**Proof sketch.** Induction along the nesting. The frame says the name, and the name decides between
bytes and a body; the head of a body makes it consistent, and its attributes are so by induction. -/
theorem ensures_readers (pool : Pool) (start : Cursor) :
    Ensures (Attribute.reader pool) start (fun attr _ => attr.ConsistentThroughout pool) ∧
    Ensures (Code.reader pool) start (fun body _ => body.Consistent ∧
      ∀ attr ∈ body.attributes, attr.ConsistentThroughout pool) ∧
    Ensures (Attribute.listReader pool) start fun attributes _ =>
      ∀ attr ∈ attributes, attr.ConsistentThroughout pool := by
  apply readers_induction pool _ _ _ start
  · intro start hpayload
    rw [Attribute.reader_eq]
    refine ensures_bind fun frame hframe => ?_
    have hname := ensures_frameReader pool start frame hframe
    split
    · next hcode =>
      refine (ensures_inside (hpayload frame hframe)).bind ?_
      rintro ⟨body, stop⟩ c _ ⟨hbody, hattributes⟩
      refine (ensures_finishCode frame body stop c).imp ?_
      rintro _ _ _ rfl
      exact consistentThroughout_code hname hcode hbody hattributes
    · next hplain => exact ensures_pure (consistentThroughout_raw _ hname hplain)
  · intro start hlist
    rw [Code.reader_eq]
    refine ensures_bind fun head hhead => ?_
    obtain ⟨hcontiguous, hlength, hhandlers⟩ := Code.ensures_headReader pool start head hhead
    refine (hlist head hhead).bind fun attributes c _ hattributes => ?_
    exact ensures_bind fun _ _ => ensures_pure ⟨⟨hcontiguous, hlength, hhandlers⟩, hattributes⟩
  · intro start hitem
    rw [Attribute.listReader_eq]
    refine ensures_bind fun count hcount => Ensures.seq (fun c hc => ?_) count.toNat
    exact ensures_located (hitem count hcount c hc)

/-- Every attribute of a list is consistent with the pool, with all that is nested in it. -/
lemma ensures_listReader (pool : Pool) (start : Cursor) :
    Ensures (Attribute.listReader pool) start fun attributes _ =>
      ∀ attr ∈ attributes, attr.ConsistentThroughout pool :=
  (ensures_readers pool start).2.2

end Attribute

/-! ## Members -/

/-- A field has the type that its descriptor spells, and consistent attributes. -/
lemma Field.ensures_reader (pool : Pool) (options : Options) (start : Cursor) :
    Ensures (Field.reader pool options) start fun field _ =>
      field.Consistent ∧ ∀ attr ∈ field.attributes, attr.ConsistentThroughout pool := by
  unfold Field.reader
  refine ensures_bind fun access _ => ensures_bind fun nameIndex _ => ensures_bind fun name _ => ?_
  refine ensures_bind fun index _ => ensures_bind fun descriptor _ => (ensures_given _).bind ?_
  rintro type start _ ⟨htype, rfl⟩
  split
  · exact ensures_fail _
  · next hvoid =>
    refine (Attribute.ensures_listReader pool _).bind fun attributes c _ hattributes => ?_
    exact ensures_pure ⟨⟨htype, Bool.eq_false_iff.mpr hvoid⟩, hattributes⟩

/-- A method has the types that its descriptor spells, and consistent attributes. -/
lemma Method.ensures_reader (pool : Pool) (options : Options) (start : Cursor) :
    Ensures (Method.reader pool options) start fun method _ =>
      method.Consistent ∧ ∀ attr ∈ method.attributes, attr.ConsistentThroughout pool := by
  unfold Method.reader
  refine ensures_bind fun access _ => ensures_bind fun nameIndex _ => ensures_bind fun name _ => ?_
  refine ensures_bind fun index _ => ensures_bind fun descriptor _ => (ensures_given _).bind ?_
  rintro signature start _ ⟨hsignature, rfl⟩
  refine (Attribute.ensures_listReader pool _).bind fun attributes c _ hattributes => ?_
  exact ensures_pure ⟨⟨hsignature, Signature.isVoid_of_parse hsignature⟩, hattributes⟩

end Readers

/-! ## Class files -/

namespace ClassFile

/-- What a section ensures does not depend on how its faults are reported. -/
lemma ensures_inSection {α : Type} (part : Section) {content : Decoder Fault α} {start : Cursor}
    {post : α → Cursor → Prop} (h : Ensures content start post) :
    Ensures (inSection part content) start post := by
  intro value hvalue
  rw [inSection_cursor]
  exact h value ((inSection_ok_iff part start).mp hvalue)

/-- What the sections of a class file give is consistent. -/
theorem ensures_sectionsReader (raw : Bytes) (options : Options) (start : Cursor) :
    Ensures (sectionsReader raw options) start fun file _ => file.Consistent := by
  unfold sectionsReader
  refine ensures_bind fun version _ => ensures_bind fun pool _ => ensures_bind fun access _ => ?_
  refine ensures_bind ?_
  rintro ⟨name, superName⟩ _
  refine ensures_bind fun interfaces _ => ?_
  refine (ensures_inSection _ (ensures_table fun c => Field.ensures_reader pool options c)).bind ?_
  intro fields c _ hfields
  refine (ensures_inSection _ (ensures_table fun c => Method.ensures_reader pool options c)).bind ?_
  intro methods c _ hmethods
  refine (ensures_inSection _ (Attribute.ensures_listReader pool c)).bind ?_
  intro attributes c _ hattributes file hfile
  rw [(finish_apply _ c).1] at hfile
  cases hfile
  refine ⟨?_, fun field hfield =>
    (hfields field hfield).1, fun method hmethod => (hmethods method hmethod).1⟩
  rintro outer (houter | ⟨field, hfield, houter⟩ | ⟨method, hmethod, houter⟩)
  · exact hattributes outer houter
  · exact (hfields field hfield).2 outer houter
  · exact (hmethods method hmethod).2 outer houter

/-- **Every class file that is decoded is consistent**, whatever the options: at every depth,
attributes have the names of their indices and are bodies exactly if they are called so,
instructions fill the code of their body and handlers keep to it, and members have the types that
their descriptors spell. -/
theorem consistent_of_decode {bytes : Bytes} {options : Options} {file : ClassFile}
    (h : decode bytes options = .ok file) : file.Consistent :=
  ensures_sectionsReader bytes options (.ofBytes bytes) file h

/-- A class file with a body inside a body, decoded with all checks. -/
theorem consistent_of_decode_nestedBodies :
    ∃ file, decode (nestedBodies [0, 0, 0xB1]) ⟨true, some 52, true⟩ = .ok file ∧
      file.Consistent := by
  obtain ⟨file, hfile⟩ :
      ∃ file, decode (nestedBodies [0, 0, 0xB1]) ⟨true, some 52, true⟩ = .ok file :=
    exists_decode_eq_ok_iff.mpr (by decide +kernel)
  exact ⟨file, hfile, consistent_of_decode hfile⟩

end ClassFile

end ClassFormat
