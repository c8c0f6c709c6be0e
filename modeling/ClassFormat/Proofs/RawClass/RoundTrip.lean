import ClassFormat.Proofs.ClassFile.Sections
import ClassFormat.Proofs.RawClass.Attribute
import ClassFormat.Proofs.RawClass.Pool

/-!
# Class files that are written and read again

A class file that can be stored is found again in its bytes: the decode succeeds, and what it gives
is the one class file that the stored one stands for.

## Main results

* `ClassFormat.RawMember.reads_field`, `ClassFormat.RawMember.reads_method` — members are read back
  from their bytes.
* `ClassFormat.RawClass.reads_sectionsReader` — so are all sections of a class file.
* `ClassFormat.RawClass.WellFormed.exists_describes` — every class file that can be stored stands
  for something.
* `ClassFormat.RawClass.decode_bytes` — a class file that is written and read again.
-/

namespace ClassFormat

open Decoder hiding word split
open Record

variable {pool : Pool} {start : Cursor}

/-! ## Members -/

namespace RawMember

/-- Without a check, any flags are read back. -/
lemma reads_access (target : AccessTarget) (access : UInt16) :
    Reads (Access.reader {} target) start (Word.toBytes access) ⟨target, access⟩ :=
  (reads_word access).map fun raw => ({ target, raw } : Access)

/-- What members begin with is read back from its bytes. -/
lemma reads_member {α : Type} (target : AccessTarget) {raw : RawMember} {name descriptor : String}
    (hname : pool.Holds raw.name (.utf8 name))
    (hdescriptor : pool.Holds raw.descriptor (.utf8 descriptor))
    {next : Access → String → String → Decoder Fault α} {value : α}
    (hnext : ∀ c, Reads (next ⟨target, raw.access⟩ name descriptor) c
      (tableBytes RawAttribute.bytes raw.attributes) value) :
    Reads (do
      let access ← Access.reader {} target
      let name ← given (pool.utf8 (← word))
      let descriptor ← given (pool.utf8 (← word))
      next access name descriptor) start raw.bytes value := by
  rw [RawMember.bytes, List.append_assoc, List.append_assoc]
  refine (reads_access target raw.access).bind ((reads_word raw.name).bind ?_)
  refine (reads_given (Pool.utf8_eq_ok_iff.mpr hname)).bind_of_nil
    ((reads_word raw.descriptor).bind ?_)
  exact (reads_given (Pool.utf8_eq_ok_iff.mpr hdescriptor)).bind_of_nil (hnext _)

/-- A field is read back from its bytes. -/
lemma reads_field {raw : RawMember} {field : Field} (hraw : raw.WellFormed pool IsFieldDescriptor)
    (h : raw.DescribesField pool field) : Reads (Field.reader pool {}) start raw.bytes field := by
  obtain ⟨access, name, descriptor, type, attributes⟩ := field
  obtain ⟨haccess, hname, hdescriptor, ⟨htype, htext⟩, hattributes⟩ := h
  dsimp only at haccess hname hdescriptor htype htext hattributes
  have hparse := TypeDescriptor.parse_of_toList_eq htype htext
  have hvoid : type.isVoid = false := by
    obtain ⟨other, hother, found, hfound, hvoid, hspelled⟩ := hraw.descriptor
    obtain rfl : descriptor = other := Constant.utf8.inj (hdescriptor.unique hother)
    rw [TypeDescriptor.parse_of_toList_eq hfound hspelled] at hparse
    cases hparse
    exact hvoid
  subst haccess
  refine reads_member .field hname hdescriptor fun c => ?_
  refine (reads_given hparse).bind_of_nil ?_
  rw [hvoid, if_neg Bool.false_ne_true]
  exact (RawAttribute.reads_listReader hraw.attributeCount hraw.attributes hattributes).map _

/-- A method is read back from its bytes. -/
lemma reads_method {raw : RawMember} {method : Method}
    (hraw : raw.WellFormed pool IsMethodDescriptor) (h : raw.DescribesMethod pool method) :
    Reads (Method.reader pool {}) start raw.bytes method := by
  obtain ⟨access, name, descriptor, signature, attributes⟩ := method
  obtain ⟨haccess, hname, hdescriptor, ⟨hsignature, htext⟩, hattributes⟩ := h
  dsimp only at haccess hname hdescriptor hsignature htext hattributes
  subst haccess
  refine reads_member .method hname hdescriptor fun c => ?_
  refine (reads_given (Signature.parse_of_toList_eq hsignature htext)).bind_of_nil ?_
  exact (RawAttribute.reads_listReader hraw.attributeCount hraw.attributes hattributes).map _

end RawMember

/-! ## Class files -/

namespace RawClass

variable {stored : RawClass} {file : ClassFile}

/-- A section is read back as its content is. -/
lemma reads_inSection {α : Type} (part : Section) {content : Decoder Fault α} {bytes : Bytes}
    {value : α} (h : Reads content start bytes value) :
    Reads (ClassFile.inSection part content) start bytes value :=
  fun hbytes => ⟨(ClassFile.inSection_ok_iff part start).mpr (h hbytes).1, (h hbytes).2⟩

/-- Without a limit, any version is read back. -/
lemma reads_headerReader (minor major : UInt16) :
    Reads (ClassFile.headerReader {}) start
      (Word.toBytes ClassFile.magic ++ (Word.toBytes minor ++ Word.toBytes major))
        ⟨major, minor⟩ := by
  unfold ClassFile.headerReader
  refine (reads_word ClassFile.magic).bind ?_
  rw [if_neg (by simp)]
  refine Reads.bind_of_nil (fun _ => ⟨rfl, rfl⟩) ?_
  exact (reads_word minor).bind ((reads_word major).map _)

/-- Without a limit, any pool is read back. -/
lemma reads_poolReader {constants : List Constant}
    (hcount : (constants.flatMap Constant.slots).length + 1 < UInt16.size)
    (hconstants : ∀ constant ∈ constants, constant.WellFormed) :
    Reads (ClassFile.poolReader {}) start (Pool.bytesOf constants) (.ofConstants constants) := by
  unfold ClassFile.poolReader
  exact ((Pool.reads_reader hcount hconstants).bind (reads_pure _)).of_eq (List.append_nil _)

/-- The names of the class and of the class above it are found. -/
lemma reads_namesReader {this super : Index} {name : String} {superName : Option String}
    (hname : pool.HoldsLabel .classInfo this name) (hsuper : pool.Names super superName) :
    Reads (ClassFile.namesReader pool) start (Word.toBytes this ++ Word.toBytes super)
      (name, superName.getD ClassFile.rootClass) := by
  unfold ClassFile.namesReader
  refine (reads_word this).bind (((reads_word super).bind ?_).of_eq (List.append_nil _))
  refine (reads_given (Pool.label_eq_ok_iff.mpr hname)).bind_of_nil ?_
  cases superName with
  | none =>
    have hzero : super = 0 := hsuper
    rw [if_pos hzero]
    exact (reads_pure ClassFile.rootClass).map _
  | some superName =>
    have hholds : pool.HoldsLabel .classInfo super superName := hsuper
    rw [if_neg hholds.ne_zero]
    exact (reads_given (Pool.label_eq_ok_iff.mpr hholds)).map _

/-- The end of a class file needs no bytes. -/
lemma reads_finish (file : ClassFile) : Reads (ClassFile.finish file) start [] file := by
  obtain ⟨hresult, hcursor⟩ := ClassFile.finish_apply file start
  exact fun _ => ⟨hresult, congrArg Cursor.offset hcursor⟩

/-- The bytes of a class file, section by section. -/
lemma bytes_eq (stored : RawClass) :
    stored.bytes =
      (Word.toBytes ClassFile.magic ++ (Word.toBytes stored.minor ++ Word.toBytes stored.major)) ++
        (Pool.bytesOf stored.constants ++ (Word.toBytes stored.access ++
        ((Word.toBytes stored.this ++ Word.toBytes stored.super) ++
        (tableBytes Word.toBytes stored.interfaces ++ (tableBytes RawMember.bytes stored.fields ++
        (tableBytes RawMember.bytes stored.methods ++
          tableBytes RawAttribute.bytes stored.attributes)))))) := by
  simp only [bytes, List.append_assoc]

/-- An interface is read back by the index of its class. -/
lemma reads_interfaceReader {index : Index} {name : String}
    (h : pool.HoldsLabel .classInfo index name) :
    Reads (ClassFile.interfaceReader pool) start (Word.toBytes index) name :=
  ((reads_word index).bind (reads_given (Pool.label_eq_ok_iff.mpr h))).of_eq (List.append_nil _)

/-- The sections of a class file are read back from their bytes. -/
theorem reads_sectionsReader (hstored : stored.WellFormed) (h : stored.Describes file) :
    Reads (ClassFile.sectionsReader stored.bytes {}) start stored.bytes file := by
  obtain ⟨raw, version, pool, access, name, superName, interfaces, fields, methods, attributes⟩ :=
    file
  obtain ⟨hraw, hversion, hpool, haccess, hname, ⟨found, hfound, hsuperName⟩, hinterfaces, hfields,
    hmethods, hattributes⟩ := h
  dsimp only at *
  subst hraw hversion hpool haccess hsuperName
  have hpool : ∀ c, Reads (ClassFile.poolReader {}) c (Pool.bytesOf stored.constants) stored.pool :=
    fun c => reads_poolReader hstored.slotCount hstored.constants
  have hinterfaces' : ∀ c, Reads (table (ClassFile.interfaceReader stored.pool)) c
      (tableBytes Word.toBytes stored.interfaces) interfaces := fun c =>
    reads_table hstored.interfaceCount hinterfaces fun _ _ _ hlabel _ =>
      reads_interfaceReader hlabel
  have hfields' : ∀ c, Reads (table (Field.reader stored.pool {})) c
      (tableBytes RawMember.bytes stored.fields) fields := fun c =>
    reads_table hstored.fieldCount hfields fun field hmem _ hdescribes _ =>
      RawMember.reads_field (hstored.fields field hmem) hdescribes
  have hmethods' : ∀ c, Reads (table (Method.reader stored.pool {})) c
      (tableBytes RawMember.bytes stored.methods) methods := fun c =>
    reads_table hstored.methodCount hmethods fun method hmem _ hdescribes _ =>
      RawMember.reads_method (hstored.methods method hmem) hdescribes
  have hattributes' : ∀ c, Reads (Attribute.listReader stored.pool) c
      (tableBytes RawAttribute.bytes stored.attributes) attributes := fun c =>
    RawAttribute.reads_listReader hstored.attributeCount hstored.attributes hattributes
  unfold ClassFile.sectionsReader
  refine Reads.of_eq ?_ (bytes_eq stored).symm
  refine (reads_inSection .header (reads_headerReader stored.minor stored.major)).bind ?_
  refine (reads_inSection .constantPool (hpool _)).bind ?_
  refine (reads_inSection .accessFlags (RawMember.reads_access .classFile stored.access)).bind ?_
  refine (reads_inSection .classNames (reads_namesReader hname hfound)).bind ?_
  refine (reads_inSection .interfaces (hinterfaces' _)).bind ?_
  refine (reads_inSection .fields (hfields' _)).bind ?_
  refine (reads_inSection .methods (hmethods' _)).bind ?_
  refine ((reads_inSection .attributes (hattributes' _)).bind ?_).of_eq (List.append_nil _)
  exact reads_finish _

end RawClass

/-! ## What stored parts stand for -/

/-- If each item is related to something, so are all items in a row. -/
lemma exists_forall₂ {α β : Type} {R : α → β → Prop} {items : List α}
    (h : ∀ item ∈ items, ∃ value, R item value) : ∃ values, List.Forall₂ R items values := by
  induction items with
  | nil => exact ⟨[], .nil⟩
  | cons item items ih =>
    obtain ⟨value, hvalue⟩ := h item List.mem_cons_self
    obtain ⟨values, hvalues⟩ := ih fun other hmem => h other (List.mem_cons_of_mem item hmem)
    exact ⟨value :: values, .cons hvalue hvalues⟩

/-- Handlers that can be stored stand for decoded ones. -/
lemma RawHead.WellFormed.exists_describes {raw : RawHead} (h : raw.WellFormed pool) :
    ∃ handlers, List.Forall₂ (RawHandler.Describes pool) raw.handlers handlers := by
  refine exists_forall₂ fun handler hmem => ?_
  obtain ⟨_, _, name, hname⟩ := h.handlers handler hmem
  exact ⟨_, name, hname, rfl⟩

/-- Every attribute that can be stored stands for something. -/
lemma RawAttribute.WellFormed.exists_describes {raw : RawAttribute} (h : raw.WellFormed pool) :
    ∃ value, raw.Describes pool value := by
  induction h with
  | plain hname _ _ => exact ⟨_, .plain hname⟩
  | code hname _ hhead _ _ _ ih =>
    obtain ⟨handlers, hhandlers⟩ := hhead.exists_describes
    obtain ⟨attributes, hattributes⟩ := exists_forall₂ ih
    exact ⟨_, .code hname hhandlers hattributes⟩

namespace RawMember

/-- A member that can be stored with a field descriptor stands for a field. -/
lemma WellFormed.exists_describesField {raw : RawMember}
    (h : raw.WellFormed pool IsFieldDescriptor) : ∃ field, raw.DescribesField pool field := by
  obtain ⟨name, hname⟩ := h.name
  obtain ⟨descriptor, hdescriptor, type, htype, _, htext⟩ := h.descriptor
  obtain ⟨attributes, hattributes⟩ := exists_forall₂ fun other hmem =>
    (h.attributes other hmem).exists_describes
  exact ⟨⟨_, name, descriptor, type, attributes⟩, rfl, hname, hdescriptor, ⟨htype, htext⟩,
    hattributes⟩

/-- A member that can be stored with a method descriptor stands for a method. -/
lemma WellFormed.exists_describesMethod {raw : RawMember}
    (h : raw.WellFormed pool IsMethodDescriptor) : ∃ method, raw.DescribesMethod pool method := by
  obtain ⟨name, hname⟩ := h.name
  obtain ⟨descriptor, hdescriptor, signature, hsignature, htext⟩ := h.descriptor
  obtain ⟨attributes, hattributes⟩ := exists_forall₂ fun other hmem =>
    (h.attributes other hmem).exists_describes
  exact ⟨⟨_, name, descriptor, signature, attributes⟩, rfl, hname, hdescriptor, ⟨hsignature, htext⟩,
    hattributes⟩

end RawMember

namespace RawClass

/-- Every class file that can be stored stands for something. -/
theorem WellFormed.exists_describes {stored : RawClass} (h : stored.WellFormed) :
    ∃ file, stored.Describes file := by
  obtain ⟨name, hname⟩ := h.this
  obtain ⟨found, hfound⟩ := h.super
  obtain ⟨interfaces, hinterfaces⟩ := exists_forall₂ h.interfaces
  obtain ⟨fields, hfields⟩ := exists_forall₂ fun field hmem =>
    (h.fields field hmem).exists_describesField
  obtain ⟨methods, hmethods⟩ := exists_forall₂ fun method hmem =>
    (h.methods method hmem).exists_describesMethod
  obtain ⟨attributes, hattributes⟩ := exists_forall₂ fun raw hmem =>
    (h.attributes raw hmem).exists_describes
  exact ⟨⟨_, _, _, _, name, _, interfaces, fields, methods, attributes⟩, rfl, rfl, rfl, rfl, hname,
    ⟨found, hfound, rfl⟩, hinterfaces, hfields, hmethods, hattributes⟩

/-! ### A class file to store -/

/-- A body that returns at once, with a byte behind it. -/
def returningBody : RawAttribute :=
  .code 3 ⟨0, 0, [⟨0, ⟨0xB1, by decide⟩, []⟩], []⟩ [] [0xFF]

/-- A body with a switch at an odd place, a widened load, two handlers and a body inside. -/
def switchingBody : RawAttribute :=
  .code 3 {
      maxStack := 2
      maxLocals := 301
      instructions := [
        ⟨0, ⟨0x03, by decide⟩, []⟩,
        ⟨1, .tableswitch, [0, 0, 0, 0, 0, 23, 0, 0, 0, 5, 0, 0, 0, 5, 0, 0, 0, 19]⟩,
        ⟨20, .wide, [0x15, 1, 44]⟩,
        ⟨24, ⟨0xB1, by decide⟩, []⟩]
      handlers := [⟨0, 25, 24, 9⟩, ⟨1, 20, 24, 0⟩] }
    [returningBody, .plain 8 []] [0xCA, 0xFE]

/-- A class file with a wide constant, a reference that points forwards, a text outside of ASCII,
and bodies that nest. -/
def switching : RawClass where
  minor := 0
  major := 52
  constants := [
    .utf8 "A", .label .classInfo 1, .utf8 "cODE", .long (-1), .utf8 "([IJ)V", .utf8 "[LA;",
    .utf8 "\x00é😀", .label .classInfo 10, .utf8 "B"]
  access := 0x21
  this := 2
  super := 9
  interfaces := [9, 2]
  fields := [⟨2, 8, 7, [.plain 8 [1, 2, 3]]⟩]
  methods := [⟨1, 1, 6, [switchingBody]⟩]
  attributes := [.plain 8 [], returningBody]

namespace switching

/-- The name of the bodies stands at index three, in letters of the other case. -/
lemma holds_codeName : switching.pool.Holds 3 (.utf8 "cODE") := by
  decide

/-- The class above it stands at index nine. -/
lemma holds_superName : switching.pool.HoldsLabel .classInfo 9 "B" :=
  ⟨10, by decide, by decide +kernel⟩

/-- An attribute that is no body can be stored with any payload that fits. -/
lemma wellFormed_plain (payload : Bytes) (h : payload.length < UInt32.size) :
    (RawAttribute.plain 8 payload).WellFormed switching.pool :=
  .plain (show switching.pool.Holds 8 (.utf8 "\x00é😀") by decide) (by decide +kernel) h

/-- The body that only returns can be stored. -/
lemma wellFormed_returningBody : returningBody.WellFormed switching.pool := by
  refine .code holds_codeName (by decide) ?_ (by decide) (by simp) (by decide +kernel)
  exact ⟨⟨rfl, .fixed rfl, trivial⟩, by decide, by decide, by simp⟩

/-- The body with the switch can be stored, with the body inside it. -/
lemma wellFormed_switchingBody : switchingBody.WellFormed switching.pool := by
  have hswitch : Instruction.WellFormed ⟨1, .tableswitch, [0, 0] ++ Word.toBytes (23 : Int32) ++
      Word.toBytes (5 : Int32) ++ Word.toBytes (5 : Int32) ++ [0, 0, 0, 19]⟩ :=
    .tableswitch 23 rfl (by decide) (by decide)
  have hload : Instruction.WellFormed ⟨20, .wide, 0x15 :: Word.toBytes (300 : UInt16)⟩ :=
    .wide (by decide) 300
  refine .code holds_codeName (by decide) ?_ (by decide) ?_ (by decide +kernel)
  · refine ⟨⟨rfl, .fixed rfl, rfl, hswitch, rfl, hload, rfl, .fixed rfl, trivial⟩,
      by decide, by decide, ?_⟩
    intro handler hhandler
    obtain rfl | rfl : handler = ⟨0, 25, 24, 9⟩ ∨ handler = ⟨1, 20, 24, 0⟩ := by
      simpa using hhandler
    · exact ⟨by decide, by decide, some "B", holds_superName⟩
    · exact ⟨by decide, by decide, none, rfl⟩
  · intro nested hnested
    obtain rfl | rfl : nested = returningBody ∨ nested = .plain 8 [] := by simpa using hnested
    · exact wellFormed_returningBody
    · exact wellFormed_plain [] (by decide)

/-- The field can be stored. -/
lemma wellFormed_field :
    RawMember.WellFormed switching.pool RawMember.IsFieldDescriptor
      ⟨2, 8, 7, [.plain 8 [1, 2, 3]]⟩ where
  name := ⟨"\x00é😀", by decide⟩
  descriptor := ⟨"[LA;", by decide, ⟨1, .object "A"⟩, by decide, rfl, by decide⟩
  attributeCount := by decide
  attributes := by simpa using wellFormed_plain [1, 2, 3] (by decide)

/-- The method can be stored. -/
lemma wellFormed_method :
    RawMember.WellFormed switching.pool RawMember.IsMethodDescriptor
      ⟨1, 1, 6, [switchingBody]⟩ where
  name := ⟨"A", by decide⟩
  descriptor := ⟨"([IJ)V", by decide,
    ⟨[⟨1, .primitive .int⟩, ⟨0, .primitive .long⟩], ⟨0, .void⟩⟩, by decide, by decide⟩
  attributeCount := by decide
  attributes := by simpa using wellFormed_switchingBody

/-- The class file as a whole can be stored. -/
lemma wellFormed : switching.WellFormed where
  slotCount := by decide
  constants := by decide
  this := ⟨"A", 1, by decide, by decide +kernel⟩
  super := ⟨some "B", holds_superName⟩
  interfaceCount := by decide
  interfaces := by
    simp only [switching, List.forall_mem_cons]
    exact ⟨⟨"B", holds_superName⟩, ⟨"A", 1, by decide, by decide +kernel⟩, by simp⟩
  fieldCount := by decide
  fields := by simpa [switching] using wellFormed_field
  methodCount := by decide
  methods := by simpa [switching] using wellFormed_method
  attributeCount := by decide
  attributes := by
    have hattributes := And.intro (wellFormed_plain [] (by decide)) wellFormed_returningBody
    simpa [switching] using hattributes

end switching

/-! ### Writing and reading -/

/-- A class file that can be stored is found again in its bytes: the decode succeeds, and what it
gives is the one class file that the stored one stands for. -/
theorem decode_bytes {stored : RawClass} (h : stored.WellFormed) :
    ∃ file, ClassFile.decode stored.bytes {} = .ok file ∧
      ∀ other, stored.Describes other ↔ other = file := by
  have hdecode : ∀ file, stored.Describes file → ClassFile.decode stored.bytes {} = .ok file := by
    intro file hfile
    rw [ClassFile.decode_eq]
    exact (reads_sectionsReader h hfile (List.prefix_refl stored.bytes)).1
  obtain ⟨file, hfile⟩ := h.exists_describes
  refine ⟨file, hdecode file hfile, fun other => ⟨fun hother => ?_, fun heq => heq ▸ hfile⟩⟩
  exact Except.ok.inj ((hdecode other hother).symm.trans (hdecode file hfile))

/-- The class file with a switch is read back. -/
theorem decode_bytes_switching :
    switching.WellFormed ∧ ∃ file, ClassFile.decode switching.bytes {} = .ok file ∧
      ∀ other, switching.Describes other ↔ other = file :=
  ⟨switching.wellFormed, decode_bytes switching.wellFormed⟩

end RawClass

end ClassFormat
