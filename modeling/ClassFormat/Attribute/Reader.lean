import ClassFormat.Attribute.Basic
import ClassFormat.Instruction.Reader
import ClassFormat.Pool.Basic

/-!
# Reading attributes

An attribute is framed by its name and its length, so that its payload can be decoded in a window of
its own. The payload of a body holds attributes again; each of these is decoded in a window that is
smaller than the one around it, so the nesting comes to an end.

## Main definitions

* `ClassFormat.Handler.reader` — an exception handler.
* `ClassFormat.Attribute.frameReader` — name, length and payload of an attribute.
* `ClassFormat.Attribute.reader`, `ClassFormat.Code.reader`, `ClassFormat.Attribute.listReader` — an
  attribute, the body of a method, and a list of attributes.

## Main results

* `ClassFormat.Attribute.remaining_payload_lt` — a payload is shorter than what was left before its
  frame.
* `ClassFormat.Attribute.reader_eq`, `ClassFormat.Code.reader_eq`,
  `ClassFormat.Attribute.listReader_eq` — the three readers as sequences of steps, without the
  argument that they come to an end.
* `ClassFormat.Attribute.readers_induction` — the induction along the nesting of attributes.
-/

namespace ClassFormat

open Decoder hiding word split
open Record

/-! ## Exception handlers -/

/-- An exception handler of code of a given length. The class that it catches is followed first,
then the range is checked. -/
def Handler.reader (pool : Pool) (codeLength : Nat) : Decoder Fault Handler := do
  let first : UInt16 ← word
  let last : UInt16 ← word
  let target : UInt16 ← word
  let catches : Index ← word
  let catches ← if catches = 0 then pure none else some <$> given (pool.className catches)
  let handler ← given (Handler.ofRange first.toNat last.toNat target.toNat catches)
  if codeLength < last.toNat then
    fail (.malformedRange first.toNat last.toNat)
  else
    return handler

/-! ## Frames -/

/-- An attribute whose payload is not decoded yet. -/
structure Frame where
  /-- The index of the attribute's name. -/
  nameIndex : Index
  /-- The attribute's name. -/
  name : String
  /-- A cursor at the start of the payload. -/
  payload : Cursor

namespace Attribute

/-- Name, length and payload of an attribute. -/
def frameReader (pool : Pool) : Decoder Fault Frame := do
  let nameIndex : Index ← word
  let name ← given (pool.utf8 nameIndex)
  let length : UInt32 ← word
  let payload ← split length.toNat
  return { nameIndex, name, payload }

/-- A payload is shorter than what was left before its frame: the name alone takes two bytes. -/
theorem remaining_payload_lt {pool : Pool} {start : Cursor} {frame : Frame}
    (h : (frameReader pool start).result = .ok frame) :
    frame.payload.remaining < start.remaining := by
  obtain ⟨nameIndex, hindex, hname, _⟩ := exists_of_bind_ok h
  obtain ⟨name, _, hlength, _⟩ := exists_of_bind_ok hname
  obtain ⟨length, _, hsplit, _⟩ := exists_of_bind_ok hlength
  obtain ⟨payload, hpayload, hreturn, _⟩ := exists_of_bind_ok hsplit
  cases hreturn
  have hwindow := split_ok (mapFault_ok_iff.mp hpayload)
  have hfirst := Cursor.remaining_lt_of_le (word (α := Index) start).ahead
    (advances_word (by decide) start nameIndex hindex)
  have hsecond := Cursor.remaining_le_of_le
    (given (pool.utf8 nameIndex) (word (α := Index) start).cursor).ahead
  have hthird := Cursor.remaining_le_of_le
    (word (α := UInt32) (given (pool.utf8 nameIndex) (word (α := Index) start).cursor).cursor).ahead
  simp only [hwindow, Cursor.remaining_inner]
  omega

end Attribute

/-! ## Attributes and bodies -/

/-- What a body holds before its attributes. -/
structure CodeHead where
  maxStack : UInt16
  maxLocals : UInt16
  codeLength : UInt32
  instructions : List Instruction
  handlers : List Handler

namespace Code

/-- What a body holds before its attributes. -/
def headReader (pool : Pool) : Decoder Fault CodeHead := do
  let maxStack : UInt16 ← word
  let maxLocals : UInt16 ← word
  let codeLength : UInt32 ← word
  let window ← split codeLength.toNat
  let (instructions, _) ← inside window Instruction.allReader
  let handlers ← table (Handler.reader pool codeLength.toNat)
  return { maxStack, maxLocals, codeLength, instructions, handlers }

/-- The head of a body takes up bytes, since it begins with a word. -/
theorem advances_headReader (pool : Pool) : (headReader pool).Advances :=
  (advances_word (by decide)).bind

/-- A body from its head and its attributes. -/
def finish (head : CodeHead) (attributes : List Attribute) : Decoder Fault Code := do
  note (.code head.maxStack head.maxLocals head.codeLength head.instructions.length
    head.handlers.length)
  return {
    maxStack := head.maxStack
    maxLocals := head.maxLocals
    codeLength := head.codeLength
    instructions := head.instructions
    handlers := head.handlers
    attributes }

end Code

namespace Attribute

/-- The attribute of a body that ended at `stop` in the payload. Bytes behind the body are passed
over. -/
def finishCode (frame : Frame) (body : Code) (stop : Cursor) : Decoder Fault Attribute := do
  unless stop.isEmpty do
    note (.codeTrailing stop.position stop.remaining)
  return .code frame.nameIndex frame.name body

end Attribute

mutual

/-- An attribute, decoded from `start`. -/
def Attribute.decodeFrom (pool : Pool) (start : Cursor) : Outcome Fault Attribute start :=
  (Attribute.frameReader pool start).andThenKnowing fun frame hframe =>
    have := Attribute.remaining_payload_lt hframe
    if Attribute.isCodeName frame.name then
      ((Code.decodeFrom pool frame.payload).enclosed _).andThen fun (body, stop) =>
        Attribute.finishCode frame body stop
    else
      Outcome.pure (.raw frame.nameIndex frame.name frame.payload.rest)
termination_by start.remaining

/-- The body of a method, decoded from `start`. -/
def Code.decodeFrom (pool : Pool) (start : Cursor) : Outcome Fault Code start :=
  (Code.headReader pool start).andThenKnowing fun head hhead =>
    have := Cursor.remaining_lt_of_le (Code.headReader pool start).ahead
      (Code.advances_headReader pool start head hhead)
    (Attribute.decodeListFrom pool _).andThen fun attributes => Code.finish head attributes
termination_by start.remaining

/-- A list of attributes with its length in front, decoded from `start`. -/
def Attribute.decodeListFrom (pool : Pool) (start : Cursor) :
    Outcome Fault (List Attribute) start :=
  (Record.word (α := UInt16) start).andThenKnowing fun count hcount =>
    have hshorter := Cursor.remaining_lt_of_le (Record.word (α := UInt16) start).ahead
      (advances_word (by decide) start count hcount)
    seqFrom _ count.toNat fun c hc =>
      have := Cursor.remaining_le_of_le hc
      (Attribute.decodeFrom pool c).mapFault fun fault => fault.pinnedAt c.position
termination_by start.remaining

end

/-- An attribute. -/
def Attribute.reader (pool : Pool) : Decoder Fault Attribute :=
  Attribute.decodeFrom pool

/-- The body of a method. -/
def Code.reader (pool : Pool) : Decoder Fault Code :=
  Code.decodeFrom pool

/-- A list of attributes, with its length in front. -/
def Attribute.listReader (pool : Pool) : Decoder Fault (List Attribute) :=
  Attribute.decodeListFrom pool

/-! ## The readers in steps -/

/-- A list of attributes is a table of records like any other. -/
theorem Attribute.listReader_eq (pool : Pool) :
    Attribute.listReader pool = table (Attribute.reader pool) := by
  funext start
  rw [Attribute.listReader, Attribute.decodeListFrom]
  exact Outcome.andThenKnowing_eq_andThen _ fun (count : UInt16) c =>
    seq count.toNat (located (Attribute.reader pool)) c

/-- A body is its head and a list of attributes. -/
theorem Code.reader_eq (pool : Pool) :
    Code.reader pool = (do
      let head ← Code.headReader pool
      let attributes ← Attribute.listReader pool
      Code.finish head attributes) := by
  funext start
  rw [Code.reader, Code.decodeFrom]
  exact Outcome.andThenKnowing_eq_andThen _ fun head c =>
    (Attribute.decodeListFrom pool c).andThen fun attributes => Code.finish head attributes

/-- An attribute is its frame, and inside the payload a body, if the name says so. -/
theorem Attribute.reader_eq (pool : Pool) :
    Attribute.reader pool = (do
      let frame ← Attribute.frameReader pool
      if Attribute.isCodeName frame.name then
        let (body, stop) ← inside frame.payload (Code.reader pool)
        Attribute.finishCode frame body stop
      else
        return .raw frame.nameIndex frame.name frame.payload.rest) := by
  funext start
  rw [Attribute.reader, Attribute.decodeFrom]
  refine (Outcome.andThenKnowing_eq_andThen _ fun frame c =>
    if Attribute.isCodeName frame.name then
      ((Code.decodeFrom pool frame.payload).enclosed c).andThen fun (body, stop) =>
        Attribute.finishCode frame body stop
    else
      Outcome.pure (.raw frame.nameIndex frame.name frame.payload.rest)).trans ?_
  refine congrArg (Outcome.andThen _) ?_
  funext frame c
  split <;> rfl

/-- What passes from a payload to its attribute, from the attributes of a body to the body, and from
each attribute of a list to the list, holds of attributes, bodies and lists from everywhere.

**Proof sketch.** Induction on the bytes that are left. A payload, the attributes behind the head of
a body and each attribute of a list have fewer bytes before them than the whole. -/
theorem Attribute.readers_induction (pool : Pool) {ofAttribute ofCode ofList : Cursor → Prop}
    (hattribute : ∀ start, (∀ frame, (frameReader pool start).result = .ok frame →
      ofCode frame.payload) → ofAttribute start)
    (hcode : ∀ start, (∀ head, (Code.headReader pool start).result = .ok head →
      ofList (Code.headReader pool start).cursor) → ofCode start)
    (hlist : ∀ start, (∀ count, (word (α := UInt16) start).result = .ok count →
      ∀ c, (word (α := UInt16) start).cursor ≤ c → ofAttribute c) → ofList start)
    (start : Cursor) : ofAttribute start ∧ ofCode start ∧ ofList start := by
  generalize hn : start.remaining = n
  induction n using Nat.strongRecOn generalizing start with
  | _ n ih =>
    subst hn
    refine ⟨hattribute start ?_, hcode start ?_, hlist start ?_⟩
    · intro frame hframe
      exact (ih _ (remaining_payload_lt hframe) frame.payload rfl).2.1
    · intro head hhead
      have hlt := Cursor.remaining_lt_of_le (Code.headReader pool start).ahead
        (Code.advances_headReader pool start head hhead)
      exact (ih _ hlt _ rfl).2.2
    · intro count hcount c hc
      have hlt := Cursor.remaining_lt_of_le (word (α := UInt16) start).ahead
        (advances_word (by decide) start count hcount)
      exact (ih _ (Nat.lt_of_le_of_lt (Cursor.remaining_le_of_le hc) hlt) c rfl).1

end ClassFormat
