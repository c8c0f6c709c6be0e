import ClassFormat.Decoder

/-!
# Walks through the input

A walk is a sequence of reads on a stack of windows: every split opens a window on top, and leaving
it goes back to the one below, which by then stands behind the bytes of the split.

## Main definitions

* `ClassFormat.WordType` — the words that a walk can read, each as an integer.
* `ClassFormat.Walk.Step`, `ClassFormat.Walk.Value` — a step of a walk, and what it finds.
* `ClassFormat.Walk.State` — the windows that are open.
* `ClassFormat.Walk.State.step`, `ClassFormat.Walk.State.run` — one step, and a sequence of steps.

## Design

A walk starts at a whole input and moves by its steps only, so its cursors never leave their
windows. The offsets and counts of steps are natural numbers that are taken to fit a word, as for
cursors in general. The steps at which a program with words panics instead are `Walk.Step.wordAt`,
with an offset near the greatest word in an inner window, and `Walk.Step.words`, with a count for
which there is no memory.
-/

namespace ClassFormat

/-- The words that a walk can read. -/
inductive WordType where
  | u8
  | u16
  | u32
  | u64
  | i8
  | i16
  | i32
  | i64
  deriving DecidableEq, Repr

namespace WordType

/-- How many bytes a word takes. -/
def size : WordType → Nat
  | u8 | i8 => 1
  | u16 | i16 => 2
  | u32 | i32 => 4
  | u64 | i64 => 8

/-- The integer that bytes denote as a word of this type. -/
def value (type : WordType) (bytes : Bytes) : Int :=
  match type with
  | u8 => (Word.ofBytes bytes : UInt8).toNat
  | u16 => (Word.ofBytes bytes : UInt16).toNat
  | u32 => (Word.ofBytes bytes : UInt32).toNat
  | u64 => (Word.ofBytes bytes : UInt64).toNat
  | i8 => (Word.ofBytes bytes : Int8).toInt
  | i16 => (Word.ofBytes bytes : Int16).toInt
  | i32 => (Word.ofBytes bytes : Int32).toInt
  | i64 => (Word.ofBytes bytes : Int64).toInt

/-- The next word of this type. -/
def reader (type : WordType) : Decoder ReadFault Int := do
  let bytes ← Decoder.take type.size
  return type.value bytes

end WordType

namespace Walk

/-- A step of a walk. -/
inductive Step where
  /-- Look at the word at an offset of the window. -/
  | wordAt (type : WordType) (offset : Nat)
  /-- Read the next word. -/
  | word (type : WordType)
  /-- Read the next bytes. -/
  | take (count : Nat)
  /-- Look at the next bytes. -/
  | peek (count : Nat)
  /-- Read bytes that have to be these. -/
  | expect (bytes : Bytes)
  /-- Read so many words. -/
  | words (type : WordType) (count : Nat)
  /-- Open a window of the next bytes. -/
  | split (count : Nat)
  /-- Leave a window. -/
  | leave
  deriving DecidableEq, Repr

/-- What a step finds. -/
inductive Value where
  | nothing
  | word (type : WordType) (value : Int)
  | words (type : WordType) (values : List Int)
  | bytes (bytes : Bytes)
  deriving DecidableEq, Repr

/-- The windows that are open. -/
structure State where
  /-- The window on top. -/
  top : Cursor
  /-- The windows around it, innermost first. -/
  below : List Cursor

namespace State

/-- The start of a walk through an input. -/
def ofBytes (bytes : Bytes) : State where
  top := .ofBytes bytes
  below := []

/-- How many windows there are around the one on top. -/
def depth (state : State) : Nat :=
  state.below.length

/-- Reads in the window on top. -/
def read {α : Type} (state : State) (decoder : Decoder ReadFault α) (value : α → Value) :
    Except ReadFault Value × State :=
  let outcome := decoder state.top
  (outcome.result.map value, { state with top := outcome.cursor })

/-- Looks at the window on top. -/
def look {α : Type} (state : State) (found : Except ReadFault α) (value : α → Value) :
    Except ReadFault Value × State :=
  (found.map value, state)

/-- Opens a window of the next bytes. -/
def split (state : State) (count : Nat) : Except ReadFault Value × State :=
  let outcome := Decoder.split count state.top
  match outcome.result with
  | .ok window => (.ok .nothing, { top := window, below := outcome.cursor :: state.below })
  | .error fault => (.error fault, state)

/-- Leaves the window on top, unless it is the only one. -/
def leave (state : State) : State :=
  match state.below with
  | [] => state
  | top :: below => { top, below }

/-- Takes one step. -/
def step (state : State) : Step → Except ReadFault Value × State
  | .wordAt type offset =>
    state.look (state.top.bytesAt offset type.size) fun bytes => .word type (type.value bytes)
  | .word type => state.read type.reader (.word type)
  | .take count => state.read (Decoder.take count) .bytes
  | .peek count => state.look (state.top.peek count) .bytes
  | .expect bytes => state.read (Decoder.expect bytes) fun _ => .nothing
  | .words type count => state.read (Decoder.seq count type.reader) (.words type)
  | .split count => state.split count
  | .leave => (.ok .nothing, state.leave)

/-- Takes steps one after the other, and tells what each one found and where it led. -/
def run (state : State) : List Step → List (Except ReadFault Value × State)
  | [] => []
  | first :: rest =>
    let outcome := state.step first
    outcome :: outcome.2.run rest

end State

end Walk

end ClassFormat
