import ClassFormat.Fault

/-!
# The constant pool

The constants of a class file stand in numbered slots, counted from one. A long or double constant
takes two slots, of which only the first can be referred to. References between constants are plain
indices and may point in either direction.

## Main definitions

* `ClassFormat.Pool` — the slots, and how many bytes they took.
* `ClassFormat.Pool.get` — the constant at an index.
* `ClassFormat.Pool.entries` — every constant with its index, in order.
* `ClassFormat.Pool.utf8`, `ClassFormat.Pool.className`, `ClassFormat.Pool.string`,
  `ClassFormat.Pool.nameAndType`, `ClassFormat.Pool.memberRef` — references followed to the texts
  they stand for.
* `ClassFormat.Pool.verify` — the check that every reference between constants can be followed.
-/

namespace ClassFormat

/-- A slot of the pool. -/
inductive Slot where
  | entry (constant : Constant)
  /-- The second slot of a constant that takes two. -/
  | upperHalf
  deriving DecidableEq, Repr

/-- The constant that a slot holds. -/
def Slot.constant? : Slot → Option Constant
  | entry constant => some constant
  | upperHalf => none

/-- Whether a slot holds a constant that takes the next slot too. -/
def Slot.isWide : Slot → Bool
  | entry constant => constant.isWide
  | upperHalf => false

/-- A constant pool. -/
structure Pool where
  /-- The slots; the first one has the index one. -/
  slots : Array Slot
  /-- How many bytes of the file the pool took. -/
  byteLength : Nat

/-- A field or method, by its class, its name and its descriptor. -/
structure MemberRef where
  /-- The internal name of the class. -/
  owner : String
  /-- The name of the member. -/
  name : String
  /-- The descriptor of the member. -/
  descriptor : String
  deriving DecidableEq, Repr

namespace Pool

/-- The pool without slots. -/
def empty : Pool where
  slots := #[]
  byteLength := 0

/-- How many slots there are. -/
def size (pool : Pool) : Nat :=
  pool.slots.size

/-- The constant at an index. -/
def get (pool : Pool) (index : Index) : Except PoolFault Constant :=
  if index = 0 then .error .nullIndex
  else
    match pool.slots[index.toNat - 1]? with
    | some (.entry constant) => .ok constant
    | some .upperHalf => .error (.upperHalf index)
    | none => .error (.outOfRange index pool.size)

/-- Every constant with its index, in order. -/
def entries (pool : Pool) : List (Index × Constant) :=
  (pool.slots.toList.zipIdx 1).filterMap fun (slot, number) =>
    slot.constant?.map fun constant => (UInt16.ofNat number, constant)

/-! ## Following references -/

/-- The constant that a reference finds. An index that names no slot finds nothing, which is not
what was expected; the second half of a wide constant is a fault of its own. -/
def resolve (pool : Pool) (expected : Expectation) (index : Index) : Except Fault Constant :=
  match pool.get index with
  | .ok constant => .ok constant
  | .error (.upperHalf index) => .error (.malformedPool (.upperHalf index))
  | .error _ => .error (.badReference index expected .nothing)

/-- What `select` takes from the constant that a reference finds, if that is of the expected kind.
-/
def follow {α : Type} (pool : Pool) (expected : Expectation) (select : Constant → Option α)
    (index : Index) : Except Fault α := do
  let constant ← pool.resolve expected index
  match select constant with
  | some found => return found
  | none => throw (.badReference index expected (.ofKind constant.kind))

/-- The text at an index. -/
def utf8 (pool : Pool) (index : Index) : Except Fault String :=
  pool.follow (.ofKind .utf8) Constant.text? index

/-- The text that a constant of the given kind refers to. -/
def label (pool : Pool) (kind : LabelKind) (index : Index) : Except Fault String := do
  let text ← pool.follow (.ofKind (.label kind))
    (fun | .label found text => if found = kind then some text else none | _ => none) index
  pool.utf8 text

/-- The internal name of the class at an index. -/
def className (pool : Pool) (index : Index) : Except Fault String :=
  pool.label .classInfo index

/-- The value of the string constant at an index. -/
def string (pool : Pool) (index : Index) : Except Fault String :=
  pool.label .string index

/-- The name and the descriptor at an index. -/
def nameAndType (pool : Pool) (index : Index) : Except Fault (String × String) := do
  let (name, descriptor) ← pool.follow (.ofKind .nameAndType)
    (fun | .nameAndType name descriptor => some (name, descriptor) | _ => none) index
  return (← pool.utf8 name, ← pool.utf8 descriptor)

/-- The member at an index: first its name and its descriptor are followed, then its class. -/
def memberRef (pool : Pool) (index : Index) : Except Fault MemberRef := do
  let (owner, signature) ← pool.follow .memberReference
    (fun | .member _ owner signature => some (owner, signature) | _ => none) index
  let (name, descriptor) ← pool.nameAndType signature
  return ⟨← pool.className owner, name, descriptor⟩

/-! ## Checking all references -/

/-- Follows a method handle to a member of a kind that the handle may refer to. -/
def verifyHandle (pool : Pool) (kind : HandleKind) (reference : Index) : Except Fault Unit := do
  pool.follow .memberReference
    (fun | .member found _ _ => if kind.targets.contains found then some () else none | _ => none)
    reference
  discard (pool.memberRef reference)

/-- Follows every reference of the constant at an index. -/
def verifyEntry (pool : Pool) (index : Index) : Constant → Except Fault Unit
  | .label _ text => discard (pool.utf8 text)
  | .member .. => discard (pool.memberRef index)
  | .nameAndType .. => discard (pool.nameAndType index)
  | .methodHandle kind reference => pool.verifyHandle kind reference
  | .dynamic _ _ signature => discard (pool.nameAndType signature)
  | .utf8 _ | .integer _ | .float _ | .long _ | .double _ => pure ()

/-- Follows every reference of every constant, in the order of the indices. -/
def verify (pool : Pool) : Except Fault Unit :=
  pool.entries.forM fun (index, constant) => pool.verifyEntry index constant

end Pool

end ClassFormat
