/-!
# Opcodes

An instruction begins with one byte, its opcode. Of the 256 bytes, `00..CA` are assigned, and `FE`
and `FF` are reserved for implementations; the rest begin no instruction.

## Main definitions

* `ClassFormat.OperandLength` — how many bytes follow an opcode.
* `ClassFormat.Opcode` — an assigned byte.
* `ClassFormat.Opcode.table` — mnemonic and operand length of every opcode, in byte order.
-/

namespace ClassFormat

/-- How many operand bytes follow an opcode. -/
inductive OperandLength where
  /-- Always the same count. -/
  | fixed (count : Nat)
  /-- A count that the operands themselves decide. -/
  | dependent
  deriving DecidableEq, Repr

/-- A byte that begins an instruction. -/
structure Opcode where
  /-- The byte. -/
  byte : UInt8
  assigned : byte.toNat ≤ 0xCA ∨ 0xFE ≤ byte.toNat
  deriving DecidableEq, Repr

namespace Opcode

/-- Mnemonic and operand length of every opcode, in byte order. -/
def table : Array (String × OperandLength) := #[
  ("nop", .fixed 0), ("aconst_null", .fixed 0), ("iconst_m1", .fixed 0), ("iconst_0", .fixed 0),
  ("iconst_1", .fixed 0), ("iconst_2", .fixed 0), ("iconst_3", .fixed 0), ("iconst_4", .fixed 0),
  ("iconst_5", .fixed 0), ("lconst_0", .fixed 0), ("lconst_1", .fixed 0), ("fconst_0", .fixed 0),
  ("fconst_1", .fixed 0), ("fconst_2", .fixed 0), ("dconst_0", .fixed 0), ("dconst_1", .fixed 0),
  ("bipush", .fixed 1), ("sipush", .fixed 2), ("ldc", .fixed 1), ("ldc_w", .fixed 2),
  ("ldc2_w", .fixed 2), ("iload", .fixed 1), ("lload", .fixed 1), ("fload", .fixed 1),
  ("dload", .fixed 1), ("aload", .fixed 1), ("iload_0", .fixed 0), ("iload_1", .fixed 0),
  ("iload_2", .fixed 0), ("iload_3", .fixed 0), ("lload_0", .fixed 0), ("lload_1", .fixed 0),
  ("lload_2", .fixed 0), ("lload_3", .fixed 0), ("fload_0", .fixed 0), ("fload_1", .fixed 0),
  ("fload_2", .fixed 0), ("fload_3", .fixed 0), ("dload_0", .fixed 0), ("dload_1", .fixed 0),
  ("dload_2", .fixed 0), ("dload_3", .fixed 0), ("aload_0", .fixed 0), ("aload_1", .fixed 0),
  ("aload_2", .fixed 0), ("aload_3", .fixed 0), ("iaload", .fixed 0), ("laload", .fixed 0),
  ("faload", .fixed 0), ("daload", .fixed 0), ("aaload", .fixed 0), ("baload", .fixed 0),
  ("caload", .fixed 0), ("saload", .fixed 0), ("istore", .fixed 1), ("lstore", .fixed 1),
  ("fstore", .fixed 1), ("dstore", .fixed 1), ("astore", .fixed 1), ("istore_0", .fixed 0),
  ("istore_1", .fixed 0), ("istore_2", .fixed 0), ("istore_3", .fixed 0), ("lstore_0", .fixed 0),
  ("lstore_1", .fixed 0), ("lstore_2", .fixed 0), ("lstore_3", .fixed 0), ("fstore_0", .fixed 0),
  ("fstore_1", .fixed 0), ("fstore_2", .fixed 0), ("fstore_3", .fixed 0), ("dstore_0", .fixed 0),
  ("dstore_1", .fixed 0), ("dstore_2", .fixed 0), ("dstore_3", .fixed 0), ("astore_0", .fixed 0),
  ("astore_1", .fixed 0), ("astore_2", .fixed 0), ("astore_3", .fixed 0), ("iastore", .fixed 0),
  ("lastore", .fixed 0), ("fastore", .fixed 0), ("dastore", .fixed 0), ("aastore", .fixed 0),
  ("bastore", .fixed 0), ("castore", .fixed 0), ("sastore", .fixed 0), ("pop", .fixed 0),
  ("pop2", .fixed 0), ("dup", .fixed 0), ("dup_x1", .fixed 0), ("dup_x2", .fixed 0),
  ("dup2", .fixed 0), ("dup2_x1", .fixed 0), ("dup2_x2", .fixed 0), ("swap", .fixed 0),
  ("iadd", .fixed 0), ("ladd", .fixed 0), ("fadd", .fixed 0), ("dadd", .fixed 0),
  ("isub", .fixed 0), ("lsub", .fixed 0), ("fsub", .fixed 0), ("dsub", .fixed 0),
  ("imul", .fixed 0), ("lmul", .fixed 0), ("fmul", .fixed 0), ("dmul", .fixed 0),
  ("idiv", .fixed 0), ("ldiv", .fixed 0), ("fdiv", .fixed 0), ("ddiv", .fixed 0),
  ("irem", .fixed 0), ("lrem", .fixed 0), ("frem", .fixed 0), ("drem", .fixed 0),
  ("ineg", .fixed 0), ("lneg", .fixed 0), ("fneg", .fixed 0), ("dneg", .fixed 0),
  ("ishl", .fixed 0), ("lshl", .fixed 0), ("ishr", .fixed 0), ("lshr", .fixed 0),
  ("iushr", .fixed 0), ("lushr", .fixed 0), ("iand", .fixed 0), ("land", .fixed 0),
  ("ior", .fixed 0), ("lor", .fixed 0), ("ixor", .fixed 0), ("lxor", .fixed 0), ("iinc", .fixed 2),
  ("i2l", .fixed 0), ("i2f", .fixed 0), ("i2d", .fixed 0), ("l2i", .fixed 0), ("l2f", .fixed 0),
  ("l2d", .fixed 0), ("f2i", .fixed 0), ("f2l", .fixed 0), ("f2d", .fixed 0), ("d2i", .fixed 0),
  ("d2l", .fixed 0), ("d2f", .fixed 0), ("i2b", .fixed 0), ("i2c", .fixed 0), ("i2s", .fixed 0),
  ("lcmp", .fixed 0), ("fcmpl", .fixed 0), ("fcmpg", .fixed 0), ("dcmpl", .fixed 0),
  ("dcmpg", .fixed 0), ("ifeq", .fixed 2), ("ifne", .fixed 2), ("iflt", .fixed 2),
  ("ifge", .fixed 2), ("ifgt", .fixed 2), ("ifle", .fixed 2), ("if_icmpeq", .fixed 2),
  ("if_icmpne", .fixed 2), ("if_icmplt", .fixed 2), ("if_icmpge", .fixed 2),
  ("if_icmpgt", .fixed 2), ("if_icmple", .fixed 2), ("if_acmpeq", .fixed 2),
  ("if_acmpne", .fixed 2), ("goto", .fixed 2), ("jsr", .fixed 2), ("ret", .fixed 1),
  ("tableswitch", .dependent), ("lookupswitch", .dependent), ("ireturn", .fixed 0),
  ("lreturn", .fixed 0), ("freturn", .fixed 0), ("dreturn", .fixed 0), ("areturn", .fixed 0),
  ("return", .fixed 0), ("getstatic", .fixed 2), ("putstatic", .fixed 2), ("getfield", .fixed 2),
  ("putfield", .fixed 2), ("invokevirtual", .fixed 2), ("invokespecial", .fixed 2),
  ("invokestatic", .fixed 2), ("invokeinterface", .fixed 4), ("invokedynamic", .fixed 4),
  ("new", .fixed 2), ("newarray", .fixed 1), ("anewarray", .fixed 2), ("arraylength", .fixed 0),
  ("athrow", .fixed 0), ("checkcast", .fixed 2), ("instanceof", .fixed 2),
  ("monitorenter", .fixed 0), ("monitorexit", .fixed 0), ("wide", .dependent),
  ("multianewarray", .fixed 3), ("ifnull", .fixed 2), ("ifnonnull", .fixed 2), ("goto_w", .fixed 4),
  ("jsr_w", .fixed 4), ("breakpoint", .fixed 0), ("impdep1", .fixed 0), ("impdep2", .fixed 0)]

/-- The table has a row for each opcode. -/
theorem size_table : table.size = 205 := by
  decide +kernel

/-- The opcode of a byte, if the byte is assigned. -/
def ofByte? (byte : UInt8) : Option Opcode :=
  if assigned : byte.toNat ≤ 0xCA ∨ 0xFE ≤ byte.toNat then some ⟨byte, assigned⟩ else none

/-- The place of an opcode among all opcodes, from zero. -/
def rank (opcode : Opcode) : Nat :=
  if opcode.byte.toNat ≤ 0xCA then opcode.byte.toNat else opcode.byte.toNat - 0xFE + 0xCB

/-- An opcode has a row in the table. -/
theorem rank_lt (opcode : Opcode) : opcode.rank < table.size := by
  have hbyte := opcode.byte.toNat_lt
  have hassigned := opcode.assigned
  rw [size_table, rank]
  split <;> omega

/-- The name of an opcode. -/
def mnemonic (opcode : Opcode) : String :=
  have _ := opcode.rank_lt
  table[opcode.rank].1

/-- How many operand bytes follow an opcode. -/
def operandLength (opcode : Opcode) : OperandLength :=
  have _ := opcode.rank_lt
  table[opcode.rank].2

/-- Jump by a table of consecutive keys. -/
def tableswitch : Opcode :=
  ⟨0xAA, by decide⟩

/-- Jump by a list of pairs of key and target. -/
def lookupswitch : Opcode :=
  ⟨0xAB, by decide⟩

/-- Widens the operands of the opcode that follows it. -/
def wide : Opcode :=
  ⟨0xC4, by decide⟩

/-- An opcode is found again by its byte. -/
@[simp] theorem ofByte?_byte (opcode : Opcode) : ofByte? opcode.byte = some opcode :=
  dif_pos opcode.assigned

/-- The opcode that is found for a byte has that byte. -/
theorem byte_of_ofByte? {byte : UInt8} {opcode : Opcode} (h : ofByte? byte = some opcode) :
    opcode.byte = byte := by
  unfold ofByte? at h
  split at h <;> cases h
  rfl

/-- The opcodes whose operands decide about their own length. -/
theorem eq_of_dependent {opcode : Opcode} (h : opcode.operandLength = .dependent) :
    opcode = tableswitch ∨ opcode = lookupswitch ∨ opcode = wide := by
  have hranks : ∀ rank : Fin table.size, (table[rank.val]).2 = .dependent →
      rank.val = 0xAA ∨ rank.val = 0xAB ∨ rank.val = 0xC4 := by decide +kernel
  have heq : ∀ {other : Opcode}, opcode.rank = other.byte.toNat → other.byte.toNat ≤ 0xCA →
      opcode = other := by
    intro other hrank hother
    obtain ⟨byte, hassigned⟩ := opcode
    obtain ⟨byte', hassigned'⟩ := other
    have hbyte : byte.toNat = byte'.toNat := by
      unfold rank at hrank
      dsimp only at hrank hother
      split at hrank <;> omega
    cases UInt8.toNat_inj.mp hbyte
    rfl
  rcases hranks ⟨opcode.rank, opcode.rank_lt⟩ h with hrank | hrank | hrank
  · exact .inl (heq hrank (by decide))
  · exact .inr (.inl (heq hrank (by decide)))
  · exact .inr (.inr (heq hrank (by decide)))

end Opcode

end ClassFormat
