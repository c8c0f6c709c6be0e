import ClassFormat.Proofs.ClassFile.Consistency

/-!
# Instructions by their places

The instruction at a place is sought by halving the range in which it can stand. That finds every
instruction of a body that was read, because the instructions of such a body stand in the order of
their places: each one ends before the next one begins. For the same reason nothing is found inside
the operands of an instruction, whatever they look like, and nothing behind the code.

## Main results

* `ClassFormat.Instruction.bisect?_eq_some_iff` — among instructions in order, those that are found
  at a place are those that begin there.
* `ClassFormat.Instruction.Contiguous.pairwise` — instructions that follow one another do not
  overlap.
* `ClassFormat.Code.instructionAt?_of_reader` — the instructions of a body that was read are found
  at their places, and nothing is found elsewhere.
-/

namespace ClassFormat

namespace Instruction

/-! ## Halving a range -/

section Bisection

variable {instructions : Array Instruction} {pc first last : Nat} {hlast : last ≤ instructions.size}
  {instruction : Instruction}

/-- What is found is an instruction that begins at the place. Their order does not matter for this.
-/
lemma mem_of_bisect? (h : bisect? instructions pc first last hlast = some instruction) :
    instruction ∈ instructions ∧ instruction.pc = pc := by
  fun_induction bisect? instructions pc first last hlast with
  | case1 first last hlast hrange hmiddle candidate hpc =>
    obtain rfl : candidate = instruction := Option.some.inj h
    exact ⟨Array.getElem_mem hmiddle, hpc⟩
  | case2 first last hlast hrange hmiddle candidate hne hlt ih => exact ih h
  | case3 first last hlast hrange hmiddle candidate hne hge ih => exact ih h
  | case4 => cases h

/-- In order, an instruction begins before another one exactly if its number is smaller. -/
lemma pc_lt_pc_iff (hordered : instructions.toList.Pairwise fun a b => a.pc < b.pc) {i j : Nat}
    (hi : i < instructions.size) (hj : j < instructions.size) :
    instructions[i].pc < instructions[j].pc ↔ i < j := by
  have hgrows := List.pairwise_iff_getElem.mp hordered
  refine ⟨fun hpc => ?_, hgrows i j hi hj⟩
  rcases Nat.lt_trichotomy i j with hlt | rfl | hgt
  · exact hlt
  · exact absurd hpc (Nat.lt_irrefl _)
  · exact absurd hpc (Nat.lt_asymm (hgrows j i hj hi hgt))

/-- In order, an instruction whose number is in the range is found.

**Proof sketch.** The candidate in the middle begins before the place that is sought, at it, or
behind it. So its number is smaller than that of the instruction, the same, or greater, and the
search goes on with the half in which the instruction is. -/
lemma bisect?_pc_getElem (hordered : instructions.toList.Pairwise fun a b => a.pc < b.pc)
    {number : Nat} (hfirst : first ≤ number) (hnumber : number < last)
    (hsize : number < instructions.size) :
    bisect? instructions instructions[number].pc first last hlast = some instructions[number] := by
  fun_induction bisect? instructions instructions[number].pc first last hlast with
  | case1 first last hlast hrange hmiddle candidate hpc =>
    have hle : ¬number < middle first last :=
      (pc_lt_pc_iff hordered hsize hmiddle).not.mp (Nat.not_lt.mpr hpc.le)
    have hge : ¬middle first last < number :=
      (pc_lt_pc_iff hordered hmiddle hsize).not.mp (Nat.not_lt.mpr hpc.ge)
    obtain rfl : middle first last = number := by omega
    rfl
  | case2 first last hlast hrange hmiddle candidate hne hlt ih =>
    have hright : middle first last < number := (pc_lt_pc_iff hordered hmiddle hsize).mp hlt
    exact ih hright hnumber
  | case3 first last hlast hrange hmiddle candidate hne hge ih =>
    have hgt : instructions[number].pc < candidate.pc := by omega
    have hleft : number < middle first last := (pc_lt_pc_iff hordered hsize hmiddle).mp hgt
    exact ih hfirst hleft
  | case4 => omega

/-- Among instructions in order, those that are found at a place are those that begin there. -/
theorem bisect?_eq_some_iff (hordered : instructions.toList.Pairwise fun a b => a.pc < b.pc) :
    bisect? instructions pc 0 instructions.size (Nat.le_refl _) = some instruction ↔
      instruction ∈ instructions ∧ instruction.pc = pc := by
  constructor
  · exact mem_of_bisect?
  · rintro ⟨hmem, rfl⟩
    obtain ⟨number, hsize, rfl⟩ := Array.mem_iff_getElem.mp hmem
    exact bisect?_pc_getElem hordered (Nat.zero_le _) hsize hsize

end Bisection

/-! ## Instructions that follow one another -/

/-- The lengths of two lists of instructions add up. -/
lemma totalLength_append (front back : List Instruction) :
    totalLength (front ++ back) = totalLength front + totalLength back := by
  induction front with
  | nil => simp [totalLength]
  | cons instruction front ih =>
    simp only [List.cons_append, totalLength, ih]
    omega

namespace Contiguous

variable {instructions : List Instruction}

/-- Each instruction begins behind those with smaller numbers. -/
lemma pc_getElem (h : Contiguous instructions) {number : Nat}
    (hnumber : number < instructions.length) :
    instructions[number].pc = totalLength (instructions.take number) := by
  apply h _ _ (instructions.drop (number + 1))
  rw [← List.drop_eq_getElem_cons hnumber, List.take_append_drop]

/-- Each instruction ends before the next one begins, so they stand in the order of their places. -/
theorem pairwise (h : Contiguous instructions) :
    instructions.Pairwise fun a b => a.pc + a.length ≤ b.pc := by
  rw [List.pairwise_iff_getElem]
  intro i j hi hj hij
  have hfront : instructions.take (i + 1) = instructions.take i ++ [instructions[i]] :=
    List.take_concat_get' .. |>.symm
  have hsplit :
      instructions.take j = instructions.take (i + 1) ++ (instructions.take j).drop (i + 1) := by
    conv_lhs => rw [← List.take_append_drop (i + 1) (instructions.take j), List.take_take]
    rw [Nat.min_eq_left hij]
  rw [h.pc_getElem hi, h.pc_getElem hj, hsplit, hfront, totalLength_append, totalLength_append]
  simp only [totalLength]
  omega

/-- Of two instructions, one ends before the other one begins. -/
lemma apart (h : Contiguous instructions) {a b : Instruction} (ha : a ∈ instructions)
    (hb : b ∈ instructions) : a = b ∨ a.pc + a.length ≤ b.pc ∨ b.pc + b.length ≤ a.pc := by
  have hpairwise := h.pairwise
  obtain ⟨front, back, rfl⟩ := List.append_of_mem ha
  obtain ⟨-, hback, hfront⟩ := List.pairwise_append.mp hpairwise
  rcases List.mem_append.mp hb with hmem | hmem
  · exact .inr (.inr (hfront b hmem a List.mem_cons_self))
  · rcases List.mem_cons.mp hmem with rfl | hmem
    · exact .inl rfl
    · exact .inr (.inl (List.rel_of_pairwise_cons hback hmem))

/-- No instruction reaches beyond the last one. -/
lemma pc_add_length_le (h : Contiguous instructions) {instruction : Instruction}
    (hmem : instruction ∈ instructions) :
    instruction.pc + instruction.length ≤ totalLength instructions := by
  obtain ⟨front, back, rfl⟩ := List.append_of_mem hmem
  rw [h front instruction back rfl, totalLength_append, totalLength]
  omega

end Contiguous

/-- In order, at most one instruction begins at a place. -/
lemma countP_pc_le_one {instructions : List Instruction}
    (hordered : instructions.Pairwise fun a b => a.pc < b.pc) (pc : Nat) :
    instructions.countP (fun instruction => instruction.pc = pc) ≤ 1 := by
  rw [List.countP_eq_length_filter]
  have hfiltered := hordered.filter fun instruction => instruction.pc = pc
  have hpc : ∀ instruction ∈ instructions.filter (fun instruction => instruction.pc = pc),
      instruction.pc = pc :=
    fun instruction hmem => by simpa using (List.mem_filter.mp hmem).2
  rcases hfound : instructions.filter
    fun instruction => instruction.pc = pc with _ | ⟨a, _ | ⟨b, rest⟩⟩
  · simp [hfound]
  · simp [hfound]
  · rw [hfound] at hfiltered hpc
    have hlt : a.pc < b.pc := List.rel_of_pairwise_cons hfiltered List.mem_cons_self
    have ha := hpc a (by simp)
    have hb := hpc b (by simp)
    omega

end Instruction

/-! ## Bodies -/

namespace CodeOf.Consistent

variable {α : Type} {code : CodeOf α} {pc : Nat}

/-- The instructions of a consistent body stand in the order of their places. -/
lemma ordered (h : code.Consistent) : code.instructions.Pairwise fun a b => a.pc < b.pc := by
  refine h.contiguous.pairwise.imp fun {a b} hle => ?_
  unfold Instruction.length at hle
  omega

/-- In a consistent body, the instructions that are found are those of the body, at their places. -/
theorem instructionAt?_eq_some_iff (h : code.Consistent) {instruction : Instruction} :
    code.instructionAt? pc = some instruction ↔
    instruction ∈ code.instructions ∧ instruction.pc = pc := by
  rw [instructionAt?, Instruction.bisect?_eq_some_iff h.ordered, List.mem_toArray]

/-- Nothing is found at a place where no instruction begins. -/
lemma instructionAt?_eq_none (h : code.Consistent)
    (hnone : ∀ instruction ∈ code.instructions, instruction.pc ≠ pc) :
    code.instructionAt? pc = none := by
  rw [Option.eq_none_iff_forall_not_mem]
  intro instruction hfound
  obtain ⟨hmem, hpc⟩ := h.instructionAt?_eq_some_iff.mp hfound
  exact hnone instruction hmem hpc

end CodeOf.Consistent

/-- **Instructions are found at their places.** In a body that was read, the instruction at a place
is the one that begins there, of which there is at most one. Nothing is found inside the operands of
an instruction, even if they look like one, and nothing behind the code.

**Proof sketch.** The instructions of the body follow one another and fill its code, so they stand
in the order of their places and do not overlap. The order makes the search by halving complete. -/
theorem Code.instructionAt?_of_reader {pool : Pool} {start : Cursor} {code : Code}
    (h : (Code.reader pool start).result = .ok code) (pc : Nat) :
    (∀ instruction, code.instructionAt? pc = some instruction ↔
      instruction ∈ code.instructions ∧ instruction.pc = pc) ∧
    code.instructions.countP (fun instruction => instruction.pc = pc) ≤ 1 ∧
    (∀ instruction ∈ code.instructions, instruction.pc < pc →
      pc < instruction.pc + instruction.length →
      code.instructionAt? pc = none) ∧
    (code.codeLength.toNat ≤ pc → code.instructionAt? pc = none) := by
  have hconsistent : code.Consistent := ((Attribute.ensures_readers pool start).2.1 code h).1
  refine ⟨fun _ => hconsistent.instructionAt?_eq_some_iff,
    Instruction.countP_pc_le_one hconsistent.ordered pc, ?_, ?_⟩
  · intro instruction hmem hbehind hbefore
    apply hconsistent.instructionAt?_eq_none
    rintro other hother rfl
    rcases hconsistent.contiguous.apart hmem hother with rfl | hle | hle
    · omega
    · omega
    · omega
  · intro hbeyond
    apply hconsistent.instructionAt?_eq_none
    rintro other hother rfl
    have hle := hconsistent.contiguous.pc_add_length_le hother
    have hlength : other.length = 1 + other.operands.length := rfl
    rw [hconsistent.codeLength] at hle
    omega

/-- A push of a byte that looks like a return, and a return. -/
def Instruction.pushAndReturn : List Instruction :=
  [⟨0, ⟨0x10, by decide⟩, [0xAC]⟩, ⟨2, ⟨0xAC, by decide⟩, []⟩]

/-- A body of these two instructions, without handlers and attributes. -/
def Code.pushAndReturnBody : Bytes :=
  [0, 1, 0, 0, 0, 0, 0, 3] ++ [0x10, 0xAC, 0xAC] ++ [0, 0, 0, 0]

/-- The operand of the push is not found, and the return behind it is. -/
theorem Code.instructionAt?_of_reader_pushAndReturn :
    ∃ code, (Code.reader Pool.empty (.ofBytes pushAndReturnBody)).result = .ok code ∧
      code.instructions = Instruction.pushAndReturn ∧ code.instructionAt? 1 = none ∧
      code.instructionAt? 2 = some ⟨2, ⟨0xAC, by decide⟩, []⟩ ∧ code.instructionAt? 3 = none := by
  generalize hread : (Code.reader Pool.empty (.ofBytes pushAndReturnBody)).result = found
  have hbody : found.toOption.map (fun code => (code.codeLength, code.instructions)) =
      some (3, Instruction.pushAndReturn) := by
    rw [← hread, Code.reader_eq, Attribute.listReader_eq]
    decide +kernel
  cases found with
  | error fault => cases hbody
  | ok code =>
    simp only [Except.toOption, Option.map_some, Option.some.injEq, Prod.mk.injEq] at hbody
    obtain ⟨hlength, hinstructions⟩ := hbody
    refine ⟨code, rfl, hinstructions, ?_, ?_, ?_⟩
    · refine (instructionAt?_of_reader hread 1).2.2.1 ⟨0, ⟨0x10, by decide⟩, [0xAC]⟩ ?_ (by decide)
        (by decide)
      rw [hinstructions]
      exact List.mem_cons_self
    · refine ((instructionAt?_of_reader hread 2).1 _).mpr ⟨?_, rfl⟩
      rw [hinstructions]
      exact List.mem_cons_of_mem _ List.mem_cons_self
    · refine (instructionAt?_of_reader hread 3).2.2.2 ?_
      rw [hlength]
      decide

end ClassFormat
