import CommandTape.Program

/-!
# Prefixes of a program

A law of runs compares the dispatcher's cursors and registers with counts over the instructions
before the cursor. The counts are natural numbers; `toNat_add_one` is why they agree with
cursors that are words.
-/

namespace CommandTape

namespace Program

variable {p : Program} {k : Nat} {cell : Command × UInt32}

/-! ## 1. Reading instructions -/

section Reading

variable {address : UInt32} {inst : Inst}

theorem inst?_eq_none : p.inst? address = none ↔ p.length ≤ address.toNat := by
  unfold inst? Tape.read
  rw [Option.map_eq_none_iff, List.getElem?_eq_none_iff, length]

theorem cell_of_inst? (h : p.inst? address = some inst) :
    p.cells[address.toNat]? = some (inst.cmd, inst.value) := by
  unfold inst? Tape.read at h
  obtain ⟨cell, hc, rfl⟩ := Option.map_eq_some_iff.mp h
  exact hc

theorem lt_length_of_cell (h : p.cells[k]? = some cell) : k < p.length :=
  (List.getElem?_eq_some_iff.mp h).1

theorem exists_cell (h : k < p.length) : ∃ cell, p.cells[k]? = some cell :=
  ⟨_, List.getElem?_eq_getElem h⟩

theorem lt_length_of_inst? (h : p.inst? address = some inst) : address.toNat < p.length :=
  lt_length_of_cell (cell_of_inst? h)

/-- The instruction at an address is also that of its place in the list of all instructions. -/
theorem getElem?_insts (h : p.inst? address = some inst) :
    p.insts[address.toNat]? = some inst := by
  unfold inst? Tape.read at h
  obtain ⟨cell, hcell, rfl⟩ := Option.map_eq_some_iff.mp h
  rw [insts, List.getElem?_map, List.getElem?_zipIdx, hcell]
  simp

/-- A cursor within a program can move on: the length of a program fits its word. -/
theorem toNat_add_one (h : address.toNat < p.length) :
    (address + 1).toNat = address.toNat + 1 := by
  have hp : p.length < 4294967296 := p.length_lt
  rw [UInt32.toNat_add, UInt32.toNat_one]
  omega

end Reading

/-! ## 2. Counts -/

/-- Instruction `k` is there and answers: it is a pop or a peek. -/
def AnswersAt (p : Program) (k : Nat) : Prop := p.commands[k]?.any Command.records = true

instance (p : Program) (k : Nat) : Decidable (p.AnswersAt k) :=
  inferInstanceAs (Decidable (_ = true))

/-- How many of the first `k` instructions answer. -/
def answersBefore (p : Program) (k : Nat) : Nat := countRecording (p.commands.take k)

/-- How many of the first `k` instructions are pushes. -/
def pushesBefore (p : Program) (k : Nat) : Nat := (p.commands.take k).count .push

/-- How many of the first `k` instructions are pops. -/
def popsBefore (p : Program) (k : Nat) : Nat := (p.commands.take k).count .pop

theorem command_of_cell (h : p.cells[k]? = some cell) : p.commands[k]? = some cell.1 := by
  unfold commands
  rw [List.getElem?_map, h]
  rfl

theorem commands_take_succ (h : p.cells[k]? = some cell) :
    p.commands.take (k + 1) = p.commands.take k ++ [cell.1] := by
  rw [List.take_add_one, command_of_cell h]
  rfl

theorem cells_take_succ (h : p.cells[k]? = some cell) :
    p.cells.take (k + 1) = p.cells.take k ++ [cell] := by
  rw [List.take_add_one, h]
  rfl

theorem answersAt_iff (h : p.cells[k]? = some cell) :
    p.AnswersAt k ↔ cell.1.records = true := by
  unfold AnswersAt
  rw [command_of_cell h]
  rfl

theorem answersBefore_succ (h : p.cells[k]? = some cell) :
    p.answersBefore (k + 1) = p.answersBefore k + if cell.1.records then 1 else 0 := by
  unfold answersBefore countRecording
  rw [commands_take_succ h, List.countP_append, List.countP_singleton]

theorem pushesBefore_succ (h : p.cells[k]? = some cell) :
    p.pushesBefore (k + 1) = p.pushesBefore k + if cell.1 = .push then 1 else 0 := by
  unfold pushesBefore
  rw [commands_take_succ h, List.count_append, List.count_singleton]
  simp only [beq_iff_eq]

theorem popsBefore_succ (h : p.cells[k]? = some cell) :
    p.popsBefore (k + 1) = p.popsBefore k + if cell.1 = .pop then 1 else 0 := by
  unfold popsBefore
  rw [commands_take_succ h, List.count_append, List.count_singleton]
  simp only [beq_iff_eq]

theorem answersBefore_mono (p : Program) {k l : Nat} (h : k ≤ l) :
    p.answersBefore k ≤ p.answersBefore l :=
  (List.take_sublist_take_left h).countP_le

/-- Instruction `k` is the `t`-th that answers, counted from zero. -/
def IsAnswer (p : Program) (t k : Nat) : Prop := p.AnswersAt k ∧ p.answersBefore k = t

instance (p : Program) (t k : Nat) : Decidable (p.IsAnswer t k) :=
  inferInstanceAs (Decidable (_ ∧ _))

theorem AnswersAt.lt_length (h : p.AnswersAt k) : k < p.length := by
  unfold AnswersAt at h
  cases hc : p.commands[k]? with
  | none =>
    rw [hc] at h
    cases h
  | some cmd =>
    have hk := (List.getElem?_eq_some_iff.mp hc).1
    rwa [commands, List.length_map] at hk

theorem AnswersAt.answersBefore_succ (h : p.AnswersAt k) :
    p.answersBefore (k + 1) = p.answersBefore k + 1 := by
  obtain ⟨cell, hcell⟩ := exists_cell h.lt_length
  rw [Program.answersBefore_succ hcell, if_pos ((answersAt_iff hcell).mp h)]

theorem IsAnswer.unique {t l : Nat} (hk : p.IsAnswer t k) (hl : p.IsAnswer t l) : k = l := by
  have hks := hk.1.answersBefore_succ
  have hls := hl.1.answersBefore_succ
  have hk := hk.2
  have hl := hl.2
  rcases Nat.lt_trichotomy k l with h | h | h
  · have hm : p.answersBefore (k + 1) ≤ p.answersBefore l := p.answersBefore_mono h
    omega
  · exact h
  · have hm : p.answersBefore (l + 1) ≤ p.answersBefore k := p.answersBefore_mono h
    omega

end Program

end CommandTape
