import CommandTape.Proofs.Recording

/-!
# Runs end

A run is a loop that is left at the first step that executes nothing. Nothing in the loop bounds
the number of its steps: the engine may answer and fault as it likes, and the ceiling, which is
compared by equality, may never be met. The end of the program bounds it.

* `Loops`: the loop of a run, with the number of its steps and without a bound on it.
* `exists_loops`: the loop is left, at most one step behind the last instruction.
* `Loops.stepsWhile_eq`: the bounded loop that is computed is this one.
* `calls_steps`: steps call the engine once for each instruction that the cursor moves over.
* `run_terminates`: the number of steps of a run and the calls that its engine receives.
-/

namespace CommandTape

/-- The instructions from `k` on that stand before `l`. -/
def Program.stretch (p : Program) (k l : Nat) : Tape (Command × UInt32) := (p.cells.take l).drop k

theorem Program.stretch_self (p : Program) (k : Nat) : p.stretch k k = [] :=
  List.drop_eq_nil_of_le (List.length_take_le _ _)

theorem Program.stretch_succ {p : Program} {k l : Nat} {cell : Command × UInt32} (h : k ≤ l)
    (hcell : p.cells[l]? = some cell) : p.stretch k (l + 1) = p.stretch k l ++ [cell] := by
  have hl : l ≤ p.cells.length := Nat.le_of_lt (lt_length_of_cell hcell)
  have hk : k ≤ (p.cells.take l).length := by
    rw [List.length_take_of_le hl]
    exact h
  unfold stretch
  rw [cells_take_succ hcell, List.drop_append_of_le_length hk]

namespace Dispatcher

variable {σ : Type} {job : Job σ} {d last : Dispatcher σ} {inst : Inst} {n : Nat}
  {log : List Event}

/-! ## 1. The loop of a run -/

/-- The loop of a run takes `n` steps from `d` and ends in `last`. It goes on for as long as steps
    execute instructions, and each of these is logged behind what its step logs. -/
inductive Loops (job : Job σ) : Nat → Dispatcher σ → Dispatcher σ → List Event → Prop
  | leave {d : Dispatcher σ}
      (hleave : ∀ inst recorded, (step job d).outcome ≠ .executed inst recorded) :
      Loops job 1 d (step job d).state (step job d).log
  | again {n : Nat} {d last : Dispatcher σ} {inst : Inst} {recorded : Option UInt32}
      {log : List Event} (hagain : (step job d).outcome = .executed inst recorded)
      (hrest : Loops job n (step job d).state last log) :
      Loops job (n + 1) d last
        ((step job d).log ++
          .stepped inst recorded (step job d).state.i (step job d).state.j :: log)

/-- A step that has executed an instruction has executed the one at the cursor. -/
theorem executed_of_outcome {recorded : Option UInt32}
    (h : (step job d).outcome = .executed inst recorded) :
    job.program.inst? d.i = some inst ∧ (step job d).state = d.executed job inst := by
  by_cases hd : d.Settled
  · rw [step_of_settled hd] at h
    cases hf : d.flag.fault <;> simp [hf] at h
  · cases hi : job.program.inst? d.i with
    | none =>
      rw [step_of_not_settled hd, hi] at h
      cases h
    | some inst' =>
      rw [step_of_not_settled hd, hi] at h
      simp only [execute_spec (not_settled.mp hd).1] at h
      obtain rfl : inst' = inst := by
        cases hr : d.raised? job inst' <;> simp_all
      exact ⟨rfl, step_inst hd hi⟩

/-- Each time around, the cursor comes nearer to the end of the program, whatever the engine does
    and wherever the ceiling is. -/
theorem exists_loops (job : Job σ) (k : Nat) (d : Dispatcher σ)
    (h : job.program.length ≤ d.i.toNat + k) :
    ∃ n ≤ k + 1, ∃ last log, Loops job n d last log := by
  induction k generalizing d with
  | zero =>
    refine ⟨1, Nat.le_refl 1, _, _, .leave fun inst recorded hexecuted => ?_⟩
    have hlt := Program.lt_length_of_inst? (executed_of_outcome hexecuted).1
    omega
  | succ k ih =>
    cases hout : (step job d).outcome with
    | executed inst recorded =>
      obtain ⟨hi, hstate⟩ := executed_of_outcome hout
      have hnear : job.program.length ≤ (step job d).state.i.toNat + k := by
        rw [hstate, executed_i, Program.toNat_add_one (Program.lt_length_of_inst? hi)]
        omega
      obtain ⟨n, hn, last, log, hloops⟩ := ih (step job d).state hnear
      exact ⟨n + 1, Nat.succ_le_succ hn, last, _, .again hout hloops⟩
    | halted => exact ⟨1, by omega, _, _, .leave fun _ _ h => nomatch hout.symm.trans h⟩
    | faulted fault => exact ⟨1, by omega, _, _, .leave fun _ _ h => nomatch hout.symm.trans h⟩

/-- The loop with a bound is the loop without one, as long as the bound is not below the number of
    its steps. -/
theorem Loops.stepsWhile_eq (h : Loops job n d last log) {bound : Nat} (hbound : n ≤ bound) :
    stepsWhile job bound d = (last, log) := by
  induction h generalizing bound with
  | @leave d hleave =>
    obtain ⟨bound, rfl⟩ := Nat.exists_eq_add_of_le' hbound
    rw [stepsWhile]
    cases hout : (step job d).outcome with
    | executed inst recorded => exact absurd hout (hleave inst recorded)
    | halted => rfl
    | faulted fault => rfl
  | @again n d last inst recorded log hagain _ ih =>
    obtain ⟨bound, rfl⟩ := Nat.exists_eq_add_of_le' (Nat.le_trans (Nat.le_add_left 1 n) hbound)
    rw [stepsWhile]
    simp only [hagain, ih (Nat.le_of_succ_le_succ hbound)]

/-- The loop takes one number of steps only. -/
theorem Loops.steps_unique {m : Nat} {last' : Dispatcher σ} {log' : List Event}
    (h : Loops job n d last log) (h' : Loops job m d last' log') : m = n := by
  induction h generalizing m last' log' with
  | leave hleave =>
    cases h' with
    | leave => rfl
    | again hagain => exact absurd hagain (hleave _ _)
  | again hagain _ ih =>
    cases h' with
    | leave hleave => exact absurd hagain (hleave _ _)
    | again _ hrest => exact congrArg Nat.succ (ih hrest)

/-- The loop ends in one state and with one log. -/
theorem Loops.unique {m : Nat} {last' : Dispatcher σ} {log' : List Event}
    (h : Loops job n d last log) (h' : Loops job m d last' log') :
    m = n ∧ last' = last ∧ log' = log := by
  obtain rfl := h.steps_unique h'
  have hpair : (last', log') = (last, log) :=
    (h'.stepsWhile_eq (Nat.le_refl m)).symm.trans (h.stepsWhile_eq (Nat.le_refl m))
  exact ⟨rfl, Prod.mk.inj hpair⟩

/-! ## 2. The calls of the engine -/

/-- A step calls the engine once if it moves the cursor, with the instruction that the cursor moves
    over, and not at all if it leaves the cursor where it is. -/
theorem calls_step (job : Job σ) (e : Dispatcher (σ × Tape (Command × UInt32))) :
    let next := (step job.recorded e).state
    (next.i = e.i ∧ next.contents.2 = e.contents.2) ∨
      ∃ cell, job.program.cells[e.i.toNat]? = some cell ∧ next.i.toNat = e.i.toNat + 1 ∧
        next.contents.2 = e.contents.2 ++ [cell] := by
  intro next
  rcases step_cases job.recorded e with ⟨_, hstate⟩ | ⟨_, _, hstate⟩ | ⟨inst, _, hi, hstate⟩
  · exact .inl (by simp only [next, hstate, and_self])
  · exact .inl (by simp only [next, hstate, and_self])
  · refine .inr ⟨_, Program.cell_of_inst? hi, ?_, ?_⟩
    · simp only [next, hstate, executed_i]
      exact Program.toNat_add_one (Program.lt_length_of_inst? hi)
    · simp only [next, hstate, executed_contents]
      rfl

/-- Steps call the engine with the instructions that they move the cursor over, one call for each
    of them, in the order of the program. -/
theorem calls_steps (job : Job σ) (e : Dispatcher (σ × Tape (Command × UInt32))) (n : Nat) :
    let last := steps job.recorded n e
    e.i.toNat ≤ last.i.toNat ∧
      last.contents.2 = e.contents.2 ++ job.program.stretch e.i.toNat last.i.toNat := by
  intro last
  induction n with
  | zero =>
    refine ⟨Nat.le_refl _, ?_⟩
    simp only [last, steps, Program.stretch_self, List.append_nil]
  | succ n ih =>
    obtain ⟨hle, hcalls⟩ := ih
    have hlast : last = (step job.recorded (steps job.recorded n e)).state := steps_succ _ n e
    rw [hlast]
    rcases calls_step job (steps job.recorded n e) with ⟨hi, hsame⟩ | ⟨cell, hcell, hi, hmore⟩
    · rw [hi, hsame]
      exact ⟨hle, hcalls⟩
    · rw [hi, hmore, hcalls, Program.stretch_succ hle hcell, List.append_assoc]
      exact ⟨Nat.le_succ_of_le hle, rfl⟩

/-! ## 3. Runs -/

/-- What a run calls its engine with. -/
def calls (job : Job σ) (d : Dispatcher σ) : Tape (Command × UInt32) :=
  (run job.recorded (d.mapContents fun s => (s, []))).1.contents.2

/-- A run ends, whatever the engine does, whatever the configuration is and wherever it starts: its
    loop takes at most one step more than there are instructions from the cursor on, and it has one
    end, which is that of the run. On the way, the engine is called once for each instruction that
    the cursor moves over, with the command and the operand of that instruction, in the order of
    the program. -/
theorem run_terminates (job : Job σ) (d : Dispatcher σ) :
    let last := (run job d).1
    (∃ n ≤ job.program.length - d.i.toNat + 1, ∃ log,
      (∀ m last' log', Loops job m d last' log' ↔ m = n ∧ last' = last ∧ log' = log) ∧
      (run job d).2 = log ++ [.runFinished last.i last.j last.flag.fault]) ∧
    d.i.toNat ≤ last.i.toNat ∧ calls job d = job.program.stretch d.i.toNat last.i.toNat := by
  intro last
  refine ⟨?ends, ?called⟩
  case ends =>
    obtain ⟨n, hn, last', log, hloops⟩ :=
      exists_loops job (job.program.length - d.i.toNat) d (by omega)
    have hrun : run job d = (last', log ++ [.runFinished last'.i last'.j last'.flag.fault]) := by
      unfold run
      rw [hloops.stepsWhile_eq hn]
      rfl
    obtain rfl : last = last' := congrArg Prod.fst hrun
    refine ⟨n, hn, log, fun m last' log' => ⟨hloops.unique, ?_⟩, congrArg Prod.snd hrun⟩
    rintro ⟨rfl, rfl, rfl⟩
    exact hloops
  case called =>
    let noted := d.mapContents fun s => (s, ([] : Tape (Command × UInt32)))
    have hlast : last.i = (run job.recorded noted).1.i := by
      have hmap := run_mapContents job.recorded_mapsTo noted
      exact congrArg (fun r => r.1.i) hmap
    rw [hlast]
    unfold calls
    rw [run_state]
    exact calls_steps job noted _

end Dispatcher

end CommandTape
