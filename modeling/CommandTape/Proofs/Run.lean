import CommandTape.Proofs.Instruction
import CommandTape.Proofs.Prefix

/-!
# Steps, runs and reachable states

* `step_cases`: a step has nothing to do, meets the end of the program, or executes an
  instruction while the flag is down.
* `step_keeps`: what a step keeps, from what the end of the program and an instruction keep.
* `run_state`: a run is a number of steps, the last of which may do nothing.
* `settled_run`: a run ends where nothing is left to do. The number of steps it is allowed is
  enough from every state, so it stands for a loop without a bound.
* `Reachable.induction`: a property of the first state that every step keeps holds of all states
  that steps and runs reach.
* `steps_related`: the same for what relates two runs.
* `steps_map`, `run_congr`: runs of two jobs that take the same steps.
-/

namespace CommandTape

namespace Dispatcher

variable {σ : Type}

/-! ## 1. Steps -/

/-- Nothing is left to do: a fault is up, or the program has run out. -/
def Settled (d : Dispatcher σ) : Prop :=
  d.flag.fault ≠ none ∨ d.status = .stopped

theorem not_settled {d : Dispatcher σ} :
    ¬ d.Settled ↔ d.flag.fault = none ∧ d.status ≠ .stopped := by
  simp [Settled]

/-- A dispatcher with nothing left to do returns its fault, or that it has halted. -/
theorem step_of_settled {job : Job σ} {d : Dispatcher σ} (h : d.Settled) :
    step job d =
      ⟨match d.flag.fault with
        | some fault => .faulted fault
        | none => .halted, d, []⟩ := by
  unfold step
  cases hf : d.flag.fault with
  | some fault => rfl
  | none => exact if_pos (h.resolve_left (fun hn => hn hf))

theorem step_settled {job : Job σ} {d : Dispatcher σ} (h : d.Settled) :
    (step job d).state = d := by
  rw [step_of_settled h]

/-- A dispatcher with something left to do executes the instruction at its cursor, or stops where
    there is none. -/
theorem step_of_not_settled {job : Job σ} {d : Dispatcher σ} (h : ¬ d.Settled) :
    step job d =
      match job.program.inst? d.i with
      | none => ⟨.halted, { d with status := .stopped }, []⟩
      | some inst => execute job inst d := by
  obtain ⟨hf, hs⟩ := not_settled.mp h
  unfold step
  rw [hf]
  exact if_neg hs

theorem step_end {job : Job σ} {d : Dispatcher σ} (h : ¬ d.Settled)
    (hi : job.program.inst? d.i = none) :
    (step job d).state = { d with status := .stopped } := by
  rw [step_of_not_settled h, hi]

theorem step_inst {job : Job σ} {d : Dispatcher σ} {inst : Inst} (h : ¬ d.Settled)
    (hi : job.program.inst? d.i = some inst) : (step job d).state = d.executed job inst := by
  rw [step_of_not_settled h, hi]
  exact congrArg Turn.state (execute_spec (not_settled.mp h).1)

/-- What a step does to the state. -/
theorem step_cases (job : Job σ) (d : Dispatcher σ) :
    (d.Settled ∧ (step job d).state = d) ∨
    (d.flag.fault = none ∧ job.program.inst? d.i = none ∧
      (step job d).state = { d with status := .stopped }) ∨
    (∃ inst, d.flag.fault = none ∧ job.program.inst? d.i = some inst ∧
      (step job d).state = d.executed job inst) := by
  by_cases h : d.Settled
  · exact .inl ⟨h, step_settled h⟩
  · have hf : d.flag.fault = none := (not_settled.mp h).1
    cases hi : job.program.inst? d.i with
    | none => exact .inr (.inl ⟨hf, rfl, step_end h hi⟩)
    | some inst => exact .inr (.inr ⟨inst, hf, rfl, step_inst h hi⟩)

/-- A step keeps what the end of the program and every instruction keep. -/
theorem step_keeps {P : Dispatcher σ → Prop} {job : Job σ} {d : Dispatcher σ} (h : P d)
    (hend : d.flag.fault = none → job.program.inst? d.i = none → P { d with status := .stopped })
    (hinst : ∀ inst, d.flag.fault = none → job.program.inst? d.i = some inst →
      P (d.executed job inst)) : P (step job d).state := by
  rcases step_cases job d with ⟨_, hs⟩ | ⟨hf, hi, hs⟩ | ⟨inst, hf, hi, hs⟩
  · exact hs.symm ▸ h
  · exact hs.symm ▸ hend hf hi
  · exact hs.symm ▸ hinst inst hf hi

/-- A step that executes nothing leaves nothing to do. -/
theorem settled_of_outcome {job : Job σ} {d : Dispatcher σ}
    (h : ∀ inst recorded, (step job d).outcome ≠ .executed inst recorded) :
    (step job d).state.Settled := by
  by_cases hd : d.Settled
  · rw [step_settled hd]
    exact hd
  · have hf : d.flag.fault = none := (not_settled.mp hd).1
    rw [step_of_not_settled hd] at h ⊢
    cases hi : job.program.inst? d.i with
    | none => exact .inr rfl
    | some inst =>
      rw [hi] at h
      simp only [execute_spec hf] at h ⊢
      refine .inl ?_
      rw [executed_fault]
      intro hr
      rw [hr] at h
      exact h _ _ rfl

/-! ## 2. Runs -/

theorem steps_settled {job : Job σ} {d : Dispatcher σ} (h : d.Settled) (n : Nat) :
    steps job n d = d := by
  induction n with
  | zero => rfl
  | succ n ih => rw [steps, step_settled h, ih]

theorem steps_add (job : Job σ) (m n : Nat) (d : Dispatcher σ) :
    steps job (m + n) d = steps job n (steps job m d) := by
  induction m generalizing d with
  | zero => rw [Nat.zero_add, steps]
  | succ m ih => rw [Nat.succ_add, steps, ih, steps]

theorem steps_succ (job : Job σ) (n : Nat) (d : Dispatcher σ) :
    steps job (n + 1) d = (step job (steps job n d)).state := by
  rw [steps_add]
  rfl

/-- Leaving off at the first step that executes nothing makes no difference to the state. -/
theorem stepsWhile_state (job : Job σ) (n : Nat) (d : Dispatcher σ) :
    (stepsWhile job n d).1 = steps job n d := by
  induction n generalizing d with
  | zero => rfl
  | succ n ih =>
    rw [steps, stepsWhile]
    -- Where the loop leaves off nothing is left to do, so the steps it saves do nothing.
    have hsettled : _ → (step job d).state.Settled := settled_of_outcome
    cases ho : (step job d).outcome with
    | executed inst recorded => exact ih _
    | halted =>
      rw [ho] at hsettled
      exact (steps_settled (hsettled nofun) n).symm
    | faulted fault =>
      rw [ho] at hsettled
      exact (steps_settled (hsettled nofun) n).symm

theorem run_state (job : Job σ) (d : Dispatcher σ) :
    (run job d).1 = steps job (job.program.length - d.i.toNat + 1) d :=
  stepsWhile_state job (job.program.length - d.i.toNat + 1) d

/-- Each step that executes an instruction takes the cursor nearer to the end of the program. -/
theorem settled_steps (job : Job σ) (n : Nat) {d : Dispatcher σ}
    (h : job.program.length ≤ d.i.toNat + n) : (steps job (n + 1) d).Settled := by
  induction n generalizing d with
  | zero =>
    rw [steps, steps]
    rcases step_cases job d with ⟨hd, hs⟩ | ⟨_, _, hs⟩ | ⟨inst, _, hi, _⟩
    · exact hs.symm ▸ hd
    · exact hs.symm ▸ .inr rfl
    · exact absurd (Program.lt_length_of_inst? hi) (Nat.not_lt.mpr h)
  | succ n ih =>
    rw [steps]
    rcases step_cases job d with ⟨hd, hs⟩ | ⟨_, _, hs⟩ | ⟨inst, _, hi, hs⟩
    · rw [hs, steps_settled hd]
      exact hd
    · have hstop : (step job d).state.Settled := hs.symm ▸ .inr rfl
      rw [steps_settled hstop]
      exact hstop
    · refine ih ?_
      rw [hs, executed_i, Program.toNat_add_one (Program.lt_length_of_inst? hi)]
      omega

theorem settled_run (job : Job σ) (d : Dispatcher σ) : (run job d).1.Settled := by
  rw [run_state]
  exact settled_steps job _ (by omega)

/-- A run is any number of steps that leads to where nothing is left to do. -/
theorem run_eq_steps {job : Job σ} {n : Nat} {d : Dispatcher σ} (h : (steps job n d).Settled) :
    (run job d).1 = steps job n d := by
  have hr := settled_run job d
  rw [run_state] at hr ⊢
  -- Both sides are the state after the two numbers of steps together.
  rw [← steps_settled hr n, ← steps_add, Nat.add_comm, steps_add, steps_settled h]

theorem run_start (job : Job σ) (s : σ) :
    (run job (start s)).1 = steps job (job.program.length + 1) (start s) :=
  run_state job (start s)

/-- While something is left to do, every step has executed an instruction. -/
theorem toNat_i_of_not_settled (job : Job σ) (s : σ) (n : Nat)
    (h : ¬ (steps job n (start s)).Settled) : (steps job n (start s)).i.toNat = n := by
  induction n with
  | zero => rfl
  | succ n ih =>
    rw [steps_succ] at h ⊢
    rcases step_cases job (steps job n (start s)) with ⟨hd, hs⟩ | ⟨_, _, hs⟩ | ⟨inst, _, hi, hs⟩
    · rw [hs] at h
      exact absurd hd h
    · rw [hs] at h
      exact absurd (.inr rfl) h
    · have hn : ¬ (steps job n (start s)).Settled := by
        intro hd
        rw [step_settled hd] at h
        exact h hd
      rw [hs, executed_i, Program.toNat_add_one (Program.lt_length_of_inst? hi), ih hn]

/-! ## 3. Reachable states -/

/-- The states that steps and runs lead to from the engine state `s`. -/
inductive Reachable (job : Job σ) (s : σ) : Dispatcher σ → Prop
  | start : Reachable job s (start s)
  | step {d : Dispatcher σ} : Reachable job s d → Reachable job s (step job d).state
  | run {d : Dispatcher σ} : Reachable job s d → Reachable job s (run job d).1

variable {job : Job σ} {s : σ}

theorem Reachable.steps {d : Dispatcher σ} (h : Reachable job s d) (n : Nat) :
    Reachable job s (steps job n d) := by
  induction n with
  | zero => exact h
  | succ n ih =>
    rw [steps_succ]
    exact ih.step

/-- A property of the first state that every step keeps holds of every reachable state. -/
theorem Reachable.induction {P : Dispatcher σ → Prop} (hstart : P (Dispatcher.start s))
    (hstep : ∀ d, Reachable job s d → P d → P (Dispatcher.step job d).state) {d : Dispatcher σ}
    (h : Reachable job s d) : P d := by
  induction h with
  | start => exact hstart
  | step hd ih => exact hstep _ hd ih
  | @run d hd ih =>
    rw [run_state]
    generalize job.program.length - d.i.toNat + 1 = n
    induction n with
    | zero => exact ih
    | succ n hn =>
      rw [steps_succ]
      exact hstep _ (hd.steps n) hn

/-- What relates the first states of two runs, and is kept when each of them takes a step, relates
    them after any number of steps. -/
theorem steps_related {τ : Type} {job' : Job τ} {t : τ} {R : Dispatcher σ → Dispatcher τ → Prop}
    (hstart : R (start s) (start t))
    (hstep : ∀ d e, Reachable job s d → Reachable job' t e → R d e →
      R (step job d).state (step job' e).state) (n : Nat) :
    R (steps job n (start s)) (steps job' n (start t)) := by
  induction n with
  | zero => exact hstart
  | succ n ih =>
    rw [steps_succ, steps_succ]
    exact hstep _ _ (Reachable.start.steps n) (Reachable.start.steps n) ih

/-! ## 4. Two jobs -/

/-- A map of states that every step commutes with, any number of steps commute with. -/
theorem steps_map {τ : Type} {job' : Job τ} (f : Dispatcher σ → Dispatcher τ)
    (h : ∀ d, (step job' (f d)).state = f (step job d).state) (n : Nat) (d : Dispatcher σ) :
    steps job' n (f d) = f (steps job n d) := by
  induction n generalizing d with
  | zero => rfl
  | succ n ih =>
    rw [steps, h]
    exact ih _

section SameSteps

variable {job' : Job σ} {d : Dispatcher σ} {n : Nat}

/-- Jobs that take the same steps from the states of a run go through the same states. -/
theorem steps_congr (h : ∀ m < n, step job' (steps job m d) = step job (steps job m d)) :
    steps job' n d = steps job n d := by
  induction n with
  | zero => rfl
  | succ n ih =>
    rw [steps_succ, steps_succ, ih fun m hm => h m (Nat.lt_succ_of_lt hm), h n (Nat.lt_succ_self n)]

theorem stepsWhile_congr (h : ∀ m < n, step job' (steps job m d) = step job (steps job m d)) :
    stepsWhile job' n d = stepsWhile job n d := by
  induction n generalizing d with
  | zero => rfl
  | succ n ih =>
    have hfirst : step job' d = step job d := h 0 (Nat.zero_lt_succ n)
    have hrest : stepsWhile job' n (step job d).state = stepsWhile job n (step job d).state :=
      ih fun m hm => h (m + 1) (Nat.succ_lt_succ hm)
    simp only [stepsWhile, hfirst, hrest]

theorem run_congr (hp : job'.program = job.program)
    (h : ∀ m, step job' (steps job m d) = step job (steps job m d)) : run job' d = run job d := by
  unfold run
  rw [hp, stepsWhile_congr fun m _ => h m]

end SameSteps

end Dispatcher

end CommandTape
