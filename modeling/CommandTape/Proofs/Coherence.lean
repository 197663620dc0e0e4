import CommandTape.Proofs.Run

/-!
# Coherence of the reachable states

The cursors, the status, the flag and the result tape of a dispatcher belong together, whatever
the engine answers. A write does not look at how long its tape is, and the guard compares by
equality; both are right because of what holds here.

* `Holds.put`: an accepted write keeps the tape in step with the result cursor.
* `Coherent.executed`, `Coherent.step`: an instruction and a step keep a state coherent.
* `reachable_coherent`: every state that steps and runs reach is coherent, and no cursor wraps.
-/

namespace CommandTape

/-! ## 1. The result tape -/

/-- What a result tape holds once the result cursor is at `j`. -/
def ResultTape.Holds (limit : ResultLimit) (j : Nat) (tape : ResultTape) : Prop :=
  match limit.policy with
  | .fault => tape.slots.length = j ∧ j ≤ limit.capacity.toNat ∧ tape.discarded = 0
  | .discard =>
    tape.slots.length = min j limit.capacity.toNat ∧
      tape.discarded.toNat = j - tape.slots.length
  | .grow => tape.slots.length = j ∧ tape.discarded = 0

theorem ResultTape.Holds.empty (limit : ResultLimit) : ResultTape.Holds limit 0 {} := by
  obtain ⟨capacity, policy⟩ := limit
  cases policy <;> simp [Holds]

/-- No more answers are dropped than the cursor has counted. -/
theorem ResultTape.Holds.discarded_le {limit : ResultLimit} {j : Nat} {tape : ResultTape}
    (h : tape.Holds limit j) : tape.discarded.toNat ≤ j := by
  obtain ⟨capacity, policy⟩ := limit
  cases policy with
  | fault => simp [h.2.2]
  | discard =>
    have hd : tape.discarded.toNat = j - tape.slots.length := h.2
    omega
  | grow => simp [h.2]

theorem ResultTape.Holds.put {limit : ResultLimit} {j value : UInt32} {tape : ResultTape}
    (h : tape.Holds limit j.toNat) (hr : ¬ limit.Refuses j) (hj : j.toNat + 1 < UInt32.size) :
    (tape.put limit j value).Holds limit (j.toNat + 1) := by
  have hle := h.discarded_le
  obtain ⟨capacity, policy⟩ := limit
  cases policy with
  | fault =>
    obtain ⟨hl, _, hd⟩ := h
    have hc : ¬ capacity.toNat ≤ j.toNat := fun hc => hr ⟨rfl, hc⟩
    simp only [ResultTape.put, Holds, reduceCtorEq, false_and, if_false, List.length_append,
      List.length_singleton]
    exact ⟨by omega, by omega, hd⟩
  | discard =>
    obtain ⟨(hl : tape.slots.length = min j.toNat capacity.toNat), hd⟩ := h
    have hj : j.toNat + 1 < 4294967296 := hj
    simp only [ResultTape.put, Holds, true_and]
    by_cases hc : capacity ≤ j
    · -- No more answers are dropped than the cursor counts, so this count cannot wrap first.
      have hc' : capacity.toNat ≤ j.toNat := hc
      have hadd : (tape.discarded + 1).toNat = tape.discarded.toNat + 1 := by
        rw [UInt32.toNat_add, UInt32.toNat_one]
        omega
      simp only [hc, if_true]
      exact ⟨by omega, by omega⟩
    · have hc' : ¬ capacity.toNat ≤ j.toNat := hc
      simp only [hc, if_false, List.length_append, List.length_singleton]
      exact ⟨by omega, by omega⟩
  | grow =>
    obtain ⟨hl, hd⟩ := h
    simp only [ResultTape.put, Holds, reduceCtorEq, false_and, if_false, List.length_append,
      List.length_singleton]
    exact ⟨by omega, hd⟩

/-- Every answer that the cursor has counted is on the tape or among those that were dropped. -/
theorem ResultTape.Holds.discarded_eq {limit : ResultLimit} {j : Nat} {tape : ResultTape}
    (h : tape.Holds limit j) : tape.discarded.toNat = j - tape.slots.length := by
  obtain ⟨capacity, policy⟩ := limit
  cases policy with
  | fault =>
    obtain ⟨hl, _, hd⟩ := h
    simp [hl, hd]
  | discard => exact h.2
  | grow =>
    obtain ⟨hl, hd⟩ := h
    simp [hl, hd]

/-- What is on a result tape of these limits once `answers` have been recorded. -/
def ResultLimit.kept (limit : ResultLimit) (answers : List UInt32) : List UInt32 :=
  if limit.policy = .discard then answers.take limit.capacity.toNat else answers

/-- An accepted write records one more answer. -/
theorem ResultTape.slots_put {limit : ResultLimit} {j : UInt32} {tape : ResultTape}
    {answers : List UInt32} (h : tape.slots = limit.kept answers) (hj : j.toNat = answers.length)
    (value : UInt32) : (tape.put limit j value).slots = limit.kept (answers ++ [value]) := by
  unfold ResultLimit.kept at h ⊢
  unfold put
  by_cases hp : limit.policy = .discard
  · rw [if_pos hp] at h ⊢
    by_cases hc : limit.capacity ≤ j
    · have hc' : limit.capacity.toNat ≤ answers.length := hj ▸ hc
      rw [if_pos ⟨hp, hc⟩, List.take_append_of_le_length hc']
      exact h
    · have hc' : answers.length < limit.capacity.toNat := hj ▸ UInt32.not_le.mp hc
      rw [if_neg fun hw => hc hw.2, h, List.take_of_length_le (Nat.le_of_lt hc'),
        List.take_of_length_le]
      rw [List.length_append, List.length_singleton]
      exact hc'
  · rw [if_neg hp] at h ⊢
    rw [if_neg fun hw => hp hw.1, h]

namespace Dispatcher

variable {σ : Type}

/-! ## 2. The invariant -/

/-- What belongs together in the state of a job. -/
structure Coherent (job : Job σ) (d : Dispatcher σ) : Prop where
  recorded_le : d.j.toNat ≤ d.i.toNat
  executed_le : d.i.toNat ≤ job.program.length
  /-- A ceiling of zero is never met. Any other ends the run where the cursor reaches it. -/
  ceiling : 1 ≤ job.config.maxInstructions.toNat →
    d.i.toNat ≤ job.config.maxInstructions.toNat ∧
      (d.flag.fault = none → d.i.toNat < job.config.maxInstructions.toNat)
  status_error : ∀ fault, d.status = .error fault ↔ d.flag.fault = some fault
  idle : d.status = .idle → d.i = 0 ∧ d.j = 0 ∧ d.results = {}
  stopped : d.status = .stopped → d.i.toNat = job.program.length ∧ d.flag.fault = none
  /-- Without a fault, an answer has been recorded for each instruction that answers. -/
  recorded : d.flag.fault = none → d.j.toNat = job.program.answersBefore d.i.toNat
  results : d.results.Holds job.config.resultLimit d.j.toNat

variable {job : Job σ} {s : σ} {d : Dispatcher σ} {inst : Inst}

theorem coherent_start : Coherent job (start s) where
  recorded_le := Nat.le_refl 0
  executed_le := Nat.zero_le _
  ceiling h := ⟨Nat.zero_le _, fun _ => h⟩
  status_error fault := by simp [start]
  idle _ := ⟨rfl, rfl, rfl⟩
  stopped h := by simp [start] at h
  recorded _ := rfl
  results := .empty _

/-- The end of the program is where the cursor is at its length. -/
theorem Coherent.stop (h : Coherent job d) (hf : d.flag.fault = none)
    (hi : job.program.inst? d.i = none) : Coherent job { d with status := .stopped } where
  recorded_le := h.recorded_le
  executed_le := h.executed_le
  ceiling := h.ceiling
  status_error fault := by simp [hf]
  idle hs := by simp at hs
  stopped _ := ⟨Nat.le_antisymm h.executed_le (Program.inst?_eq_none.mp hi), hf⟩
  recorded := h.recorded
  results := h.results

/-- An instruction moves the result cursor by at most one. -/
theorem toNat_executed_j (h : Coherent job d) (hi : job.program.inst? d.i = some inst) :
    (d.executed job inst).j.toNat = d.j.toNat + if d.Writes job inst then 1 else 0 := by
  have hlt := Program.lt_length_of_inst? hi
  have hadd : (d.j + 1).toNat = d.j.toNat + 1 :=
    Program.toNat_add_one (Nat.lt_of_le_of_lt h.recorded_le hlt)
  rw [executed_j]
  split
  · exact hadd
  · rfl

theorem Coherent.executed (h : Coherent job d) (hf : d.flag.fault = none)
    (hi : job.program.inst? d.i = some inst) : Coherent job (d.executed job inst) := by
  have hlt := Program.lt_length_of_inst? hi
  have hlen : job.program.length < UInt32.size := job.program.length_lt
  have hadd : (d.i + 1).toNat = d.i.toNat + 1 := Program.toNat_add_one hlt
  have hj := toNat_executed_j h hi
  have hle := h.recorded_le
  refine { recorded_le := ?_, executed_le := ?_, ceiling := ?_, status_error := ?_, idle := ?_,
           stopped := ?_, recorded := ?_, results := ?_ }
  · rw [executed_i, hadd, hj]
    split <;> omega
  · rw [executed_i, hadd]
    exact hlt
  · intro hc
    obtain ⟨_, hbelow⟩ := h.ceiling hc
    have hbelow := hbelow hf
    rw [executed_i, executed_fault, hadd]
    refine ⟨hbelow, fun hr => ?_⟩
    -- The guard compares by equality. That the cursor was below the ceiling makes it a bound.
    have hne : d.i + 1 ≠ job.config.maxInstructions :=
      ceilingFault?_eq_none.mp (raised?_eq_none.mp hr).2.2
    have hne' : (d.i + 1).toNat ≠ job.config.maxInstructions.toNat :=
      fun he => hne (UInt32.toNat_inj.mp he)
    omega
  · intro fault
    rw [executed_status, executed_fault]
    cases d.raised? job inst <;> simp [statusOf]
  · intro hs
    rw [executed_status] at hs
    cases hr : d.raised? job inst <;> simp [statusOf, hr] at hs
  · intro hs
    rw [executed_status] at hs
    cases hr : d.raised? job inst <;> simp [statusOf, hr] at hs
  · intro hr
    rw [executed_i, hadd, Program.answersBefore_succ (Program.cell_of_inst? hi), hj,
      h.recorded hf]
    simp only [writes_iff_of_raised?_none hr]
  · rw [hj, executed_results]
    split
    · next hw => exact h.results.put hw.2 (by omega)
    · exact h.results

theorem Coherent.step (h : Coherent job d) : Coherent job (step job d).state :=
  step_keeps h h.stop fun _ => h.executed

theorem Reachable.coherent (h : Reachable job s d) : Coherent job d :=
  h.induction coherent_start fun _ _ hd => hd.step

/-- Every state that steps and runs reach is coherent. So no cursor wraps when the next instruction
    moves it: the length of the program fits the word. -/
theorem reachable_coherent (h : Reachable job s d) :
    Coherent job d ∧ job.program.length ≤ UInt32.size - 1 ∧
      ∀ inst, job.program.inst? d.i = some inst →
        (d.i + 1).toNat = d.i.toNat + 1 ∧ (d.j + 1).toNat = d.j.toNat + 1 ∧
          (d.results.discarded + 1).toNat = d.results.discarded.toNat + 1 := by
  have hd := h.coherent
  refine ⟨hd, Nat.le_sub_one_of_lt job.program.length_lt, fun inst hi => ?_⟩
  have hlt := Program.lt_length_of_inst? hi
  have hj : d.j.toNat < job.program.length := Nat.lt_of_le_of_lt hd.recorded_le hlt
  have hdisc : d.results.discarded.toNat < job.program.length :=
    Nat.lt_of_le_of_lt hd.results.discarded_le hj
  exact ⟨Program.toNat_add_one hlt, Program.toNat_add_one hj, Program.toNat_add_one hdisc⟩

/-- A push and two pops: a queue answers the first and faults on the second. -/
def pushPopPop : Program := ⟨[(.push, 5), (.pop, 0), (.pop, 0)], by decide⟩

/-- Limits that all bite at the third instruction of `pushPopPop`. -/
def tight : Config := { maxInstructions := 3, resultCapacity := 1 }

/-- After one step, and after a run from there, which ends at the underflow. -/
theorem reachable_coherent_pushPopPop :
    let job : Job (List UInt32) := ⟨pushPopPop, Engine.fifo 1, tight⟩
    let first := (step job (start [])).state
    let last := (run job first).1
    (Reachable job [] first ∧ Coherent job first ∧
      first.i = 1 ∧ first.j = 0 ∧ first.status = .running ∧ first.results = ⟨[], 0⟩ ∧
      job.program.inst? first.i = some ⟨1, .pop, 0⟩ ∧ (first.i + 1).toNat = 2 ∧
      (first.j + 1).toNat = 1 ∧ (first.results.discarded + 1).toNat = 1) ∧
    Reachable job [] last ∧ Coherent job last ∧
      last.i = 3 ∧ last.j = 1 ∧ last.status = .error (.engine .underflow) ∧
      last.results = ⟨[5], 0⟩ := by
  intro job first last
  have hfirst : Reachable job [] first := .step .start
  have hlast : Reachable job [] last := .run hfirst
  have hinst : job.program.inst? first.i = some ⟨1, .pop, 0⟩ := by decide
  obtain ⟨hcoherent, -, hadd⟩ := reachable_coherent hfirst
  obtain ⟨hi, hj, hdiscarded⟩ := hadd _ hinst
  exact ⟨⟨hfirst, hcoherent, by decide, by decide, by decide, by decide, hinst, hi, hj,
    hdiscarded⟩, hlast, (reachable_coherent hlast).1, by decide, by decide, by decide, by decide⟩

end Dispatcher

end CommandTape
