import CommandTape.Proofs.Coherence
import Mathlib.Logic.Basic

/-!
# What the outcomes of steps tell

The outcome of a step names the instruction that it executed and the answer that it recorded. So
the outcomes of a run are one account of it, the cursors are a second and the result tape a third,
and the three agree. They differ on two points only: a tape may have dropped answers that the
outcomes tell of, and the instruction that raises a fault may have recorded an answer of which no
outcome tells.

* `Accounts.executed`: what an instruction adds to the answers recorded so far.
* `Story.step`: the outcomes of a run are those of the instructions executed without a fault,
  in order, and then only the word that nothing is left to do.
* `outcomes_account`: the three accounts compared.
-/

namespace CommandTape

namespace Outcome

/-- The instruction that was executed without a fault. -/
def inst? : Outcome → Option Inst
  | executed inst _ => some inst
  | halted | faulted _ => none

/-- The answer that was recorded, as far as the outcome tells. -/
def recorded? : Outcome → Option UInt32
  | executed _ recorded => recorded
  | halted | faulted _ => none

end Outcome

namespace Dispatcher

variable {σ : Type} {job : Job σ} {s : σ} {d : Dispatcher σ} {inst : Inst}

/-! ## 1. The outcomes of steps -/

/-- The outcomes of `n` steps. -/
def outcomes (job : Job σ) : Nat → Dispatcher σ → List Outcome
  | 0, _ => []
  | n + 1, d => (step job d).outcome :: outcomes job n (step job d).state

theorem outcomes_succ (job : Job σ) (n : Nat) (d : Dispatcher σ) :
    outcomes job (n + 1) d = outcomes job n d ++ [(step job (steps job n d)).outcome] := by
  induction n generalizing d with
  | zero => rfl
  | succ n ih =>
    rw [outcomes, ih, outcomes, List.cons_append]
    rfl

theorem length_outcomes (job : Job σ) (n : Nat) (d : Dispatcher σ) :
    (outcomes job n d).length = n := by
  induction n generalizing d with
  | zero => rfl
  | succ n ih => rw [outcomes, List.length_cons, ih]

theorem outcomes_map {τ : Type} {job' : Job τ} (f : Dispatcher σ → Dispatcher τ)
    (g : Outcome → Outcome) (hstate : ∀ d, (step job' (f d)).state = f (step job d).state)
    (houtcome : ∀ d, (step job' (f d)).outcome = g (step job d).outcome) (n : Nat)
    (d : Dispatcher σ) : outcomes job' n (f d) = (outcomes job n d).map g := by
  induction n generalizing d with
  | zero => rfl
  | succ n ih => rw [outcomes, outcomes, List.map_cons, hstate, houtcome, ih]

theorem outcomes_congr {job' : Job σ} {n : Nat}
    (h : ∀ m < n, step job' (steps job m d) = step job (steps job m d)) :
    outcomes job' n d = outcomes job n d := by
  induction n generalizing d with
  | zero => rfl
  | succ n ih =>
    have hfirst : step job' d = step job d := h 0 (Nat.zero_lt_succ n)
    rw [outcomes, outcomes, hfirst, ih fun m hm => h (m + 1) (Nat.succ_lt_succ hm)]

/-- What a step says when nothing is left to do. -/
def closing (d : Dispatcher σ) : Outcome :=
  match d.flag.fault with
  | some fault => .faulted fault
  | none => .halted

theorem outcome_of_settled (h : d.Settled) : (step job d).outcome = d.closing := by
  rw [step_of_settled h]
  rfl

theorem outcome_end (h : ¬ d.Settled) (hi : job.program.inst? d.i = none) :
    (step job d).outcome = .halted := by
  rw [step_of_not_settled h, hi]

theorem outcome_inst (h : ¬ d.Settled) (hi : job.program.inst? d.i = some inst) :
    (step job d).outcome =
      match d.raised? job inst with
      | some fault => .faulted fault
      | none => .executed inst
          (if d.Writes job inst then some (register d.ans (d.served job inst).1) else none) := by
  rw [step_of_not_settled h, hi]
  exact congrArg Turn.outcome (execute_spec (not_settled.mp h).1)

/-! ## 2. The answers that have been recorded -/

/-- The result cursor and the result tape are those of `answers`. -/
structure Accounts (limit : ResultLimit) (answers : List UInt32) (d : Dispatcher σ) : Prop where
  j : d.j.toNat = answers.length
  slots : d.results.slots = limit.kept answers
  discarded : d.results.discarded.toNat = answers.length - d.results.slots.length

/-- The answers, with that of an instruction if it writes one. -/
def recordedWith (job : Job σ) (inst : Inst) (d : Dispatcher σ) (answers : List UInt32) :
    List UInt32 :=
  if d.Writes job inst then answers ++ [register d.ans (d.served job inst).1] else answers

theorem Accounts.executed {answers : List UInt32}
    (h : Accounts job.config.resultLimit answers d) (hd : Coherent job d)
    (hf : d.flag.fault = none) (hi : job.program.inst? d.i = some inst) :
    Accounts job.config.resultLimit (d.recordedWith job inst answers) (d.executed job inst) := by
  have hj : (d.executed job inst).j.toNat = (d.recordedWith job inst answers).length := by
    rw [toNat_executed_j hd hi, h.j]
    unfold recordedWith
    split
    · rw [List.length_append, List.length_singleton]
    · rfl
  refine { j := hj, slots := ?_, discarded := ?_ }
  · rw [executed_results]
    unfold recordedWith
    split
    · exact ResultTape.slots_put h.slots h.j _
    · exact h.slots
  · rw [(hd.executed hf hi).results.discarded_eq, hj]

/-- When the instruction that raises a fault writes an answer: it is a pop or a peek, the policy
    does not skip it for a fault of the engine, and the tape does not refuse it. -/
def LeavesAnswer (job : Job σ) (inst : Inst) (fault : Fault) (answers : List UInt32) : Prop :=
  inst.cmd.records = true ∧
    ¬ (fault.isEngine = true ∧ job.config.recordPolicy = .skipOnFault) ∧
    ¬ (job.config.overflowPolicy = .fault ∧
      answers.length = job.config.resultCapacity.toNat)

instance (job : Job σ) (inst : Inst) (fault : Fault) (answers : List UInt32) :
    Decidable (LeavesAnswer job inst fault answers) :=
  inferInstanceAs (Decidable (_ ∧ _))

/-- The engine's fault comes first, so the fault that is raised tells whether the engine served the
    instruction. -/
theorem isOk_of_raised? {fault : Fault} (h : d.raised? job inst = some fault) :
    (d.served job inst).1.isOk = !fault.isEngine := by
  unfold raised? at h
  cases hr : (d.served job inst).1 with
  | error e =>
    rw [hr] at h
    cases h
    rfl
  | ok answer =>
    rw [hr] at h
    have hlate : fault = .resultCapacity job.config.resultCapacity ∨
        fault = .instructionCeiling job.config.maxInstructions := by
      unfold writeFault? ceilingFault? replyFault? at h
      split at h <;> split at h <;> simp_all
    rcases hlate with rfl | rfl <;> rfl

theorem writes_iff_leavesAnswer {answers : List UInt32} {fault : Fault}
    (h : Accounts job.config.resultLimit answers d) (hd : Coherent job d)
    (hraised : d.raised? job inst = some fault) :
    d.Writes job inst ↔ LeavesAnswer job inst fault answers := by
  have hrefuses : job.config.resultLimit.Refuses d.j ↔
      job.config.overflowPolicy = .fault ∧
        answers.length = job.config.resultCapacity.toNat := by
    refine and_congr_right fun hp => ?_
    -- A tape that faults never has more answers than it has room for.
    have hle : d.j.toNat ≤ job.config.resultCapacity.toNat := by
      have hholds := hd.results
      unfold ResultTape.Holds at hholds
      rw [hp] at hholds
      exact hholds.2.1
    rw [← h.j]
    exact ⟨fun hc => Nat.le_antisymm hle hc, fun he => Nat.le_of_eq he.symm⟩
  have hattempts : d.Attempts job inst ↔ inst.cmd.records = true ∧
      ¬ (fault.isEngine = true ∧ job.config.recordPolicy = .skipOnFault) := by
    unfold Attempts recordsAnswer
    rw [isOk_of_raised? hraised]
    simp [imp_iff_not_or, or_comm]
  unfold Writes LeavesAnswer
  rw [hattempts, hrefuses, and_assoc]

/-! ## 3. The outcomes of a run -/

/-- The outcomes `done` are those of the first instructions, executed without a fault, and an
    answer was recorded for each pop and peek among them. -/
structure Executions (job : Job σ) (done : List Outcome) : Prop where
  insts : done.map Outcome.inst? = (job.program.insts.take done.length).map some
  recorded : ∀ inst answer, .executed inst answer ∈ done → answer.isSome = inst.cmd.records

/-- The answers that outcomes tell of. -/
def answersIn (done : List Outcome) : List UInt32 := done.filterMap Outcome.recorded?

/-- The cursors and the tape agree with the outcomes of the instructions executed so far. -/
structure Told (job : Job σ) (done : List Outcome) (d : Dispatcher σ) : Prop where
  executions : Executions job done
  i : d.i.toNat = done.length
  accounts : Accounts job.config.resultLimit (answersIn done) d

/-- The instruction behind `done` has raised a fault. -/
structure Broken (job : Job σ) (done : List Outcome) (fault : Fault) (d : Dispatcher σ) :
    Prop where
  executions : Executions job done
  flag : d.flag.fault = some fault
  i : d.i.toNat = done.length + 1
  last : ∃ inst, job.program.insts[done.length]? = some inst ∧
    Accounts job.config.resultLimit
      (if LeavesAnswer job inst fault (answersIn done) then answersIn done ++ [d.ans]
        else answersIn done) d

/-- What the outcomes tell of a state. -/
inductive Story (job : Job σ) : List Outcome → Dispatcher σ → Prop
  /-- All steps have executed an instruction. -/
  | going {done : List Outcome} {d : Dispatcher σ} (hgoing : ¬ d.Settled)
      (htold : Told job done d) : Story job done d
  /-- The program has run out. -/
  | stopped {done : List Outcome} {d : Dispatcher σ} (m : Nat) (hset : d.Settled)
      (hflag : d.flag.fault = none) (htold : Told job done d) :
      Story job (done ++ List.replicate (m + 1) .halted) d
  /-- A fault has been raised. -/
  | broken {done : List Outcome} {d : Dispatcher σ} {fault : Fault} (m : Nat)
      (hbroken : Broken job done fault d) :
      Story job (done ++ List.replicate (m + 1) (.faulted fault)) d

theorem Executions.append {done : List Outcome} (h : Executions job done)
    {answer : Option UInt32} (hi : job.program.insts[done.length]? = some inst)
    (ha : answer.isSome = inst.cmd.records) :
    Executions job (done ++ [.executed inst answer]) where
  insts := by
    rw [List.map_append, h.insts, List.length_append, List.length_singleton, List.take_add_one,
      hi, List.map_append]
    rfl
  recorded inst' answer' hmem := by
    rcases List.mem_append.mp hmem with hmem | hmem
    · exact h.recorded inst' answer' hmem
    · cases List.mem_singleton.mp hmem
      exact ha

theorem Story.step_inst {done : List Outcome} (htold : Told job done d) (hgoing : ¬ d.Settled)
    (hd : Coherent job d) (hi : job.program.inst? d.i = some inst) :
    Story job (done ++ [(step job d).outcome]) (step job d).state := by
  have hf : d.flag.fault = none := (not_settled.mp hgoing).1
  have hadd : (d.i + 1).toNat = done.length + 1 :=
    htold.i ▸ Program.toNat_add_one (Program.lt_length_of_inst? hi)
  have hinst : job.program.insts[done.length]? = some inst :=
    htold.i ▸ Program.getElem?_insts hi
  have haccounts := htold.accounts.executed hd hf hi
  rw [outcome_inst hgoing hi, Dispatcher.step_inst hgoing hi]
  cases hr : d.raised? job inst with
  | none =>
    have hw := writes_iff_of_raised?_none hr
    refine .going ?_ { executions := htold.executions.append hinst ?_, i := ?_, accounts := ?_ }
    · refine not_settled.mpr ⟨hr, ?_⟩
      rw [executed_status, hr]
      exact nofun
    · by_cases hc : inst.cmd.records = true
      · rw [if_pos (hw.mpr hc), hc]
        rfl
      · rw [if_neg (mt hw.mp hc), Bool.eq_false_iff.mpr hc]
        rfl
    · rw [executed_i, hadd, List.length_append, List.length_singleton]
    · have hanswers : answersIn (done ++ [.executed inst (if d.Writes job inst then
          some (register d.ans (d.served job inst).1) else none)]) =
          d.recordedWith job inst (answersIn done) := by
        unfold answersIn recordedWith
        rw [List.filterMap_append]
        split <;> simp [Outcome.recorded?]
      rw [hanswers]
      exact haccounts
  | some fault =>
    refine .broken 0 { executions := htold.executions, flag := hr, i := hadd,
                       last := ⟨inst, hinst, ?_⟩ }
    have hanswers : d.recordedWith job inst (answersIn done) =
        if LeavesAnswer job inst fault (answersIn done) then
          answersIn done ++ [(d.executed job inst).ans] else answersIn done := by
      rw [executed_ans]
      exact if_congr (writes_iff_leavesAnswer htold.accounts hd hr) rfl rfl
    exact hanswers ▸ haccounts

theorem Story.step {told : List Outcome} (h : Story job told d) (hd : Coherent job d) :
    Story job (told ++ [(step job d).outcome]) (step job d).state := by
  cases h with
  | going hgoing htold =>
    cases hi : job.program.inst? d.i with
    | some inst => exact Story.step_inst htold hgoing hd hi
    | none =>
      rw [outcome_end hgoing hi, step_end hgoing hi]
      exact .stopped 0 (.inr rfl) (not_settled.mp hgoing).1
        { executions := htold.executions, i := htold.i,
          accounts := { j := htold.accounts.j, slots := htold.accounts.slots,
                        discarded := htold.accounts.discarded } }
  | stopped m hset hflag htold =>
    have hclosing : d.closing = .halted := by
      unfold closing
      rw [hflag]
    rw [outcome_of_settled hset, step_settled hset, hclosing, List.append_assoc,
      ← List.replicate_succ']
    exact .stopped (m + 1) hset hflag htold
  | @broken _ _ fault m hbroken =>
    have hset : d.Settled := .inl (hbroken.flag ▸ nofun)
    have hclosing : d.closing = .faulted fault := by
      unfold closing
      rw [hbroken.flag]
    rw [outcome_of_settled hset, step_settled hset, hclosing, List.append_assoc,
      ← List.replicate_succ']
    exact .broken (m + 1) hbroken

theorem story_steps (job : Job σ) (s : σ) (n : Nat) :
    Story job (outcomes job n (start s)) (steps job n (start s)) := by
  induction n with
  | zero =>
    refine .going (not_settled.mpr ⟨rfl, nofun⟩) { executions := ?_, i := rfl, accounts := ?_ }
    · exact { insts := rfl, recorded := nofun }
    · refine { j := rfl, slots := ?_, discarded := rfl }
      unfold ResultLimit.kept
      split
      · exact List.take_nil.symm
      · rfl
  | succ n ih =>
    rw [outcomes_succ, steps_succ]
    exact ih.step (Reachable.start.steps n).coherent

/-! ## 4. The three accounts -/

/-- Outcomes behind those of the executed instructions tell of no instruction and no answer. -/
theorem Executions.followed {done : List Outcome} (h : Executions job done) (m : Nat)
    (last : Outcome) (hlast : last.inst? = none) {n : Nat}
    (hn : (done ++ List.replicate m last).length = n) :
    done.length ≤ n ∧
      (done ++ List.replicate m last).map Outcome.inst? =
        (job.program.insts.take done.length).map some ++ List.replicate (n - done.length) none ∧
      (∀ inst answer, .executed inst answer ∈ done ++ List.replicate m last →
        answer.isSome = inst.cmd.records) ∧
      answersIn (done ++ List.replicate m last) = answersIn done := by
  rw [List.length_append, List.length_replicate] at hn
  refine ⟨hn ▸ Nat.le_add_right _ _, ?_, fun inst answer hmem => ?_, ?_⟩
  · rw [List.map_append, h.insts, List.map_replicate, hlast, ← hn, Nat.add_sub_cancel_left]
  · rcases List.mem_append.mp hmem with hmem | hmem
    · exact h.recorded inst answer hmem
    · rw [← List.eq_of_mem_replicate hmem] at hlast
      cases hlast
  · have hanswer : last.recorded? = none := by
      cases last with
      | executed inst answer => cases hlast
      | halted => rfl
      | faulted fault => rfl
    unfold answersIn
    rw [List.filterMap_append, List.filterMap_replicate_of_none hanswer, List.append_nil]

theorem Executions.length_le {done : List Outcome} (h : Executions job done) :
    done.length ≤ job.program.length := by
  have hlen := congrArg List.length h.insts
  simp only [List.length_map, List.length_take, Program.insts, List.length_zipIdx] at hlen
  unfold Program.length
  omega

/-- The three accounts of a run are one. The outcomes of `n` steps tell first of the instructions
    that were executed without a fault, which are the first `k` of the program, in order, and of
    an answer for each pop and peek among them; the other outcomes tell of no instruction. While no
    fault is up, the instruction cursor is at `k`, and the result cursor and the tape are those of
    the answers. The outcome of the instruction that raises a fault is that fault. The instruction
    is counted, and the result cursor and the tape are those of the answers, with the answer
    register behind them exactly if the instruction leaves an answer. -/
theorem outcomes_account (job : Job σ) (s : σ) (n : Nat) :
    let told := outcomes job n (start s)
    let d := steps job n (start s)
    let answers := answersIn told
    let limit := job.config.resultLimit
    ∃ k ≤ n, k ≤ job.program.length ∧
      told.map Outcome.inst? =
        (job.program.insts.take k).map some ++ List.replicate (n - k) none ∧
      (∀ inst answer, .executed inst answer ∈ told → answer.isSome = inst.cmd.records) ∧
      (d.flag.fault = none → d.i.toNat = k ∧ Accounts limit answers d) ∧
      ∀ fault, d.flag.fault = some fault →
        told[k]? = some (.faulted fault) ∧ d.i.toNat = k + 1 ∧
          ∃ inst, job.program.insts[k]? = some inst ∧
            Accounts limit
              (if LeavesAnswer job inst fault answers then answers ++ [d.ans] else answers) d := by
  intro told d answers limit
  have hstory : Story job told d := story_steps job s n
  have hlen : told.length = n := length_outcomes job n (start s)
  unfold answers
  clear_value told d
  cases hstory with
  | going hgoing htold =>
    have hf : d.flag.fault = none := (not_settled.mp hgoing).1
    rw [← List.append_nil told] at hlen
    obtain ⟨hle, hinsts, hrecorded, -⟩ := htold.executions.followed 0 .halted rfl hlen
    simp only [List.replicate_zero, List.append_nil] at hinsts hrecorded
    refine ⟨_, hle, htold.executions.length_le, hinsts, hrecorded,
      fun _ => ⟨htold.i, htold.accounts⟩, fun fault hfault => ?_⟩
    cases hf.symm.trans hfault
  | stopped m hset hflag htold =>
    obtain ⟨hle, hinsts, hrecorded, hanswers⟩ := htold.executions.followed _ _ rfl hlen
    rw [hanswers]
    refine ⟨_, hle, htold.executions.length_le, hinsts, hrecorded,
      fun _ => ⟨htold.i, htold.accounts⟩, fun fault hfault => ?_⟩
    cases hflag.symm.trans hfault
  | @broken done _ fault m hbroken =>
    obtain ⟨hle, hinsts, hrecorded, hanswers⟩ := hbroken.executions.followed _ _ rfl hlen
    rw [hanswers]
    refine ⟨_, hle, hbroken.executions.length_le, hinsts, hrecorded, fun hnone => ?_,
      fun fault' hfault => ?_⟩
    · cases hbroken.flag.symm.trans hnone
    · obtain rfl : fault = fault' := Option.some.inj (hbroken.flag.symm.trans hfault)
      refine ⟨?_, hbroken.i, hbroken.last⟩
      simp

/-- A run before its fault, the stale answer that its fault leaves, and the same answer on a tape
    that refuses it. -/
theorem outcomes_account_pushPopPop :
    let job (config : Config) : Job (List UInt32) := ⟨pushPopPop, Engine.fifo 1, config⟩
    let after (config : Config) (n : Nat) := steps (job config) n (start [])
    ((after {} 2).flag.fault = none ∧ Accounts ⟨10, .fault⟩ [5] (after {} 2)) ∧
      ((after {} 4).flag.fault = some (.engine .underflow) ∧
        Accounts ⟨10, .fault⟩ [5, 5] (after {} 4)) ∧
      (after tight 4).flag.fault = some (.engine .underflow) ∧
        Accounts ⟨1, .fault⟩ [5] (after tight 4) := by
  intro job after
  have hgoing : (after {} 2).flag.fault = none := by decide
  have hbroken (config : Config) (h : config = {} ∨ config = tight) :
      (after config 4).flag.fault = some (.engine .underflow) ∧
        answersIn (outcomes (job config) 4 (start [])) = [5] ∧
        (after config 4).i.toNat = 3 ∧ (after config 4).ans = 5 := by
    rcases h with rfl | rfl <;> decide
  have hlast (config : Config) (h : config = {} ∨ config = tight) :
      Accounts config.resultLimit
        (if LeavesAnswer (job config) ⟨2, .pop, 0⟩ (.engine .underflow) [5] then [5] ++ [5]
          else [5]) (after config 4) := by
    obtain ⟨hfault, hanswers, hi, hans⟩ := hbroken config h
    obtain ⟨k, _, _, _, _, _, hstory⟩ := outcomes_account (job config) [] 4
    obtain ⟨_, hk, inst, hinst, haccounts⟩ := hstory _ hfault
    obtain rfl : k = 2 := Nat.succ_inj.mp (hk.symm.trans hi)
    cases hinst
    rw [hanswers, hans] at haccounts
    exact haccounts
  obtain ⟨_, _, _, _, _, hstory, _⟩ := outcomes_account (job {}) [] 2
  exact ⟨⟨hgoing, (hstory hgoing).2⟩, ⟨(hbroken {} (.inl rfl)).1, hlast {} (.inl rfl)⟩,
    (hbroken tight (.inr rfl)).1, hlast tight (.inr rfl)⟩

end Dispatcher

end CommandTape
