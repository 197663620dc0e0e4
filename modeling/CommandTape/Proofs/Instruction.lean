import CommandTape.Dispatcher

/-!
# What one instruction does

An instruction is executed in four stages, and three of them can raise a fault. This module says
once what an instruction does as a whole, so that no law of runs has to open the stages again.

* `write_eq`: a write either is refused or puts its value on the tape.
* `raised?`: the fault that an instruction raises first. The engine comes before the result tape,
  and the tape before the ceiling.
* `execute_spec`: the outcome, the state and the log of an instruction while the flag is down.
* `raised?_eq_none`, `writes_iff_of_raised?_none`: when no fault is raised, and what is written
  then.
* `Parallel.raised?`, `Parallel.writes`: instructions of two jobs that raise and write alike.
-/

namespace CommandTape

/-! ## 1. Writing -/

/-- What an accepted write does to the tape. -/
def ResultTape.put (limit : ResultLimit) (j value : UInt32) (tape : ResultTape) : ResultTape :=
  if limit.policy = .discard ∧ limit.capacity ≤ j then
    { tape with discarded := tape.discarded + 1 }
  else { tape with slots := tape.slots ++ [value] }

/-- The tape refuses a write at slot `j`. -/
def ResultLimit.Refuses (limit : ResultLimit) (j : UInt32) : Prop :=
  limit.policy = .fault ∧ limit.capacity ≤ j

instance (limit : ResultLimit) (j : UInt32) : Decidable (limit.Refuses j) :=
  inferInstanceAs (Decidable (_ ∧ _))

theorem ResultTape.write_eq (limit : ResultLimit) (j value : UInt32) (tape : ResultTape) :
    tape.write limit j value =
      if limit.Refuses j then .error (.resultCapacity limit.capacity)
      else .ok (tape.put limit j value) := by
  obtain ⟨capacity, policy⟩ := limit
  by_cases h : j < capacity
  · have hj : ¬ capacity ≤ j := UInt32.not_le.mpr h
    simp [write, put, ResultLimit.Refuses, h, hj]
  · -- Only beyond the capacity is the policy looked at.
    have hj : capacity ≤ j := UInt32.not_lt.mp h
    cases policy <;> simp [write, put, ResultLimit.Refuses, h, hj]

namespace Dispatcher

variable {σ : Type}

/-! ## 2. The fault of an instruction -/

/-- The fault that a reply raises. -/
def replyFault? : Reply → Option Fault
  | .ok _ => none
  | .error fault => some (.engine fault)

/-- The answer register after a reply. Only an answer changes it. -/
def register (ans : UInt32) : Reply → UInt32
  | .ok (some a) => a
  | .ok none => ans
  | .error _ => ans

/-- The engine's reply to an instruction, with the engine's state after it. -/
def served (job : Job σ) (inst : Inst) (d : Dispatcher σ) : Reply × σ :=
  job.engine.apply inst.cmd inst.value d.contents

/-- The instruction tries to write a result. -/
def Attempts (job : Job σ) (inst : Inst) (d : Dispatcher σ) : Prop :=
  recordsAnswer job.config.recordPolicy inst.cmd (d.served job inst).1

/-- The instruction writes a result: it tries to, and the tape does not refuse. -/
def Writes (job : Job σ) (inst : Inst) (d : Dispatcher σ) : Prop :=
  d.Attempts job inst ∧ ¬ job.config.resultLimit.Refuses d.j

instance (job : Job σ) (inst : Inst) (d : Dispatcher σ) : Decidable (d.Attempts job inst) :=
  inferInstanceAs (Decidable (_ = true))

instance (job : Job σ) (inst : Inst) (d : Dispatcher σ) : Decidable (d.Writes job inst) :=
  inferInstanceAs (Decidable (_ ∧ _))

/-- The fault of a refused write. -/
def writeFault? (job : Job σ) (inst : Inst) (d : Dispatcher σ) : Option Fault :=
  if d.Attempts job inst ∧ job.config.resultLimit.Refuses d.j then
    some (.resultCapacity job.config.resultCapacity)
  else none

/-- The fault that an instruction raises first, if it raises any. -/
def raised? (job : Job σ) (inst : Inst) (d : Dispatcher σ) : Option Fault :=
  ((replyFault? (d.served job inst).1).or (d.writeFault? job inst)).or
    (ceilingFault? job.config.maxInstructions (d.i + 1))

/-- The status that goes with a flag while there is work to do. -/
def statusOf : Option Fault → Status
  | none => .running
  | some fault => .error fault

/-! ## 3. The stages of an instruction -/

/-- Raises the fault of a stage, if it has one. -/
def raising (fault : Option Fault) (d : Dispatcher σ) : Dispatcher σ × List Event :=
  match fault with
  | none => (d, [])
  | some fault => d.raise fault

/-- A dispatcher at work whose flag holds `fault`. -/
def flagged (fault : Option Fault) (d : Dispatcher σ) : Dispatcher σ :=
  { d with flag := ⟨fault⟩, status := statusOf fault }

/-- What is logged when `second` is raised over a flag that holds `first`. -/
def raiseLog (i j : UInt32) (first second : Option Fault) : List Event :=
  match first, second with
  | _, none => []
  | none, some fault => [.flagRaised i j fault]
  | some _, some fault => [.flagKept i fault]

/-- The flag keeps the first of two faults. -/
theorem raising_flagged (first second : Option Fault) (d : Dispatcher σ) :
    (d.flagged first).raising second =
      (d.flagged (first.or second), raiseLog d.i d.j first second) := by
  cases first <;> cases second <;> rfl

theorem dispatch_eq (engine : Engine σ) (d : Dispatcher σ) :
    d.dispatch engine =
      let served := engine.apply d.cmd d.value d.contents
      (served.1,
        ({ d with contents := served.2, ans := register d.ans served.1 }).raising
          (replyFault? served.1)) := by
  unfold dispatch
  rcases engine.apply d.cmd d.value d.contents with ⟨_ | (_ | a), s⟩ <;> rfl

theorem record_eq (limit : ResultLimit) (d : Dispatcher σ) :
    d.record limit =
      if limit.Refuses d.j then (none, d.raise (.resultCapacity limit.capacity))
      else (some d.ans, { d with results := d.results.put limit d.j d.ans, j := d.j + 1 }, []) := by
  unfold record
  rw [ResultTape.write_eq]
  by_cases hr : limit.Refuses d.j
  · rw [if_pos hr, if_pos hr]
  · rw [if_neg hr, if_neg hr]

theorem advance_eq (ceiling : UInt32) (d : Dispatcher σ) :
    d.advance ceiling =
      ({ d with i := d.i + 1 }).raising (ceilingFault? ceiling (d.i + 1)) := by
  unfold advance
  cases h : ceilingFault? ceiling (d.i + 1) <;> simp only [h] <;> rfl

/-- The dispatcher with an instruction latched. -/
def latched (inst : Inst) (d : Dispatcher σ) : Dispatcher σ :=
  { d with status := .running, cmd := inst.cmd, value := inst.value }

/-- The record stage of an instruction, which may have nothing to record. -/
def recording (job : Job σ) (inst : Inst) (reply : Reply) (d : Dispatcher σ) :
    Option UInt32 × Dispatcher σ × List Event :=
  if recordsAnswer job.config.recordPolicy inst.cmd reply then d.record job.config.resultLimit
  else (none, d, [])

theorem execute_eq {job : Job σ} {inst : Inst} {d d₁ d₂ d₃ : Dispatcher σ} {reply : Reply}
    {recorded : Option UInt32} {log₁ log₂ log₃ : List Event}
    (h₁ : (d.latched inst).dispatch job.engine = (reply, d₁, log₁))
    (h₂ : d₁.recording job inst reply = (recorded, d₂, log₂))
    (h₃ : d₂.advance job.config.maxInstructions = (d₃, log₃)) :
    execute job inst d =
      ⟨match d₃.flag.fault with
        | some fault => .faulted fault
        | none => .executed inst recorded,
        d₃, log₁ ++ log₂ ++ log₃⟩ := by
  unfold latched at h₁
  unfold recording at h₂
  simp only [execute, h₁, h₂, h₃]
  cases d₃.flag.fault <;> rfl

/-! ## 4. An instruction as a whole -/

/-- The state once the engine has served an instruction; its fault is still to be raised. -/
def taken (job : Job σ) (inst : Inst) (d : Dispatcher σ) : Dispatcher σ :=
  { d with
    contents := (d.served job inst).2
    cmd := inst.cmd
    value := inst.value
    ans := register d.ans (d.served job inst).1 }

/-- The state once the answer is on the tape, if it gets there. -/
def written (job : Job σ) (inst : Inst) (d : Dispatcher σ) : Dispatcher σ :=
  let e := d.taken job inst
  if d.Writes job inst then
    { e with results := e.results.put job.config.resultLimit e.j e.ans, j := e.j + 1 }
  else e

theorem dispatch_latched {job : Job σ} {inst : Inst} {d : Dispatcher σ}
    (h : d.flag.fault = none) :
    (d.latched inst).dispatch job.engine =
      ((d.served job inst).1, (d.taken job inst).flagged (replyFault? (d.served job inst).1),
        raiseLog d.i d.j none (replyFault? (d.served job inst).1)) := by
  have hf : d.flag = ⟨none⟩ := congrArg ErrorFlag.mk h
  rw [dispatch_eq]
  simp only [latched, hf]
  exact congrArg (Prod.mk _) (raising_flagged none _ (d.taken job inst))

theorem recording_flagged (job : Job σ) (inst : Inst) (d : Dispatcher σ) :
    let first := replyFault? (d.served job inst).1
    ((d.taken job inst).flagged first).recording job inst (d.served job inst).1 =
      (if d.Writes job inst then some (register d.ans (d.served job inst).1) else none,
        (d.written job inst).flagged (first.or (d.writeFault? job inst)),
        raiseLog d.i d.j first (d.writeFault? job inst)) := by
  intro first
  unfold recording written Writes writeFault? Attempts
  -- The engine's fault may be up already; it stands aside of what is written.
  by_cases ha : recordsAnswer job.config.recordPolicy inst.cmd (d.served job inst).1
  · rw [if_pos ha, record_eq]
    by_cases hr : job.config.resultLimit.Refuses d.j
    · have hr' : job.config.resultLimit.Refuses ((d.taken job inst).flagged first).j := hr
      simp only [ha, hr, hr', if_true, not_true, and_false, if_false, and_self]
      exact congrArg (Prod.mk _) (raising_flagged first (some _) (d.taken job inst))
    · have hr' : ¬ job.config.resultLimit.Refuses ((d.taken job inst).flagged first).j := hr
      simp only [ha, hr, hr', if_false, not_false_eq_true, and_self, if_true, and_false,
        Option.or_none]
      cases first <;> rfl
  · simp only [ha]
    cases first <;> rfl

theorem advance_flagged (ceiling : UInt32) (first : Option Fault) (d : Dispatcher σ) :
    (d.flagged first).advance ceiling =
      (({ d with i := d.i + 1 } : Dispatcher σ).flagged
          (first.or (ceilingFault? ceiling (d.i + 1))),
        raiseLog (d.i + 1) d.j first (ceilingFault? ceiling (d.i + 1))) := by
  rw [advance_eq]
  exact raising_flagged first _ { d with i := d.i + 1 }

/-- The state after an instruction. -/
def executed (job : Job σ) (inst : Inst) (d : Dispatcher σ) : Dispatcher σ :=
  ({ d.written job inst with i := d.i + 1 } : Dispatcher σ).flagged (d.raised? job inst)

/-- What an instruction logs. The cursors are those of the moment of each raise. -/
def executedLog (job : Job σ) (inst : Inst) (d : Dispatcher σ) : List Event :=
  let first := replyFault? (d.served job inst).1
  raiseLog d.i d.j none first ++ raiseLog d.i d.j first (d.writeFault? job inst) ++
    raiseLog (d.i + 1) (d.written job inst).j (first.or (d.writeFault? job inst))
      (ceilingFault? job.config.maxInstructions (d.i + 1))

theorem execute_spec {job : Job σ} {inst : Inst} {d : Dispatcher σ} (h : d.flag.fault = none) :
    execute job inst d =
      ⟨match d.raised? job inst with
        | some fault => .faulted fault
        | none => .executed inst
            (if d.Writes job inst then some (register d.ans (d.served job inst).1) else none),
        d.executed job inst, d.executedLog job inst⟩ := by
  have hi : (d.written job inst).i = d.i := by
    unfold written
    split <;> rfl
  have h₃ := advance_flagged job.config.maxInstructions
    ((replyFault? (d.served job inst).1).or (d.writeFault? job inst)) (d.written job inst)
  rw [hi] at h₃
  exact execute_eq (dispatch_latched h) (recording_flagged job inst d) h₃

/-! ## 5. The state after an instruction, field by field -/

section Fields

variable (job : Job σ) (inst : Inst) (d : Dispatcher σ)

@[simp] theorem executed_contents : (d.executed job inst).contents = (d.served job inst).2 := by
  unfold executed written
  split <;> rfl

@[simp] theorem executed_status :
    (d.executed job inst).status = statusOf (d.raised? job inst) := rfl

@[simp] theorem executed_fault : (d.executed job inst).flag.fault = d.raised? job inst := rfl

@[simp] theorem executed_i : (d.executed job inst).i = d.i + 1 := rfl

@[simp] theorem executed_j :
    (d.executed job inst).j = if d.Writes job inst then d.j + 1 else d.j := by
  unfold executed written
  split <;> rfl

@[simp] theorem executed_cmd : (d.executed job inst).cmd = inst.cmd := by
  unfold executed written
  split <;> rfl

@[simp] theorem executed_value : (d.executed job inst).value = inst.value := by
  unfold executed written
  split <;> rfl

@[simp] theorem executed_ans :
    (d.executed job inst).ans = register d.ans (d.served job inst).1 := by
  unfold executed written
  split <;> rfl

@[simp] theorem executed_results :
    (d.executed job inst).results =
      if d.Writes job inst then
        d.results.put job.config.resultLimit d.j (register d.ans (d.served job inst).1)
      else d.results := by
  unfold executed written
  split <;> rfl

end Fields

/-! ## 6. Instructions without a fault -/

/-- No fault is raised exactly if the engine serves the instruction, the tape does not refuse its
    answer and the ceiling is not met. -/
theorem raised?_eq_none {job : Job σ} {inst : Inst} {d : Dispatcher σ} :
    d.raised? job inst = none ↔
      replyFault? (d.served job inst).1 = none ∧ d.writeFault? job inst = none ∧
        ceilingFault? job.config.maxInstructions (d.i + 1) = none := by
  unfold raised?
  rw [Option.or_eq_none_iff, Option.or_eq_none_iff, and_assoc]

theorem replyFault?_eq_none {reply : Reply} : replyFault? reply = none ↔ reply.isOk = true := by
  cases reply <;> simp [replyFault?, Except.isOk, Except.toBool]

theorem ceilingFault?_eq_none {ceiling index : UInt32} :
    ceilingFault? ceiling index = none ↔ index ≠ ceiling := by
  unfold ceilingFault?
  split <;> simp_all

/-- The record policy matters only after a fault of the engine. -/
theorem attempts_iff_of_replyFault?_none {job : Job σ} {inst : Inst} {d : Dispatcher σ}
    (h : replyFault? (d.served job inst).1 = none) :
    d.Attempts job inst ↔ inst.cmd.records = true := by
  simp [Attempts, recordsAnswer, replyFault?_eq_none.mp h]

/-- Without a fault, an instruction writes exactly if its command answers. -/
theorem writes_iff_of_raised?_none {job : Job σ} {inst : Inst} {d : Dispatcher σ}
    (h : d.raised? job inst = none) : d.Writes job inst ↔ inst.cmd.records = true := by
  obtain ⟨hr, hw, _⟩ := raised?_eq_none.mp h
  have ha := attempts_iff_of_replyFault?_none hr
  unfold writeFault? at hw
  simp only [ite_eq_right_iff, reduceCtorEq, imp_false, not_and] at hw
  exact ⟨fun hw' => ha.mp hw'.1, fun hc => ⟨ha.mpr hc, hw (ha.mpr hc)⟩⟩

/-! ## 7. Instructions of two jobs -/

/-- Two jobs are about to execute the same command under the same limits and policies, and either
    both engines serve it or they fault alike. The answers may differ. -/
structure Parallel {τ : Type} (job : Job σ) (inst : Inst) (d : Dispatcher σ) (job' : Job τ)
    (inst' : Inst) (d' : Dispatcher τ) : Prop where
  config : job'.config = job.config
  cmd : inst'.cmd = inst.cmd
  i : d'.i = d.i
  j : d'.j = d.j
  reply : replyFault? (d'.served job' inst').1 = replyFault? (d.served job inst).1

section Parallel

variable {τ : Type} {job : Job σ} {job' : Job τ} {inst inst' : Inst} {d : Dispatcher σ}
  {d' : Dispatcher τ}

theorem Parallel.attempts (h : Parallel job inst d job' inst' d') :
    d'.Attempts job' inst' ↔ d.Attempts job inst := by
  have hok : (d'.served job' inst').1.isOk = (d.served job inst).1.isOk := by
    rw [Bool.eq_iff_iff, ← replyFault?_eq_none, ← replyFault?_eq_none, h.reply]
  unfold Attempts recordsAnswer
  rw [h.config, h.cmd, hok]

theorem Parallel.writes (h : Parallel job inst d job' inst' d') :
    d'.Writes job' inst' ↔ d.Writes job inst := by
  unfold Writes
  rw [h.attempts, h.config, h.j]

theorem Parallel.writeFault? (h : Parallel job inst d job' inst' d') :
    d'.writeFault? job' inst' = d.writeFault? job inst := by
  unfold Dispatcher.writeFault?
  simp only [h.attempts, h.config, h.j]

theorem Parallel.raised? (h : Parallel job inst d job' inst' d') :
    d'.raised? job' inst' = d.raised? job inst := by
  unfold Dispatcher.raised?
  rw [h.reply, h.writeFault?, h.config, h.i]

end Parallel

/-- What an instruction does depends on the engine only through what the engine serves. -/
theorem execute_congr {job job' : Job σ} {inst : Inst} {d : Dispatcher σ}
    (hconfig : job'.config = job.config) (hserved : d.served job' inst = d.served job inst) :
    execute job' inst d = execute job inst d := by
  have hdispatch : (d.latched inst).dispatch job'.engine =
      (d.latched inst).dispatch job.engine := by
    unfold served at hserved
    rw [dispatch_eq, dispatch_eq]
    simp only [latched, hserved]
  rcases h₁ : (d.latched inst).dispatch job.engine with ⟨reply, d₁, log₁⟩
  rcases h₂ : d₁.recording job inst reply with ⟨recorded, d₂, log₂⟩
  rcases h₃ : d₂.advance job.config.maxInstructions with ⟨d₃, log₃⟩
  have h₂' : d₁.recording job' inst reply = (recorded, d₂, log₂) := by
    unfold recording at h₂ ⊢
    rw [hconfig, h₂]
  rw [execute_eq h₁ h₂ h₃]
  exact execute_eq (hdispatch.trans h₁) h₂' (hconfig ▸ h₃)

end Dispatcher

end CommandTape
