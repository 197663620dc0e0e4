import CommandTape.Event.Filter
import CommandTape.Proofs.Outcomes
import CommandTape.Proofs.Stopping

/-!
# Operands that are not read

Every instruction has an operand on its tape, and the dispatcher latches it and sends it to the
engine, but only a push reads it. To erase the operands of pops and peeks is a map of programs,
states, outcomes and events, and every step commutes with it as long as the engine does. So two
programs that are the same once erased have runs that are the same once erased.

* `line_erased`, `allows_erased`: no line that is logged shows an operand that is not read.
* `step_erased`, `run_erased`: steps and runs commute with erasing.
* `operands_irrelevant`: runs of two programs that differ in such operands only.
-/

namespace CommandTape

/-! ## 1. Erasing -/

/-- The operand of a command as far as it is read. -/
def Command.operand (cmd : Command) (value : UInt32) : UInt32 :=
  if cmd.takesOperand then value else 0

def Inst.erased (inst : Inst) : Inst := { inst with value := inst.cmd.operand inst.value }

/-- The program with zero for all operands that are not read. -/
def Program.erased (p : Program) : Program where
  cells := p.cells.map fun cell => (cell.1, cell.1.operand cell.2)
  length_lt := by
    rw [List.length_map]
    exact p.length_lt

def Outcome.erased : Outcome → Outcome
  | executed inst recorded => executed inst.erased recorded
  | halted => halted
  | faulted fault => faulted fault

/-- Only the event of a step tells of an operand. -/
def Event.erased : Event → Event
  | stepped inst recorded i j => stepped inst.erased recorded i j
  | event => event

def Job.erased (job : Job σ) : Job σ := { job with program := job.program.erased }

def Dispatcher.erased (d : Dispatcher σ) : Dispatcher σ :=
  { d with value := d.cmd.operand d.value }

def Turn.erased (turn : Turn σ) : Turn σ :=
  ⟨turn.outcome.erased, turn.state.erased, turn.log.map Event.erased⟩

/-- The engine reads the operands of pushes only. -/
def Engine.IgnoresOperands (engine : Engine σ) : Prop :=
  ∀ cmd value s, engine.apply cmd (cmd.operand value) s = engine.apply cmd value s

theorem EngineKind.ignoresOperands (kind : EngineKind) (c : Nat) :
    (kind.engine c).IgnoresOperands := by
  obtain ⟨insert, _, hk⟩ := kind.exists_insert
  intro cmd value xs
  rw [hk]
  cases cmd with
  | push => rfl
  | pop => cases xs <;> rfl
  | peek => cases xs <;> rfl

/-! ## 2. Programs -/

namespace Program

variable {p q : Program}

theorem inst?_erased (p : Program) (address : UInt32) :
    p.erased.inst? address = (p.inst? address).map Inst.erased := by
  unfold inst? Tape.read erased
  rw [List.getElem?_map, Option.map_map, Option.map_map]
  rfl

theorem length_erased (p : Program) : p.erased.length = p.length :=
  List.length_map _

/-- Programs that differ in the operands of pops and peeks only are the same once erased. -/
theorem erased_eq (hcommands : p.commands = q.commands)
    (hpushes : ∀ k : Nat, p.commands[k]? = some .push → p.operands[k]? = q.operands[k]?) :
    p.erased = q.erased := by
  have hcells : p.erased.cells = q.erased.cells := by
    refine List.ext_getElem? fun k => ?_
    have hcommand : p.commands[k]? = q.commands[k]? := congrArg (·[k]?) hcommands
    have hpush := hpushes k
    simp only [erased, commands, operands, List.getElem?_map] at hcommand hpush ⊢
    cases hp : p.cells[k]? with
    | none =>
      rw [hp] at hcommand
      rw [Option.map_eq_none_iff.mp hcommand.symm]
    | some cell =>
      obtain ⟨cmd, value⟩ := cell
      rw [hp] at hcommand hpush
      obtain ⟨⟨cmd', value'⟩, hq, rfl⟩ := Option.map_eq_some_iff.mp hcommand.symm
      rw [hq] at hpush ⊢
      cases cmd' with
      | push =>
        obtain rfl : value = value' := Option.some.inj (hpush rfl)
        rfl
      | pop => rfl
      | peek => rfl
  cases p
  cases q
  exact (Program.mk.injEq ..).mpr hcells

end Program

/-! ## 3. Events -/

theorem Inst.line_erased (inst : Inst) : inst.erased.line = inst.line := by
  obtain ⟨index, cmd, value⟩ := inst
  cases cmd <;> rfl

namespace Event

variable (event : Event)

theorem fields_erased : event.erased.fields = event.fields := by
  cases event with
  | stepped inst recorded i j =>
    show [("inst", inst.erased.line), _, _, _] = _
    rw [Inst.line_erased]
    rfl
  | _ => rfl

theorem message_erased : event.erased.message = event.message := by cases event <;> rfl
theorem level_erased : event.erased.level = event.level := by cases event <;> rfl
theorem source_erased : event.erased.source = event.source := by cases event <;> rfl

theorem line_erased : event.erased.line = event.line := by
  unfold line text
  rw [fields_erased, message_erased, level_erased]

end Event

theorem LogFilter.allows_erased (filter : LogFilter) (event : Event) :
    filter.allows event.erased = filter.allows event := by
  unfold allows
  have hfits : fits event.erased = fits event := by
    funext directive
    unfold fits Event.fieldNames
    rw [Event.source_erased, Event.fields_erased]
  rw [hfits, Event.level_erased]

/-- Logs that are the same once erased are written as the same lines, whatever is filtered out. -/
theorem lines_eq_of_erased {log log' : List Event}
    (h : log.map Event.erased = log'.map Event.erased) (keep : Event → Bool)
    (hkeep : ∀ event, keep event.erased = keep event) :
    (log.filter keep).map Event.line = (log'.filter keep).map Event.line := by
  have herased (events : List Event) : (events.filter keep).map Event.line =
      ((events.map Event.erased).filter keep).map Event.line := by
    rw [List.filter_map, List.map_map]
    exact congrArg₂ List.map (funext fun event => (Event.line_erased event).symm)
      (List.filter_congr fun event _ => (hkeep event).symm)
  rw [herased log, herased log', h]

namespace Dispatcher

variable {σ : Type} {job : Job σ} {d : Dispatcher σ} {inst : Inst}

/-! ## 4. Steps and runs -/

theorem served_erased (h : job.engine.IgnoresOperands) :
    d.erased.served job.erased inst.erased = d.served job inst :=
  h inst.cmd inst.value d.contents

theorem parallel_erased (h : job.engine.IgnoresOperands) (inst : Inst) (d : Dispatcher σ) :
    Parallel job inst d job.erased inst.erased d.erased where
  config := rfl
  cmd := rfl
  i := rfl
  j := rfl
  reply := by rw [served_erased h]

theorem written_erased (h : job.engine.IgnoresOperands) :
    d.erased.written job.erased inst.erased = (d.written job inst).erased := by
  unfold written taken
  rw [served_erased h]
  by_cases hw : d.Writes job inst
  · rw [if_pos hw, if_pos ((parallel_erased h inst d).writes.mpr hw)]
    rfl
  · rw [if_neg hw, if_neg (mt (parallel_erased h inst d).writes.mp hw)]
    rfl

theorem executed_erased (h : job.engine.IgnoresOperands) :
    d.erased.executed job.erased inst.erased = (d.executed job inst).erased := by
  unfold executed
  rw [written_erased h, (parallel_erased h inst d).raised?]
  rfl

/-- No event of an instruction tells of an operand. -/
theorem executedLog_erased (h : job.engine.IgnoresOperands) :
    d.erased.executedLog job.erased inst.erased = (d.executedLog job inst).map Event.erased := by
  have hraise (i j : UInt32) (first second : Option Fault) :
      (raiseLog i j first second).map Event.erased = raiseLog i j first second := by
    cases first <;> cases second <;> rfl
  unfold executedLog
  simp only [List.map_append, hraise, served_erased h, written_erased h,
    (parallel_erased h inst d).writeFault?]
  rfl

theorem execute_erased (h : job.engine.IgnoresOperands) (hf : d.flag.fault = none) :
    execute job.erased inst.erased d.erased = (execute job inst d).erased := by
  have hf' : d.erased.flag.fault = none := hf
  have hparallel := parallel_erased h inst d
  rw [execute_spec hf, execute_spec hf', hparallel.raised?, executed_erased h, executedLog_erased h,
    served_erased h, if_congr hparallel.writes rfl rfl]
  cases d.raised? job inst <;> rfl

theorem step_erased (h : job.engine.IgnoresOperands) (d : Dispatcher σ) :
    step job.erased d.erased = (step job d).erased := by
  by_cases hset : d.Settled
  · have hset' : d.erased.Settled := hset
    have hflag : d.erased.flag.fault = d.flag.fault := rfl
    rw [step_of_settled hset, step_of_settled hset', hflag]
    cases d.flag.fault <;> rfl
  · have hset' : ¬ d.erased.Settled := hset
    have hinst : job.erased.program.inst? d.erased.i = _ := job.program.inst?_erased d.i
    rw [step_of_not_settled hset, step_of_not_settled hset', hinst]
    cases job.program.inst? d.i with
    | none => rfl
    | some inst => exact execute_erased h (not_settled.mp hset).1

theorem steps_erased (h : job.engine.IgnoresOperands) (n : Nat) (d : Dispatcher σ) :
    steps job.erased n d.erased = (steps job n d).erased :=
  steps_map erased (fun d => congrArg Turn.state (step_erased h d)) n d

theorem outcomes_erased (h : job.engine.IgnoresOperands) (n : Nat) (d : Dispatcher σ) :
    outcomes job.erased n d.erased = (outcomes job n d).map Outcome.erased :=
  outcomes_map erased Outcome.erased (fun d => congrArg Turn.state (step_erased h d))
    (fun d => congrArg Turn.outcome (step_erased h d)) n d

theorem stepsWhile_erased (h : job.engine.IgnoresOperands) (n : Nat) (d : Dispatcher σ) :
    stepsWhile job.erased n d.erased =
      ((stepsWhile job n d).1.erased, (stepsWhile job n d).2.map Event.erased) := by
  induction n generalizing d with
  | zero => rfl
  | succ n ih =>
    simp only [stepsWhile, step_erased h, Turn.erased]
    cases (step job d).outcome with
    | executed inst recorded =>
      simp only [Outcome.erased, ih, List.map_append, List.map_cons]
      rfl
    | halted => rfl
    | faulted fault => rfl

theorem run_erased (h : job.engine.IgnoresOperands) (d : Dispatcher σ) :
    run job.erased d.erased = ((run job d).1.erased, (run job d).2.map Event.erased) := by
  have hlength : job.erased.program.length = job.program.length := job.program.length_erased
  have hsteps := stepsWhile_erased h (job.program.length - d.i.toNat + 1) d
  unfold run
  rw [hlength]
  simp only [erased] at hsteps ⊢
  rw [hsteps]
  simp only [List.map_append]
  rfl

/-! ## 5. Programs that differ in operands that are not read -/

/-- States that are the same once erased are the same but for the operand register. -/
theorem eq_of_erased {d e : Dispatcher σ} (h : d.erased = e.erased) :
    d = { e with value := d.value } ∧ d.report = e.report := by
  have hreport : d.erased.report = e.erased.report := congrArg report h
  exact ⟨congrArg (fun state : Dispatcher σ => { state with value := d.value }) h, hreport⟩

/-- The operands of pops and peeks make no difference to a run. After any number of steps two
    programs that differ in such operands only have led to the same state but for the operand
    register, hence to the same report, and their outcomes differ in such operands only. So do the
    state and the report at the end of a run from there, and whatever is filtered out of its log,
    the lines that are left are the same. -/
theorem operands_irrelevant (p q : Program) (config : Config) (kind : EngineKind) (c : Nat)
    (hcommands : p.commands = q.commands)
    (hpushes : ∀ k : Nat, p.commands[k]? = some .push → p.operands[k]? = q.operands[k]?)
    (n : Nat) :
    let job := boundedJob p config kind c
    let job' := boundedJob q config kind c
    let d := steps job n (start [])
    let d' := steps job' n (start [])
    let last := (run job d).1
    let last' := (run job' d').1
    (d = { d' with value := d.value } ∧ d.report = d'.report) ∧
      (outcomes job n (start [])).map Outcome.erased =
        (outcomes job' n (start [])).map Outcome.erased ∧
      (last = { last' with value := last.value } ∧ last.report = last'.report) ∧
      ∀ filter : LogFilter, ((run job d).2.filter filter.allows).map Event.line =
        ((run job' d').2.filter filter.allows).map Event.line := by
  intro job job' d d' last last'
  have hjob : job.erased = job'.erased :=
    congrArg (Job.mk · (kind.engine c) config) (Program.erased_eq hcommands hpushes)
  have h : job.engine.IgnoresOperands := kind.ignoresOperands c
  have h' : job'.engine.IgnoresOperands := kind.ignoresOperands c
  have hstate : d.erased = d'.erased :=
    calc d.erased
      _ = steps job.erased n (start []) := (steps_erased h n (start [])).symm
      _ = steps job'.erased n (start []) := by rw [hjob]
      _ = d'.erased := steps_erased h' n (start [])
  have houtcomes : (outcomes job n (start [])).map Outcome.erased =
      (outcomes job' n (start [])).map Outcome.erased :=
    calc (outcomes job n (start [])).map Outcome.erased
      _ = outcomes job.erased n (start []) := (outcomes_erased h n (start [])).symm
      _ = outcomes job'.erased n (start []) := by rw [hjob]
      _ = (outcomes job' n (start [])).map Outcome.erased := outcomes_erased h' n (start [])
  have hrun : run job.erased d.erased = run job'.erased d'.erased := by rw [hjob, hstate]
  rw [run_erased h, run_erased h', Prod.mk.injEq] at hrun
  exact ⟨eq_of_erased hstate, houtcomes, eq_of_erased hrun.1, fun filter =>
    lines_eq_of_erased hrun.2 filter.allows filter.allows_erased⟩

/-- Other operands on the pops of `pushPopPop`, seen after the first of them. -/
theorem operands_irrelevant_pushPopPop :
    let q : Program := ⟨[(.push, 5), (.pop, 7), (.pop, 9)], by decide⟩
    let job := boundedJob pushPopPop {} .fifo 1
    let job' := boundedJob q {} .fifo 1
    let d := steps job 2 (start [])
    let d' := steps job' 2 (start [])
    pushPopPop.commands = q.commands ∧
      (∀ k : Nat, pushPopPop.commands[k]? = some .push →
        pushPopPop.operands[k]? = q.operands[k]?) ∧
      (d.value = 0 ∧ d'.value = 7 ∧ d = { d' with value := d.value }) ∧
      ∀ filter : LogFilter, ((run job d).2.filter filter.allows).map Event.line =
        ((run job' d').2.filter filter.allows).map Event.line := by
  intro q job job' d d'
  have hcommands : pushPopPop.commands = q.commands := rfl
  have hpushes (k : Nat) (hk : pushPopPop.commands[k]? = some .push) :
      pushPopPop.operands[k]? = q.operands[k]? := by
    cases k with
    | zero => rfl
    | succ k =>
      have hpop : [Command.pop, .pop][k]? = some .push := hk
      exact absurd (List.mem_of_getElem? hpop) (by decide)
  obtain ⟨⟨hstate, -⟩, -, -, hlines⟩ :=
    operands_irrelevant pushPopPop q {} .fifo 1 hcommands hpushes 2
  exact ⟨hcommands, hpushes, ⟨by decide, by decide, hstate⟩, hlines⟩

end Dispatcher

end CommandTape
