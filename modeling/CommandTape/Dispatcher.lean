import CommandTape.Event
import CommandTape.Program

/-!
# The dispatcher

A job is a program, an engine and a configuration. A dispatcher works a job off one instruction
at a time: read, dispatch to the engine, record the answer, advance, look at the ceiling. Each of
the three limits can raise a fault in one step, and the flag keeps the first.

A step is a function of the state alone and returns what it logs, so every law of a run is a law
of lists of steps.
-/

namespace CommandTape

/-- What a run is given. Of the configuration, the dispatcher reads the limits and the policies;
    the engine has been chosen already. -/
structure Job (σ : Type) where
  program : Program
  engine : Engine σ
  config : Config

structure Dispatcher (σ : Type) where
  /-- The engine's state. -/
  contents : σ
  status : Status := .idle
  flag : ErrorFlag := {}
  /-- The next instruction. -/
  i : UInt32 := 0
  /-- The next result slot. -/
  j : UInt32 := 0
  cmd : Command := .pop
  value : UInt32 := 0
  /-- The last answer the engine gave. A fault leaves it as it was. -/
  ans : UInt32 := 0
  results : ResultTape := {}
  deriving DecidableEq

/-- What a step did: executed an instruction, found nothing more to do, or met the flag. -/
inductive Outcome
  | executed (inst : Inst) (recorded : Option UInt32)
  | halted
  | faulted (fault : Fault)
  deriving DecidableEq, Repr

/-- A step's outcome, the state after it and its log lines, the earliest first. -/
structure Turn (σ : Type) where
  outcome : Outcome
  state : Dispatcher σ
  log : List Event

structure Report where
  results : List UInt32
  fault : Option Fault
  instructionsExecuted : UInt32
  /-- Counts dropped answers too, so it may exceed the number of results. -/
  resultsWritten : UInt32
  discarded : UInt32
  deriving DecidableEq, Repr

def Report.err (report : Report) : Bool := report.fault.isSome

namespace Dispatcher

variable {σ : Type}

/-- A dispatcher that has done nothing yet. -/
def start (contents : σ) : Dispatcher σ := { contents }

/-- Raises a fault. The status shows the fault that the flag keeps. -/
def raise (fault : Fault) (d : Dispatcher σ) : Dispatcher σ × List Event :=
  match d.flag.fault with
  | none =>
    ({ d with flag := d.flag.raise fault, status := .error fault }, [.flagRaised d.i d.j fault])
  | some first => ({ d with status := .error first }, [.flagKept d.i fault])

/-- Sends the latched command to the engine and takes in its reply. -/
def dispatch (engine : Engine σ) (d : Dispatcher σ) : Reply × Dispatcher σ × List Event :=
  let (reply, contents) := engine.apply d.cmd d.value d.contents
  let d := { d with contents }
  match reply with
  | .ok (some ans) => (reply, { d with ans }, [])
  | .ok none => (reply, d, [])
  | .error fault => (reply, d.raise (.engine fault))

/-- Whether the command's answer is to be recorded, given the engine's reply. -/
def recordsAnswer (policy : RecordPolicy) (cmd : Command) (reply : Reply) : Bool :=
  cmd.records && !(policy == .skipOnFault && !reply.isOk)

/-- Records the answer register, which is stale if the engine has just faulted. -/
def record (limit : ResultLimit) (d : Dispatcher σ) :
    Option UInt32 × Dispatcher σ × List Event :=
  match d.results.write limit d.j d.ans with
  | .ok results => (some d.ans, { d with results, j := d.j + 1 }, [])
  | .error fault => (none, d.raise fault)

/-- The ceiling is looked at after the cursor has moved, so the last legal instruction still takes
    effect. -/
def ceilingFault? (ceiling index : UInt32) : Option Fault :=
  if index = ceiling then some (.instructionCeiling ceiling) else none

def advance (ceiling : UInt32) (d : Dispatcher σ) : Dispatcher σ × List Event :=
  let d := { d with i := d.i + 1 }
  match ceilingFault? ceiling d.i with
  | none => (d, [])
  | some fault => d.raise fault

/-- Executes an instruction: dispatch, record, advance, guard. -/
def execute (job : Job σ) (inst : Inst) (d : Dispatcher σ) : Turn σ :=
  let d := { d with status := .running, cmd := inst.cmd, value := inst.value }
  let (reply, d, dispatched) := d.dispatch job.engine
  let (recorded, d, written) :=
    if recordsAnswer job.config.recordPolicy inst.cmd reply then d.record job.config.resultLimit
    else (none, d, [])
  let (d, guarded) := d.advance job.config.maxInstructions
  let log := dispatched ++ written ++ guarded
  match d.flag.fault with
  | some fault => ⟨.faulted fault, d, log⟩
  | none => ⟨.executed inst recorded, d, log⟩

/-- One step. A raised flag and a stopped program leave nothing to do. -/
def step (job : Job σ) (d : Dispatcher σ) : Turn σ :=
  match d.flag.fault with
  | some fault => ⟨.faulted fault, d, []⟩
  | none =>
    if d.status = .stopped then ⟨.halted, d, []⟩
    else match job.program.inst? d.i with
      | none => ⟨.halted, { d with status := .stopped }, []⟩
      | some inst => execute job inst d

/-- The state after `n` steps. -/
def steps (job : Job σ) : Nat → Dispatcher σ → Dispatcher σ
  | 0, d => d
  | n + 1, d => steps job n (step job d).state

/-- At most `n` steps, up to the first that executes nothing. -/
def stepsWhile (job : Job σ) : Nat → Dispatcher σ → Dispatcher σ × List Event
  | 0, d => (d, [])
  | n + 1, d =>
    let turn := step job d
    match turn.outcome with
    | .executed inst recorded =>
      let (last, log) := stepsWhile job n turn.state
      (last, turn.log ++ .stepped inst recorded turn.state.i turn.state.j :: log)
    | .halted | .faulted _ => (turn.state, turn.log)

def report (d : Dispatcher σ) : Report where
  results := d.results.slots
  fault := d.flag.fault
  instructionsExecuted := d.i
  resultsWritten := d.j
  discarded := d.results.discarded

/-- Runs to the end. Each executed instruction moves the cursor by one, so the steps that are
    allowed reach one beyond the last instruction. -/
def run (job : Job σ) (d : Dispatcher σ) : Dispatcher σ × List Event :=
  let (last, log) := stepsWhile job (job.program.length - d.i.toNat + 1) d
  let report := last.report
  (last, log ++ [.runFinished report.instructionsExecuted report.resultsWritten report.fault])

/-- The state as a value on one line. -/
def shown (engine : Engine σ) (d : Dispatcher σ) : String :=
  let results := ", ".intercalate (d.results.slots.map toString)
  braced "Dispatcher" (
    s!"status: {d.status.shown}, i: {d.i}, j: {d.j}, cmd: {d.cmd.label}, value: {d.value}, " ++
    s!"ans: {d.ans}, results: [{results}], engine_len: {engine.size d.contents}")

end Dispatcher

end CommandTape
