import CommandTape.Event.Filter
import CommandTape.Proofs.Actions
import CommandTape.Proofs.Termination
import Mathlib.Data.List.Forall2

/-!
# What runs log

The log is written from two places, at three moments of a step and once more at the end of a run.
It tells the same story as the report nevertheless: the instructions that were executed without a
fault, then the faults of the one that broke off the run, then the report itself.

* `Event.Says`: what a line says, and at which level; each kind of line has its predicate.
* `faultLines_executedLog`, `raises_executedLog`: what an instruction logs when it raises faults, up
  to three of them.
* `Loops.exists_lines`: the lines of the loop of a run.
* `raisesIn_perform`: the flag is logged as raised exactly when it goes up.
* `run_logs`: the log of a run and that of a dispatcher's whole life.
-/

namespace CommandTape

/-! ## 1. What lines say -/

namespace Event

/-- What the line of an event says: how detailed it is, what happened, and the values that go with
    it. -/
structure Says (event : Event) (level : Level) (message : String)
    (fields : List (String × String)) : Prop where
  level_eq : event.level = level
  message_eq : event.message = message
  fields_eq : event.fields = fields

/-- The line of an instruction that was executed without a fault. -/
def StepLine (inst : Inst) (recorded : Option UInt32) (i j : UInt32) (event : Event) : Prop :=
  event = .stepped inst recorded i j ∧
    event.Says .trace "step" [("inst", inst.line), ("recorded", shownOption toString recorded),
      ("i", toString i), ("j", toString j)]

/-- The line of the fault that puts the flag up. -/
def RaiseLine (i j : UInt32) (fault : Fault) (event : Event) : Prop :=
  event = .flagRaised i j fault ∧
    event.Says .debug "error flag raised" [("i", toString i), ("j", toString j),
      ("fault", fault.message), ("engine", toString fault.isEngine)]

/-- The line of a fault that finds the flag up. -/
def KeptLine (i : UInt32) (fault : Fault) (event : Event) : Prop :=
  event = .flagKept i fault ∧
    event.Says .debug "error flag already raised, keeping first fault"
      [("i", toString i), ("fault", fault.message)]

/-- The line that ends a run, with the figures of its report. -/
def ReportLine (report : Report) (event : Event) : Prop :=
  event = .runFinished report.instructionsExecuted report.resultsWritten report.fault ∧
    event.Says .info "run finished" [("instructions", toString report.instructionsExecuted),
      ("results", toString report.resultsWritten),
      ("fault", shownOption Fault.shown report.fault)]

theorem stepLine_stepped (inst : Inst) (recorded : Option UInt32) (i j : UInt32) :
    StepLine inst recorded i j (.stepped inst recorded i j) :=
  ⟨rfl, rfl, rfl, rfl⟩

theorem raiseLine_flagRaised (i j : UInt32) (fault : Fault) :
    RaiseLine i j fault (.flagRaised i j fault) :=
  ⟨rfl, rfl, rfl, rfl⟩

theorem keptLine_flagKept (i : UInt32) (fault : Fault) : KeptLine i fault (.flagKept i fault) :=
  ⟨rfl, rfl, rfl, rfl⟩

theorem reportLine_runFinished (report : Report) :
    ReportLine report
      (.runFinished report.instructionsExecuted report.resultsWritten report.fault) :=
  ⟨rfl, rfl, rfl, rfl⟩

end Event

/-! ## 2. Raises -/

/-- The fault of which an event says that it has put the flag up. -/
def Event.raised? : Event → Option Fault
  | flagRaised _ _ fault => some fault
  | _ => none

theorem Event.isSome_raised? (event : Event) :
    event.raised?.isSome = decide (event.message = "error flag raised") := by
  cases event <;> rfl

/-- The faults that have put the flag up, as a log tells it. -/
def raisesIn (log : List Event) : List Fault := log.filterMap Event.raised?

theorem raisesIn_append (xs ys : List Event) :
    raisesIn (xs ++ ys) = raisesIn xs ++ raisesIn ys :=
  List.filterMap_append

/-- The order in which an instruction raises its faults. -/
def Fault.rank : Fault → Nat
  | engine _ => 0
  | resultCapacity _ => 1
  | instructionCeiling _ => 2

theorem LogFilter.allows_trace (event : Event) : (ofVerbosity 2).allows event = true := by
  cases event <;> rfl

namespace Dispatcher

variable {σ : Type}

/-- A raise is logged as such exactly if it puts the flag up. -/
theorem raisesIn_raiseLog (i j : UInt32) (first second : Option Fault) :
    first.toList ++ raisesIn (raiseLog i j first second) = (first.or second).toList := by
  cases first <;> cases second <;> rfl

theorem raisesIn_executedLog (job : Job σ) (inst : Inst) (d : Dispatcher σ) :
    raisesIn (d.executedLog job inst) = (d.raised? job inst).toList := by
  unfold executedLog raised?
  simp only [raisesIn_append]
  -- Each stage takes over the flag as the one before it has left it.
  rw [← raisesIn_raiseLog (d.i + 1) (d.written job inst).j,
    ← raisesIn_raiseLog d.i d.j (replyFault? (d.served job inst).1)]
  congr 2
  exact raisesIn_raiseLog d.i d.j none _

/-! ## 3. The faults of an instruction -/

/-- All faults that an instruction raises, in the order of its stages. -/
def faults (job : Job σ) (inst : Inst) (d : Dispatcher σ) : List Fault :=
  (replyFault? (d.served job inst).1).toList ++ (d.writeFault? job inst).toList ++
    (ceilingFault? job.config.maxInstructions (d.i + 1)).toList

theorem head?_faults (job : Job σ) (inst : Inst) (d : Dispatcher σ) :
    (d.faults job inst).head? = d.raised? job inst := by
  unfold faults raised?
  simp only [List.head?_append, Option.head?_toList]

theorem rank_replyFault? {reply : Reply} {fault : Fault} (h : fault ∈ (replyFault? reply).toList) :
    fault.rank = 0 := by
  cases reply with
  | ok answer => cases h
  | error e =>
    cases List.mem_singleton.mp h
    rfl

theorem rank_writeFault? {job : Job σ} {inst : Inst} {d : Dispatcher σ} {fault : Fault}
    (h : fault ∈ (d.writeFault? job inst).toList) : fault.rank = 1 := by
  unfold writeFault? at h
  split at h
  · cases List.mem_singleton.mp h
    rfl
  · cases h

theorem mem_ceilingFault? {ceiling index : UInt32} {fault : Fault}
    (h : fault ∈ (ceilingFault? ceiling index).toList) :
    fault = .instructionCeiling ceiling ∧ index = ceiling := by
  unfold ceilingFault? at h
  split at h
  · next hmet => exact ⟨List.mem_singleton.mp h, hmet⟩
  · cases h

/-- An instruction raises no two faults of the same kind, and never one of an earlier kind behind
    one of a later. -/
theorem pairwise_faults (job : Job σ) (inst : Inst) (d : Dispatcher σ) :
    (d.faults job inst).Pairwise fun earlier later => earlier.rank < later.rank := by
  have hsingle (fault : Option Fault) :
      fault.toList.Pairwise fun earlier later => earlier.rank < later.rank := by
    cases fault with
    | none => exact .nil
    | some fault => exact List.pairwise_singleton _ _
  unfold faults
  refine List.pairwise_append.mpr ⟨List.pairwise_append.mpr ⟨hsingle _, hsingle _, ?_⟩,
    hsingle _, ?_⟩
  · intro f hf g hg
    rw [rank_replyFault? hf, rank_writeFault? hg]
    exact Nat.zero_lt_one
  · intro f hf g hg
    obtain ⟨rfl, -⟩ := mem_ceilingFault? hg
    rcases List.mem_append.mp hf with hf | hf
    · rw [rank_replyFault? hf]
      exact Nat.zero_lt_two
    · rw [rank_writeFault? hf]
      exact Nat.one_lt_two

/-! ## 4. The lines of faults -/

/-- Where the cursor is when the instruction at `index` raises a fault. The ceiling is looked at
    once the cursor has moved on to it. -/
def cursorAt (ceiling index : UInt32) : Fault → UInt32
  | .engine _ | .resultCapacity _ => index
  | .instructionCeiling _ => ceiling

/-- The lines of the faults that the instruction at `index` raises: the first puts the flag up, and
    the others find it up. -/
def FaultLines (ceiling index : UInt32) : List Fault → List Event → Prop
  | [], log => log = []
  | fault :: later, log =>
    ∃ j first kept, log = first :: kept ∧
      first.RaiseLine (cursorAt ceiling index fault) j fault ∧
      List.Forall₂ (fun other line => line.KeptLine (cursorAt ceiling index other) other)
        later kept

/-- A stage adds the line of its fault, if it has one. -/
theorem FaultLines.append {ceiling index : UInt32} {raised : List Fault} {log : List Event}
    (h : FaultLines ceiling index raised log) (i j : UInt32) (fault : Option Fault)
    (hi : ∀ f ∈ fault.toList, cursorAt ceiling index f = i) :
    FaultLines ceiling index (raised ++ fault.toList) (log ++ raiseLog i j raised.head? fault) := by
  cases fault with
  | none =>
    have hlog : raiseLog i j raised.head? none = [] := by
      cases raised <;> rfl
    rw [hlog, Option.toList_none, List.append_nil, List.append_nil]
    exact h
  | some f =>
    have hi : cursorAt ceiling index f = i := hi f List.mem_cons_self
    cases raised with
    | nil =>
      cases h
      exact ⟨j, .flagRaised i j f, [], rfl, hi ▸ Event.raiseLine_flagRaised i j f, .nil⟩
    | cons fault later =>
      obtain ⟨j', first, kept, rfl, hfirst, hkept⟩ := h
      have hline : (Event.flagKept i f).KeptLine (cursorAt ceiling index f) f :=
        hi ▸ Event.keptLine_flagKept i f
      exact ⟨j', first, kept ++ [.flagKept i f], rfl, hfirst,
        List.rel_append hkept (.cons hline .nil)⟩

theorem cursorAt_of_rank {ceiling index : UInt32} {fault : Fault} (h : fault.rank < 2) :
    cursorAt ceiling index fault = index := by
  cases fault with
  | engine _ => rfl
  | resultCapacity _ => rfl
  | instructionCeiling _ => exact absurd h (Nat.lt_irrefl 2)

theorem faultLines_executedLog (job : Job σ) (inst : Inst) (d : Dispatcher σ) :
    FaultLines job.config.maxInstructions d.i (d.faults job inst) (d.executedLog job inst) := by
  have hnone : FaultLines job.config.maxInstructions d.i [] [] := rfl
  have hreply := hnone.append d.i d.j (replyFault? (d.served job inst).1) fun f hf =>
    cursorAt_of_rank (rank_replyFault? hf ▸ Nat.zero_lt_two)
  have hwrite := hreply.append d.i d.j (d.writeFault? job inst) fun f hf =>
    cursorAt_of_rank (rank_writeFault? hf ▸ Nat.one_lt_two)
  have hceiling := hwrite.append (d.i + 1) (d.written job inst).j
    (ceilingFault? job.config.maxInstructions (d.i + 1)) fun f hf => by
      obtain ⟨rfl, hmet⟩ := mem_ceilingFault? hf
      exact hmet.symm
  simp only [List.nil_append, List.head?_append, Option.head?_toList] at hceiling
  exact hceiling

/-- The lines of an instruction at `index` that has put the flag up with `fault`. Up to two further
    faults come behind it, in the order of the three limits. -/
def Raises (ceiling index : UInt32) (fault : Fault) (log : List Event) : Prop :=
  ∃ later, later.length ≤ 2 ∧
    (fault :: later).Pairwise (fun earlier later => earlier.rank < later.rank) ∧
    FaultLines ceiling index (fault :: later) log

theorem length_faults_le (job : Job σ) (inst : Inst) (d : Dispatcher σ) :
    (d.faults job inst).length ≤ 3 := by
  have hreply := Option.length_toList_le (o := replyFault? (d.served job inst).1)
  have hwrite := Option.length_toList_le (o := d.writeFault? job inst)
  have hceiling :=
    Option.length_toList_le (o := ceilingFault? job.config.maxInstructions (d.i + 1))
  unfold faults
  rw [List.length_append, List.length_append]
  omega

theorem raises_executedLog {job : Job σ} {inst : Inst} {d : Dispatcher σ} {fault : Fault}
    (h : d.raised? job inst = some fault) :
    Raises job.config.maxInstructions d.i fault (d.executedLog job inst) := by
  have hlines := faultLines_executedLog job inst d
  have hpairwise := pairwise_faults job inst d
  have hlength := length_faults_le job inst d
  rw [← head?_faults] at h
  obtain ⟨later, hfaults⟩ := List.head?_eq_some_iff.mp h
  rw [hfaults] at hlines hpairwise hlength
  exact ⟨later, Nat.le_of_succ_le_succ hlength, hpairwise, hlines⟩

theorem executedLog_eq_nil {job : Job σ} {inst : Inst} {d : Dispatcher σ}
    (h : d.raised? job inst = none) : d.executedLog job inst = [] := by
  have hlines := faultLines_executedLog job inst d
  rw [← head?_faults, List.head?_eq_none_iff] at h
  rw [h] at hlines
  exact hlines

/-! ## 5. The lines of a run -/

/-- The event is the line of the `m`-th instruction from the cursor on: the step that executed it
    raised no fault, and the cursors are those after that step. -/
def Traces (job : Job σ) (d : Dispatcher σ) (m : Nat) (event : Event) : Prop :=
  ∃ inst recorded i j, event.StepLine inst recorded i j ∧
    job.program.insts[d.i.toNat + m]? = some inst ∧ i.toNat = d.i.toNat + m + 1 ∧
    j = (steps job (m + 1) d).j ∧
    (step job (steps job m d)).outcome = .executed inst recorded

/-- What stands behind the lines of `n` instructions: those of the faults of the next instruction,
    if it has put the flag up, and else nothing. -/
def Closes (job : Job σ) (d last : Dispatcher σ) (n : Nat) (log : List Event) : Prop :=
  match d.flag.fault, last.flag.fault with
  | none, some fault =>
    last.i.toNat = d.i.toNat + n + 1 ∧
      ∃ index, index.toNat = d.i.toNat + n ∧ Raises job.config.maxInstructions index fault log
  | _, _ => last.i.toNat = d.i.toNat + n ∧ log = []

variable {job : Job σ} {d last : Dispatcher σ} {inst : Inst} {recorded : Option UInt32}
  {log : List Event} {n : Nat}

theorem closes_of_fault_eq (h : last.flag.fault = d.flag.fault)
    (hi : last.i.toNat = d.i.toNat + n) : Closes job d last n [] := by
  unfold Closes
  rw [h]
  cases d.flag.fault <;> exact ⟨hi, rfl⟩

/-- A step that executes an instruction raises no fault and logs nothing. -/
theorem quiet_of_outcome (h : (step job d).outcome = .executed inst recorded) :
    d.flag.fault = none ∧ (step job d).state.flag.fault = none ∧ (step job d).log = [] := by
  obtain ⟨hi, hstate⟩ := executed_of_outcome h
  have hd : ¬ d.Settled := by
    intro hd
    rw [step_of_settled hd] at h
    cases hf : d.flag.fault <;> simp [hf] at h
  have hf : d.flag.fault = none := (not_settled.mp hd).1
  have hraised : d.raised? job inst = none := by
    rw [step_of_not_settled hd, hi] at h
    simp only [execute_spec hf] at h
    cases hr : d.raised? job inst <;> simp_all
  refine ⟨hf, ?_, ?_⟩
  · rw [hstate, executed_fault, hraised]
  · rw [step_of_not_settled hd, hi]
    simp only [execute_spec hf, executedLog_eq_nil hraised]

theorem closes_step (h : ∀ inst recorded, (step job d).outcome ≠ .executed inst recorded) :
    Closes job d (step job d).state 0 (step job d).log := by
  by_cases hd : d.Settled
  · rw [step_of_settled hd]
    exact closes_of_fault_eq rfl rfl
  · have hf : d.flag.fault = none := (not_settled.mp hd).1
    cases hi : job.program.inst? d.i with
    | none =>
      rw [step_of_not_settled hd, hi]
      exact closes_of_fault_eq rfl rfl
    | some inst =>
      rw [step_of_not_settled hd, hi] at h ⊢
      simp only [execute_spec hf] at h ⊢
      cases hr : d.raised? job inst with
      | none =>
        rw [hr] at h
        exact absurd rfl (h _ _)
      | some fault =>
        unfold Closes
        rw [hf, executed_fault, hr]
        exact ⟨Program.toNat_add_one (Program.lt_length_of_inst? hi), d.i, rfl,
          raises_executedLog hr⟩

theorem Loops.exists_lines (h : Loops job n d last log) :
    ∃ traced raised, log = traced ++ raised ∧
      List.Forall₂ (Traces job d) (List.range traced.length) traced ∧
      Closes job d last traced.length raised := by
  induction h with
  | @leave d hleave => exact ⟨[], (step job d).log, rfl, .nil, closes_step hleave⟩
  | @again n d last inst recorded log hagain _ ih =>
    obtain ⟨traced, raised, rfl, htraced, hcloses⟩ := ih
    obtain ⟨hi, hstate⟩ := executed_of_outcome hagain
    obtain ⟨hf, hf', hlog⟩ := quiet_of_outcome hagain
    have hadd : (step job d).state.i.toNat = d.i.toNat + 1 := by
      rw [hstate, executed_i]
      exact Program.toNat_add_one (Program.lt_length_of_inst? hi)
    refine ⟨.stepped inst recorded (step job d).state.i (step job d).state.j :: traced, raised,
      ?_, ?_, ?_⟩
    · rw [hlog]
      rfl
    · rw [List.length_cons, List.range_succ_eq_map]
      refine .cons ⟨inst, recorded, _, _, Event.stepLine_stepped _ _ _ _,
        Program.getElem?_insts hi, hadd, rfl, hagain⟩ ?_
      refine List.forall₂_map_left_iff.mpr (htraced.imp fun m event hevent => ?_)
      -- The step number `m` after this one is step number `m + 1` from here.
      have hshift : d.i.toNat + (m + 1) = (step job d).state.i.toNat + m := by omega
      unfold Traces at hevent ⊢
      rw [Nat.succ_eq_add_one, hshift]
      exact hevent
    · unfold Closes at hcloses ⊢
      rw [hf'] at hcloses
      rw [hf, List.length_cons]
      have hshift : (step job d).state.i.toNat + traced.length =
          d.i.toNat + (traced.length + 1) := by omega
      rw [hshift] at hcloses
      exact hcloses

/-- A run is its loop with the line of its report behind it. -/
theorem exists_loops_run (job : Job σ) (d : Dispatcher σ) :
    ∃ n log, Loops job n d (run job d).1 log ∧
      (run job d).2 = log ++
        [.runFinished (run job d).1.i (run job d).1.j (run job d).1.flag.fault] := by
  obtain ⟨n, hn, last, log, hloops⟩ :=
    exists_loops job (job.program.length - d.i.toNat) d (by omega)
  have hrun : run job d = (last, log ++ [.runFinished last.i last.j last.flag.fault]) := by
    unfold run
    rw [hloops.stepsWhile_eq hn]
    rfl
  rw [hrun]
  exact ⟨n, log, hloops, rfl⟩

/-! ## 6. The log of a whole life -/

theorem raisesIn_step (job : Job σ) (d : Dispatcher σ) :
    d.flag.fault.toList ++ raisesIn (step job d).log = (step job d).state.flag.fault.toList := by
  by_cases hd : d.Settled
  · rw [step_of_settled hd]
    exact List.append_nil _
  · have hf : d.flag.fault = none := (not_settled.mp hd).1
    rw [step_of_not_settled hd, hf]
    cases hi : job.program.inst? d.i with
    | none =>
      simp only [hf]
      rfl
    | some inst =>
      simp only [execute_spec hf, executed_fault]
      exact raisesIn_executedLog job inst d

theorem Loops.raisesIn_eq (h : Loops job n d last log) :
    d.flag.fault.toList ++ raisesIn log = last.flag.fault.toList := by
  induction h with
  | @leave d _ => exact raisesIn_step job d
  | @again n d last inst recorded log _ _ ih =>
    rw [raisesIn_append, ← List.append_assoc, raisesIn_step, ← ih]
    rfl

/-- An action logs a raise exactly if it puts the flag up, and no second one. -/
theorem raisesIn_act (job : Job σ) (d : Dispatcher σ) (action : Action) :
    d.flag.fault.toList ++ raisesIn (act job d action).2.2 =
      (act job d action).2.1.flag.fault.toList := by
  cases action with
  | step => exact raisesIn_step job d
  | run =>
    obtain ⟨n, log, hloops, hlog⟩ := exists_loops_run job d
    have hact : (act job d .run).2.2 = (run job d).2 := rfl
    rw [hact, hlog, raisesIn_append, ← List.append_assoc, hloops.raisesIn_eq]
    exact List.append_nil _
  | report => exact List.append_nil _

theorem raisesIn_perform (job : Job σ) (actions : List Action) (d : Dispatcher σ) :
    d.flag.fault.toList ++ raisesIn (perform job actions d).log =
      (perform job actions d).state.flag.fault.toList := by
  induction actions generalizing d with
  | nil => exact List.append_nil _
  | cons action actions ih =>
    simp only [perform_cons]
    rw [raisesIn_append, ← List.append_assoc, raisesIn_act, ih]

/-- When nothing is left to do, only reports are logged. -/
theorem level_act_settled (h : d.Settled) (action : Action) :
    ∀ event ∈ (act job d action).2.2, event.level = .info := by
  have hstep : (step job d).log = [] := by rw [step_of_settled h]
  cases action with
  | step =>
    intro event hevent
    have hact : (act job d .step).2.2 = (step job d).log := rfl
    rw [hact, hstep] at hevent
    cases hevent
  | run =>
    obtain ⟨n, log, hloops, hlog⟩ := exists_loops_run job d
    have hact : (act job d .run).2.2 = (run job d).2 := rfl
    rw [hact, hlog]
    intro event hevent
    generalize (run job d).1 = last at hloops hevent
    cases hloops with
    | leave =>
      rw [hstep] at hevent
      cases List.mem_singleton.mp hevent
      rfl
    | again hagain =>
      rw [step_of_settled h] at hagain
      cases hf : d.flag.fault <;> simp [hf] at hagain
  | report =>
    intro event hevent
    cases hevent

theorem level_perform_settled (h : d.Settled) (actions : List Action) :
    ∀ event ∈ (perform job actions d).log, event.level = .info := by
  induction actions with
  | nil =>
    intro event hevent
    cases hevent
  | cons action actions ih =>
    rw [perform_cons, (act_settled h rfl action).2]
    exact List.forall_mem_append.mpr ⟨level_act_settled h action, ih⟩

/-- From wherever a run starts, its log is the line of each instruction that it executes without a
    fault, in order; then, if it puts the flag up, the lines of the faults of the next instruction;
    and at last the line of its report. Of all that is logged while steps and runs and reports are
    asked for in any order, exactly one line says that the flag is raised if it ever goes up, and
    none if it does not. Once it is up, only reports are logged. -/
theorem run_logs (job : Job σ) (s : σ) :
    (∀ d : Dispatcher σ,
      let last := (run job d).1
      ∃ traced raised reported,
        (run job d).2.filter (LogFilter.ofVerbosity 2).allows = traced ++ raised ++ [reported] ∧
        List.Forall₂ (Traces job d) (List.range traced.length) traced ∧
        Closes job d last traced.length raised ∧
        reported.ReportLine last.report) ∧
    ∀ before after : List Action,
      let first := perform job before (start s)
      let rest := perform job after first.state
      first.log.countP (fun event => event.message = "error flag raised") =
          (if first.state.flag.fault = none then 0 else 1) ∧
        raisesIn first.log = first.state.flag.fault.toList ∧
        (first.state.flag.fault ≠ none →
          rest.state = first.state ∧ ∀ event ∈ rest.log, event.level = .info) := by
  refine ⟨fun d => ?run, fun before after => ?life⟩
  case run =>
    intro last
    obtain ⟨n, log, hloops, hlog⟩ := exists_loops_run job d
    obtain ⟨traced, raised, rfl, htraced, hcloses⟩ := hloops.exists_lines
    have hall : (run job d).2.filter (LogFilter.ofVerbosity 2).allows = (run job d).2 :=
      List.filter_eq_self.mpr fun event _ => LogFilter.allows_trace event
    exact ⟨traced, raised, _, hall.trans hlog, htraced, hcloses,
      Event.reportLine_runFinished last.report⟩
  case life =>
    intro first rest
    have hraises : raisesIn first.log = first.state.flag.fault.toList :=
      raisesIn_perform job before (start s)
    have hcount : first.log.countP (fun event => event.message = "error flag raised") =
        (raisesIn first.log).length := by
      simp only [raisesIn, List.length_filterMap_eq_countP, Event.isSome_raised?]
    refine ⟨?_, hraises, fun hf => ?_⟩
    · rw [hcount, hraises]
      cases first.state.flag.fault <;> rfl
    · have hd : first.state.Settled := .inl hf
      exact ⟨(perform_settled hd rfl after).2, level_perform_settled hd after⟩

/-- All three limits bite at the last instruction. The engine's fault is the one that counts. -/
theorem run_logs_pushPopPop :
    let job : Job (List UInt32) := ⟨pushPopPop, Engine.fifo 1, tight⟩
    let last := (run job (start [])).1
    let traced : List Event :=
      [.stepped ⟨0, .push, 5⟩ none 1 0, .stepped ⟨1, .pop, 0⟩ (some 5) 2 1]
    let raised : List Event := [.flagRaised 2 1 (.engine .underflow),
      .flagKept 2 (.resultCapacity 1), .flagKept 3 (.instructionCeiling 3)]
    let reported : Event := .runFinished 3 1 (some (.engine .underflow))
    let first := perform job [.step, .run] (start [])
    let rest := perform job [.step, .run, .report] first.state
    ((run job (start [])).2.filter (LogFilter.ofVerbosity 2).allows =
        traced ++ raised ++ [reported] ∧
      List.Forall₂ (Traces job (start [])) (List.range 2) traced ∧
      Closes job (start []) last 2 raised ∧ reported.ReportLine last.report) ∧
    first.state.flag.fault ≠ none ∧
      first.log.countP (fun event => event.message = "error flag raised") = 1 ∧
      raisesIn first.log = [.engine .underflow] ∧
      rest.state = first.state ∧ ∀ event ∈ rest.log, event.level = .info := by
  intro job last traced raised reported
  obtain ⟨hrun, hlife⟩ := run_logs job []
  refine ⟨?run, ?life⟩
  case run =>
    obtain ⟨traced', raised', reported', hlog, htraced, hcloses, hreported⟩ := hrun (start [])
    have hwhole : (run job (start [])).2.filter (LogFilter.ofVerbosity 2).allows =
        traced ++ raised ++ [reported] := by decide
    -- The flag went up at the third instruction, so two were traced.
    have hlength : traced'.length = traced.length := by
      have hi : last.i.toNat = 0 + traced'.length + 1 := hcloses.1
      have hlast : last.i.toNat = 3 := by decide
      have htwo : traced.length = 2 := rfl
      omega
    rw [hwhole] at hlog
    obtain ⟨hlines, hline⟩ := List.append_inj' hlog rfl
    obtain ⟨rfl, rfl⟩ := List.append_inj hlines hlength.symm
    cases hline
    exact ⟨hwhole, htraced, hcloses, hreported⟩
  case life =>
    have hf : (perform job [.step, .run] (start [])).state.flag.fault =
        some (.engine .underflow) := by decide
    have hup : (perform job [.step, .run] (start [])).state.flag.fault ≠ none := by
      rw [hf]
      exact Option.some_ne_none _
    obtain ⟨hcount, hraises, hend⟩ := hlife [.step, .run] [.step, .run, .report]
    exact ⟨hup, hcount.trans (if_neg hup), hraises.trans (congrArg Option.toList hf), hend hup⟩

example :
    (run ⟨pushPopPop, Engine.fifo 1, tight⟩ (start [])).2.map Event.line = [
      "TRACE step inst=0000: push 5 recorded=None i=1 j=0",
      "TRACE step inst=0001: pop recorded=Some(5) i=2 j=1",
      "DEBUG error flag raised i=2 j=1 " ++
        "fault=engine underflow: pop or peek on an empty structure engine=true",
      "DEBUG error flag already raised, keeping first fault i=2 " ++
        "fault=result tape capacity of 1 exceeded",
      "DEBUG error flag already raised, keeping first fault i=3 " ++
        "fault=instruction ceiling of 3 reached",
      " INFO run finished instructions=3 results=1 fault=Some(Engine(Underflow))"] := by
  decide +kernel

end Dispatcher

end CommandTape
