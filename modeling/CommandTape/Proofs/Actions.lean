import CommandTape.Proofs.Coherence
import CommandTape.Proofs.Recording

/-!
# Courses of actions

A dispatcher can be asked for a step, a run or a report, in any order and as often as one likes.

* `fault_perform`: the flag holds the first fault that a course has logged. Later faults are logged
  too, so the log tells all that were raised.
* `perform_settled`: once nothing is left to do, actions change nothing and are answered alike.
* `run_absorbs`: steps before a run make no difference to it, and its end is final.
-/

namespace CommandTape

/-- The fault that an event tells of, whether or not the flag was up already. -/
def Event.raisedFault? : Event → Option Fault
  | flagRaised _ _ fault | flagKept _ fault => some fault
  | _ => none

/-- The first fault that was raised. -/
def firstRaised (log : List Event) : Option Fault := log.findSome? Event.raisedFault?

theorem firstRaised_append (xs ys : List Event) :
    firstRaised (xs ++ ys) = (firstRaised xs).or (firstRaised ys) :=
  List.findSome?_append

namespace Dispatcher

variable {σ : Type}

/-! ## 1. Actions -/

/-- What a dispatcher can be asked for. -/
inductive Action
  | step
  | run
  | report
  deriving DecidableEq, Repr

/-- What comes back from an action. -/
inductive Answer
  | outcome (outcome : Outcome)
  | report (report : Report)
  deriving DecidableEq, Repr

/-- The answers to some actions, the state after them and what they logged. -/
structure Course (σ : Type) where
  answers : List Answer
  state : Dispatcher σ
  log : List Event

def act (job : Job σ) (d : Dispatcher σ) : Action → Answer × Dispatcher σ × List Event
  | .step =>
    let turn := step job d
    (.outcome turn.outcome, turn.state, turn.log)
  | .run =>
    let (last, log) := run job d
    (.report last.report, last, log)
  | .report => (.report d.report, d, [])

/-- Does what is asked for, one action after another. -/
def perform (job : Job σ) : List Action → Dispatcher σ → Course σ
  | [], d => ⟨[], d, []⟩
  | action :: actions, d =>
    let (answer, next, log) := act job d action
    let rest := perform job actions next
    ⟨answer :: rest.answers, rest.state, log ++ rest.log⟩

theorem perform_cons (job : Job σ) (action : Action) (actions : List Action)
    (d : Dispatcher σ) :
    perform job (action :: actions) d =
      let rest := perform job actions (act job d action).2.1
      ⟨(act job d action).1 :: rest.answers, rest.state, (act job d action).2.2 ++ rest.log⟩ :=
  rfl

theorem perform_append (job : Job σ) (xs ys : List Action) (d : Dispatcher σ) :
    perform job (xs ++ ys) d =
      let before := perform job xs d
      let after := perform job ys before.state
      ⟨before.answers ++ after.answers, after.state, before.log ++ after.log⟩ := by
  induction xs generalizing d with
  | nil => rfl
  | cons action xs ih => simp only [List.cons_append, perform_cons, ih, List.append_assoc]

theorem perform_steps (job : Job σ) (n : Nat) (d : Dispatcher σ) :
    (perform job (List.replicate n .step) d).state = steps job n d := by
  induction n generalizing d with
  | zero => rfl
  | succ n ih => exact ih _

theorem Reachable.perform {job : Job σ} {s : σ} {d : Dispatcher σ} (h : Reachable job s d)
    (actions : List Action) : Reachable job s (perform job actions d).state := by
  induction actions generalizing d with
  | nil => exact h
  | cons action actions ih =>
    cases action with
    | step => exact ih h.step
    | run => exact ih h.run
    | report => exact ih h

/-! ## 2. The first fault -/

/-- What is logged when a fault is raised does not hide it, whatever the flag held. -/
theorem firstRaised_raiseLog (i j : UInt32) (first second : Option Fault) :
    firstRaised (raiseLog i j first second) = second := by
  cases first <;> cases second <;> rfl

theorem firstRaised_executedLog (job : Job σ) (inst : Inst) (d : Dispatcher σ) :
    firstRaised (d.executedLog job inst) = d.raised? job inst := by
  unfold executedLog raised?
  simp only [firstRaised_append, firstRaised_raiseLog]

theorem fault_step (job : Job σ) (d : Dispatcher σ) :
    (step job d).state.flag.fault = d.flag.fault.or (firstRaised (step job d).log) := by
  by_cases hd : d.Settled
  · rw [step_of_settled hd]
    exact (Option.or_none).symm
  · have hf : d.flag.fault = none := (not_settled.mp hd).1
    rw [step_of_not_settled hd, hf, Option.none_or]
    cases job.program.inst? d.i with
    | none => exact hf
    | some inst =>
      show (execute job inst d).state.flag.fault = firstRaised (execute job inst d).log
      rw [execute_spec hf, firstRaised_executedLog, executed_fault]

theorem fault_stepsWhile (job : Job σ) (n : Nat) (d : Dispatcher σ) :
    (stepsWhile job n d).1.flag.fault =
      d.flag.fault.or (firstRaised (stepsWhile job n d).2) := by
  induction n generalizing d with
  | zero => exact (Option.or_none).symm
  | succ n ih =>
    rw [stepsWhile]
    cases (step job d).outcome with
    | executed inst recorded =>
      have hstepped (event : Event) (log : List Event) (h : event.raisedFault? = none) :
          firstRaised (event :: log) = firstRaised log := by
        unfold firstRaised
        rw [List.findSome?_cons, h]
      simp only [firstRaised_append]
      rw [hstepped _ _ rfl, ih, fault_step, Option.or_assoc]
    | halted => exact fault_step job d
    | faulted fault => exact fault_step job d

theorem fault_run (job : Job σ) (d : Dispatcher σ) :
    (run job d).1.flag.fault = d.flag.fault.or (firstRaised (run job d).2) := by
  have hsteps := fault_stepsWhile job (job.program.length - d.i.toNat + 1) d
  unfold run
  rw [firstRaised_append]
  exact hsteps.trans (congrArg _ (Option.or_none).symm)

/-- The flag holds the fault that it held before, or else the first that was raised. -/
theorem fault_perform (job : Job σ) (actions : List Action) (d : Dispatcher σ) :
    (perform job actions d).state.flag.fault =
      d.flag.fault.or (firstRaised (perform job actions d).log) := by
  induction actions generalizing d with
  | nil => exact (Option.or_none).symm
  | cons action actions ih =>
    have hact : (act job d action).2.1.flag.fault =
        d.flag.fault.or (firstRaised (act job d action).2.2) := by
      cases action with
      | step => exact fault_step job d
      | run => exact fault_run job d
      | report => exact (Option.or_none).symm
    simp only [perform_cons, firstRaised_append]
    rw [ih, hact, Option.or_assoc]

/-! ## 3. The end of a run -/

/-- How an action is answered when nothing is left to do. -/
def finalAnswer (outcome : Outcome) (report : Report) : Action → Answer
  | .step => .outcome outcome
  | .run | .report => .report report

theorem act_settled {job : Job σ} {d : Dispatcher σ} {outcome : Outcome} (h : d.Settled)
    (ho : (step job d).outcome = outcome) (action : Action) :
    (act job d action).1 = finalAnswer outcome d.report action ∧
      (act job d action).2.1 = d := by
  have hrun : (run job d).1 = d := by rw [run_state, steps_settled h]
  cases action with
  | step => exact ⟨congrArg Answer.outcome ho, step_settled h⟩
  | run => exact ⟨congrArg (fun e : Dispatcher σ => Answer.report e.report) hrun, hrun⟩
  | report => exact ⟨rfl, rfl⟩

theorem perform_settled {job : Job σ} {d : Dispatcher σ} {outcome : Outcome} (h : d.Settled)
    (ho : (step job d).outcome = outcome) (actions : List Action) :
    (perform job actions d).answers = actions.map (finalAnswer outcome d.report) ∧
      (perform job actions d).state = d := by
  induction actions with
  | nil => exact ⟨rfl, rfl⟩
  | cons action actions ih =>
    obtain ⟨hanswer, hstate⟩ := act_settled h ho action
    rw [perform_cons, hanswer, hstate]
    exact ⟨congrArg (_ :: ·) ih.1, ih.2⟩

/-! ## 4. Calls of the engine -/

theorem act_mapContents {f : σ → τ} {job : Job σ} {image : Engine τ}
    (h : job.engine.MapsTo f image) (d : Dispatcher σ) (action : Action) :
    act (job.withEngine image) (d.mapContents f) action =
      ((act job d action).1, (act job d action).2.1.mapContents f, (act job d action).2.2) := by
  cases action with
  | step =>
    simp only [act, step_mapContents h]
    rfl
  | run =>
    simp only [act, run_mapContents h]
    rfl
  | report => rfl

theorem perform_mapContents {f : σ → τ} {job : Job σ} {image : Engine τ}
    (h : job.engine.MapsTo f image) (actions : List Action) (d : Dispatcher σ) :
    perform (job.withEngine image) actions (d.mapContents f) =
      ⟨(perform job actions d).answers, (perform job actions d).state.mapContents f,
        (perform job actions d).log⟩ := by
  induction actions generalizing d with
  | nil => rfl
  | cons action actions ih => simp only [perform_cons, act_mapContents h, ih]

/-- A course of actions on an engine that notes its calls. -/
def noted (job : Job σ) (s : σ) (actions : List Action) :
    Course (σ × Tape (Command × UInt32)) :=
  perform job.recorded actions (start (s, []))

/-- Noting the calls changes nothing else. -/
theorem perform_eq_noted (job : Job σ) (s : σ) (actions : List Action) :
    perform job actions (start s) =
      ⟨(noted job s actions).answers, (noted job s actions).state.mapContents Prod.fst,
        (noted job s actions).log⟩ :=
  perform_mapContents job.recorded_mapsTo actions (start (s, []))

/-! ## 5. Whole courses -/

theorem step_outcome_stopped {job : Job σ} {s : σ} {d : Dispatcher σ} (h : Reachable job s d)
    (hs : d.status = .stopped) : d.Settled ∧ (step job d).outcome = .halted := by
  have hf : d.flag.fault = none := (h.coherent.stopped hs).2
  have hd : d.Settled := .inr hs
  rw [step_of_settled hd, hf]
  exact ⟨hd, rfl⟩

theorem step_outcome_error {job : Job σ} {s : σ} {d : Dispatcher σ} {fault : Fault}
    (h : Reachable job s d) (hs : d.status = .error fault) :
    d.Settled ∧ (step job d).outcome = .faulted fault := by
  have hf : d.flag.fault = some fault := (h.coherent.status_error fault).mp hs
  have hd : d.Settled := .inl (hf ▸ nofun)
  rw [step_of_settled hd, hf]
  exact ⟨hd, rfl⟩

/-- However many steps are taken before it, a run ends in the same state and with the same report.
    The end is final: whatever is asked for in which order, the state stays as it is, a step says
    that the dispatcher has halted, or else it gives the first fault that was ever raised, each run
    and each report give the same report, and the engine is not called again. -/
theorem run_absorbs (job : Job σ) (s : σ) :
    (∀ n,
      let course := perform job (List.replicate n .step ++ [.run]) (start s)
      course.state = (run job (start s)).1 ∧
        course.answers.getLast? = some (.report (run job (start s)).1.report)) ∧
    ∀ before after : List Action,
      let first := perform job before (start s)
      let rest := perform job after first.state
      (first.state.status = .stopped →
        rest.state = first.state ∧
          rest.answers = after.map (finalAnswer .halted first.state.report)) ∧
      (∀ fault, first.state.status = .error fault →
        firstRaised first.log = some fault ∧ rest.state = first.state ∧
          rest.answers = after.map (finalAnswer (.faulted fault) first.state.report)) ∧
      (first.state.status = .stopped ∨ (∃ fault, first.state.status = .error fault) →
        (noted job s (before ++ after)).state.contents.2 =
          (noted job s before).state.contents.2) := by
  refine ⟨fun n => ?_, fun before after => ?_⟩
  · intro course
    have hrun : (run job (steps job n (start s))).1 = (run job (start s)).1 := by
      have hsettled := settled_run job (steps job n (start s))
      rw [run_state, ← steps_add] at hsettled ⊢
      exact (run_eq_steps hsettled).symm
    have hcourse : course = _ :=
      perform_append job (List.replicate n .step) [.run] (start s)
    simp only [hcourse, perform_steps, List.getLast?_append]
    exact ⟨hrun, congrArg (fun e : Dispatcher σ => some (Answer.report e.report)) hrun⟩
  · intro first rest
    have hreach : Reachable job s first.state := Reachable.start.perform before
    refine ⟨fun hs => ?_, fun fault hs => ?_, fun hs => ?_⟩
    · obtain ⟨hd, ho⟩ := step_outcome_stopped hreach hs
      exact (perform_settled hd ho after).symm
    · obtain ⟨hd, ho⟩ := step_outcome_error hreach hs
      have hfirst : first.state.flag.fault = firstRaised first.log :=
        fault_perform job before (start s)
      refine ⟨?_, (perform_settled hd ho after).symm⟩
      rw [← hfirst]
      exact (hreach.coherent.status_error fault).mp hs
    · have hd : first.state.Settled := by
        rcases hs with hs | ⟨fault, hs⟩
        · exact (step_outcome_stopped hreach hs).1
        · exact (step_outcome_error hreach hs).1
      -- The engine that notes its calls is in the same position, so nothing is noted any more.
      have hnoted : (noted job s before).state.Settled := by
        have hfirst : first = _ := perform_eq_noted job s before
        rw [hfirst] at hd
        exact settled_mapContents.mp hd
      unfold noted at hnoted ⊢
      rw [perform_append, (perform_settled hnoted rfl after).2]

/-- Steps and runs after a fault, and after the end of a program. -/
theorem run_absorbs_pushPopPop :
    let job : Job (List UInt32) := ⟨pushPopPop, Engine.fifo 1, tight⟩
    let faulted := perform job [.step, .run] (start [])
    let pushPop : Job (List UInt32) :=
      ⟨⟨[(.push, 5), (.pop, 0)], by decide⟩, Engine.lifo 1, {}⟩
    let stopped := perform pushPop [.step, .run] (start [])
    (faulted.state.status = .error (.engine .underflow) ∧
        firstRaised faulted.log = some (.engine .underflow) ∧
        (perform job [.step, .report, .run, .step] faulted.state).state = faulted.state) ∧
      stopped.state.status = .stopped ∧
        (perform pushPop [.run, .step] stopped.state).state = stopped.state ∧
        (noted pushPop [] ([.step, .run] ++ [.run, .step])).state.contents.2 =
          (noted pushPop [] [.step, .run]).state.contents.2 := by
  intro job faulted pushPop stopped
  have hfaulted : faulted.state.status = .error (.engine .underflow) := by decide
  have hstopped : stopped.state.status = .stopped := by decide
  obtain ⟨_, herror, _⟩ := (run_absorbs job []).2 [.step, .run] [.step, .report, .run, .step]
  obtain ⟨hfirst, hstate, _⟩ := herror _ hfaulted
  obtain ⟨hend, _, hcalls⟩ := (run_absorbs pushPop []).2 [.step, .run] [.run, .step]
  exact ⟨⟨hfaulted, hfirst, hstate⟩, hstopped, (hend hstopped).1, hcalls (.inl hstopped)⟩

end Dispatcher

end CommandTape
