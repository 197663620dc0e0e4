import CommandTape.Proofs.Run

/-!
# Engines that note their calls

A dispatcher knows an engine by its replies only. So if one engine's states can be read as those of
another that gives the same replies, the two drive a dispatcher through the same states, apart from
what the engines hold. An engine that notes every call it receives is such an engine, and its notes
say when an engine is called, and with what.

* `step_mapContents`, `run_mapContents`: what a step and a run do, read through a map of the
  engine's states.
* `Engine.recorded`: an engine beside the list of its calls.
-/

namespace CommandTape

variable {σ τ : Type}

/-! ## 1. Maps of engine states -/

/-- Read through `f`, the states of `engine` are those of `image`, and the replies are the same. -/
def Engine.MapsTo (f : σ → τ) (engine : Engine σ) (image : Engine τ) : Prop :=
  ∀ cmd value s, image.apply cmd value (f s) =
    ((engine.apply cmd value s).1, f (engine.apply cmd value s).2)

/-- The job on another engine. -/
def Job.withEngine (job : Job σ) (engine : Engine τ) : Job τ :=
  ⟨job.program, engine, job.config⟩

/-- The dispatcher with its engine's state read through `f`. -/
def Dispatcher.mapContents (f : σ → τ) (d : Dispatcher σ) : Dispatcher τ :=
  { d with contents := f d.contents }

/-- The turn with the engine's state read through `f`. -/
def Turn.mapContents (f : σ → τ) (turn : Turn σ) : Turn τ :=
  ⟨turn.outcome, turn.state.mapContents f, turn.log⟩

namespace Dispatcher

variable {f : σ → τ} {job : Job σ} {image : Engine τ}

/-! ## 2. Stages, steps and runs through a map -/

theorem raising_mapContents (f : σ → τ) (fault : Option Fault) (d : Dispatcher σ) :
    (d.mapContents f).raising fault =
      ((d.raising fault).1.mapContents f, (d.raising fault).2) := by
  cases fault with
  | none => rfl
  | some fault =>
    simp only [raising, raise]
    cases h : d.flag.fault <;> simp only [mapContents, h]

theorem dispatch_mapContents (h : job.engine.MapsTo f image) (d : Dispatcher σ) :
    (d.mapContents f).dispatch image =
      ((d.dispatch job.engine).1, (d.dispatch job.engine).2.1.mapContents f,
        (d.dispatch job.engine).2.2) := by
  have happly : image.apply (d.mapContents f).cmd (d.mapContents f).value
      (d.mapContents f).contents = _ := h d.cmd d.value d.contents
  rw [dispatch_eq, dispatch_eq, happly]
  rcases job.engine.apply d.cmd d.value d.contents with ⟨reply, s⟩
  exact congrArg (Prod.mk reply) (raising_mapContents f (replyFault? reply)
    { d with contents := s, ans := register d.ans reply })

theorem recording_mapContents (f : σ → τ) (job : Job σ) (image : Engine τ) (inst : Inst)
    (reply : Reply) (d : Dispatcher σ) :
    (d.mapContents f).recording (job.withEngine image) inst reply =
      ((d.recording job inst reply).1, (d.recording job inst reply).2.1.mapContents f,
        (d.recording job inst reply).2.2) := by
  unfold recording
  by_cases ha : recordsAnswer job.config.recordPolicy inst.cmd reply
  · have ha' : recordsAnswer (job.withEngine image).config.recordPolicy inst.cmd reply := ha
    rw [if_pos ha, if_pos ha', record_eq, record_eq]
    by_cases hr : job.config.resultLimit.Refuses d.j
    · have hr' : (job.withEngine image).config.resultLimit.Refuses (d.mapContents f).j := hr
      rw [if_pos hr, if_pos hr']
      exact congrArg (Prod.mk _) (raising_mapContents f (some _) d)
    · have hr' : ¬ (job.withEngine image).config.resultLimit.Refuses (d.mapContents f).j := hr
      rw [if_neg hr, if_neg hr']
      rfl
  · have ha' : ¬ recordsAnswer (job.withEngine image).config.recordPolicy inst.cmd reply := ha
    rw [if_neg ha, if_neg ha']

theorem advance_mapContents (f : σ → τ) (ceiling : UInt32) (d : Dispatcher σ) :
    (d.mapContents f).advance ceiling =
      ((d.advance ceiling).1.mapContents f, (d.advance ceiling).2) := by
  rw [advance_eq, advance_eq]
  exact raising_mapContents f _ { d with i := d.i + 1 }

theorem execute_mapContents (h : job.engine.MapsTo f image) (inst : Inst) (d : Dispatcher σ) :
    execute (job.withEngine image) inst (d.mapContents f) = (execute job inst d).mapContents f := by
  rcases h₁ : (d.latched inst).dispatch job.engine with ⟨reply, d₁, log₁⟩
  rcases h₂ : d₁.recording job inst reply with ⟨recorded, d₂, log₂⟩
  rcases h₃ : d₂.advance job.config.maxInstructions with ⟨d₃, log₃⟩
  have h₁' : ((d.mapContents f).latched inst).dispatch (job.withEngine image).engine = _ :=
    dispatch_mapContents h (d.latched inst)
  have h₂' := recording_mapContents f job image inst reply d₁
  have h₃' := advance_mapContents f job.config.maxInstructions d₂
  rw [h₁] at h₁'
  rw [h₂] at h₂'
  rw [h₃] at h₃'
  rw [execute_eq h₁ h₂ h₃]
  exact execute_eq h₁' h₂' h₃'

theorem settled_mapContents {d : Dispatcher σ} : (d.mapContents f).Settled ↔ d.Settled :=
  Iff.rfl

theorem step_mapContents (h : job.engine.MapsTo f image) (d : Dispatcher σ) :
    step (job.withEngine image) (d.mapContents f) = (step job d).mapContents f := by
  by_cases hd : d.Settled
  · rw [step_of_settled hd, step_of_settled (settled_mapContents.mpr hd)]
    rfl
  · rw [step_of_not_settled hd, step_of_not_settled (mt settled_mapContents.mp hd)]
    have hinst : (job.withEngine image).program.inst? (d.mapContents f).i =
        job.program.inst? d.i := rfl
    rw [hinst]
    cases job.program.inst? d.i with
    | none => rfl
    | some inst => exact execute_mapContents h inst d

theorem stepsWhile_mapContents (h : job.engine.MapsTo f image) (n : Nat) (d : Dispatcher σ) :
    stepsWhile (job.withEngine image) n (d.mapContents f) =
      ((stepsWhile job n d).1.mapContents f, (stepsWhile job n d).2) := by
  induction n generalizing d with
  | zero => rfl
  | succ n ih =>
    simp only [stepsWhile, step_mapContents h, Turn.mapContents]
    cases (step job d).outcome with
    | executed inst recorded =>
      simp only [ih]
      rfl
    | halted => rfl
    | faulted fault => rfl

theorem run_mapContents (h : job.engine.MapsTo f image) (d : Dispatcher σ) :
    run (job.withEngine image) (d.mapContents f) =
      ((run job d).1.mapContents f, (run job d).2) := by
  have hsteps := stepsWhile_mapContents h (job.program.length - d.i.toNat + 1) d
  unfold run
  simp only [mapContents, Job.withEngine] at hsteps ⊢
  rw [hsteps]
  rfl

end Dispatcher

/-! ## 3. Noting calls -/

/-- The engine beside the calls that it has received, in order. -/
def Engine.recorded (engine : Engine σ) : Engine (σ × Tape (Command × UInt32)) where
  apply cmd value s :=
    let (reply, after) := engine.apply cmd value s.1
    (reply, after, s.2 ++ [(cmd, value)])
  size s := engine.size s.1

/-- The job on an engine that notes its calls. -/
def Job.recorded (job : Job σ) : Job (σ × Tape (Command × UInt32)) :=
  job.withEngine job.engine.recorded

/-- Noting calls does not change what an engine does. -/
theorem Job.recorded_mapsTo (job : Job σ) : job.recorded.engine.MapsTo Prod.fst job.engine :=
  fun _ _ _ => rfl

end CommandTape
