import CommandTape.Proofs.Growth
import CommandTape.Proofs.Stopping

/-!
# Longer programs under larger limits

A run knows its limits only by the faults that they raise. So a run of a longer program, under a
higher ceiling and on a larger engine, goes through the same states, until the shorter run ends. If
it ends with a fault that the larger limits do not take away, both end there; otherwise the longer
run goes on.

* `Job.Widens`: what the longer job has in common with the shorter one.
* `executed_widens`, `executed_grows`: one instruction under both.
* `Ahead.step`: the two runs are in the same state, or have ended in the same, or the shorter one
  has been left behind.
* `run_extends`: the reports of the two runs compared.
-/

namespace CommandTape

/-! ## 1. Larger limits -/

/-- A fault that is raised whatever the ceiling and however large the engine. -/
def Fault.Persists : Fault → Prop
  | .engine .underflow | .resultCapacity _ => True
  | .engine (.overflow _) | .instructionCeiling _ => False

theorem Fault.persists_iff {fault : Fault} :
    fault.Persists ↔ fault = .engine .underflow ∨ ∃ capacity, fault = .resultCapacity capacity := by
  rcases fault with (_ | _) | _ | _ <;> simp [Persists]

/-- The job `long` has a program that begins with that of `short`, limits that are at least as
    large, and policies and a result tape that are the same. Its engine does what that of `short`
    does, except for pushes on which that one overflows. -/
structure Job.Widens (short long : Job σ) : Prop where
  program : short.program.cells <+: long.program.cells
  engine : ∀ cmd value s, long.engine.apply cmd value s = short.engine.apply cmd value s ∨
    cmd = .push ∧ ∃ c, (short.engine.apply cmd value s).1 = .error (.overflow c)
  /-- A ceiling of zero is none at all. -/
  ceiling_pos : 1 ≤ short.config.maxInstructions
  ceiling_le : short.config.maxInstructions ≤ long.config.maxInstructions
  recordPolicy : long.config.recordPolicy = short.config.recordPolicy
  resultLimit : long.config.resultLimit = short.config.resultLimit

/-- An engine of a larger capacity overflows less often, and that is all. -/
theorem Engine.bounded_apply_of_le {insert : UInt32 → List UInt32 → List UInt32} {c c' : Nat}
    (h : c ≤ c') (cmd : Command) (value : UInt32) (xs : List UInt32) :
    (bounded insert c').apply cmd value xs = (bounded insert c).apply cmd value xs ∨
      cmd = .push ∧ ∃ n, ((bounded insert c).apply cmd value xs).1 = .error (.overflow n) := by
  cases cmd with
  | pop => cases xs <;> exact .inl rfl
  | peek => cases xs <;> exact .inl rfl
  | push =>
    by_cases hfits : xs.length < c
    · refine .inl ?_
      simp [bounded, hfits, Nat.lt_of_lt_of_le hfits h]
    · refine .inr ⟨rfl, c, ?_⟩
      simp [bounded, hfits]

theorem Program.inst?_of_prefix {p longer : Program} {address : UInt32} {inst : Inst}
    (h : p.cells <+: longer.cells) (hi : p.inst? address = some inst) :
    longer.inst? address = some inst := by
  obtain ⟨rest, hrest⟩ := h
  unfold inst? Tape.read at hi ⊢
  rw [← hrest, List.getElem?_append_left (lt_length_of_inst? hi)]
  exact hi

namespace Dispatcher

variable {σ : Type} {short long : Job σ} {s : σ} {d e : Dispatcher σ} {inst : Inst}

/-! ## 2. One instruction under both -/

/-- What an instruction raises, if it raises anything, is raised under larger limits too. -/
def RaisesPersisting (job : Job σ) (inst : Inst) (d : Dispatcher σ) : Prop :=
  ∀ fault, d.raised? job inst = some fault → fault.Persists

/-- Unless the engine of `short` overflows, the two engines serve an instruction alike. -/
theorem served_widens (h : short.Widens long) (hp : d.RaisesPersisting short inst) :
    d.served long inst = d.served short inst := by
  refine (h.engine inst.cmd inst.value d.contents).resolve_right ?_
  rintro ⟨_, c, hc⟩
  refine hp (.engine (.overflow c)) ?_
  have hreply : (d.served short inst).1 = .error (.overflow c) := hc
  unfold raised?
  rw [hreply]
  rfl

theorem attempts_widens (h : short.Widens long) : d.Attempts long inst ↔ d.Attempts short inst := by
  unfold Attempts recordsAnswer
  rw [h.recordPolicy]
  rcases h.engine inst.cmd inst.value d.contents with hserved | ⟨hpush, _⟩
  · have hserved : d.served long inst = d.served short inst := hserved
    rw [hserved]
  · -- A push answers nothing, so there is nothing to record.
    rw [hpush]
    simp [Command.records]

theorem writes_widens (h : short.Widens long) : d.Writes long inst ↔ d.Writes short inst := by
  unfold Writes
  rw [attempts_widens h, h.resultLimit]

theorem writeFault?_widens (h : short.Widens long) :
    d.writeFault? long inst = d.writeFault? short inst := by
  have hcapacity : long.config.resultCapacity = short.config.resultCapacity :=
    congrArg ResultLimit.capacity h.resultLimit
  unfold writeFault?
  rw [h.resultLimit, hcapacity]
  exact if_congr (and_congr_left' (attempts_widens h)) rfl rfl

/-- Where no ceiling is met, the higher one is not met either. -/
theorem ceilingFault?_widens (h : short.Widens long) (hd : Coherent short d)
    (hf : d.flag.fault = none) (hi : short.program.inst? d.i = some inst)
    (hr : ceilingFault? short.config.maxInstructions (d.i + 1) = none) :
    ceilingFault? long.config.maxInstructions (d.i + 1) = none := by
  have hadd : (d.i + 1).toNat = d.i.toNat + 1 :=
    Program.toNat_add_one (Program.lt_length_of_inst? hi)
  have hbelow : d.i.toNat < short.config.maxInstructions.toNat :=
    (hd.ceiling h.ceiling_pos).2 hf
  have hne : (d.i + 1).toNat ≠ short.config.maxInstructions.toNat :=
    mt UInt32.toNat_inj.mp (ceilingFault?_eq_none.mp hr)
  have hle : short.config.maxInstructions.toNat ≤ long.config.maxInstructions.toNat :=
    h.ceiling_le
  refine ceilingFault?_eq_none.mpr (mt (congrArg UInt32.toNat) ?_)
  omega

theorem raised?_widens (h : short.Widens long) (hd : Coherent short d)
    (hf : d.flag.fault = none) (hi : short.program.inst? d.i = some inst)
    (hp : d.RaisesPersisting short inst) : d.raised? long inst = d.raised? short inst := by
  unfold RaisesPersisting at hp
  unfold raised? at hp ⊢
  rw [served_widens h hp, writeFault?_widens h]
  cases hfirst : (replyFault? (d.served short inst).1).or (d.writeFault? short inst) with
  | some fault => rw [Option.some_or, Option.some_or]
  | none =>
    -- Only the fault of the ceiling is left, and that does not persist.
    rw [hfirst, Option.none_or] at hp
    have hr : ceilingFault? short.config.maxInstructions (d.i + 1) = none := by
      unfold ceilingFault? at hp ⊢
      split
      · next hc => exact absurd (hp _ (if_pos hc)) not_false
      · rfl
    rw [hr, ceilingFault?_widens h hd hf hi hr]

/-- An instruction that raises nothing, or what is raised under larger limits too, does the same
    under them. -/
theorem executed_widens (h : short.Widens long) (hd : Coherent short d)
    (hf : d.flag.fault = none) (hi : short.program.inst? d.i = some inst)
    (hp : d.RaisesPersisting short inst) : d.executed long inst = d.executed short inst := by
  have htaken : d.taken long inst = d.taken short inst := by
    unfold taken
    rw [served_widens h hp]
  have hwritten : d.written long inst = d.written short inst := by
    unfold written
    rw [htaken, h.resultLimit]
    exact if_congr (writes_widens h) rfl rfl
  unfold Dispatcher.executed
  rw [raised?_widens h hd hf hi hp, hwritten]

/-- Whatever is raised, the tape and the cursors are the same. -/
theorem executed_grows (h : short.Widens long) :
    Grows (d.executed short inst) (d.executed long inst) := by
  have hj : (d.executed long inst).j = (d.executed short inst).j := by
    rw [executed_j, executed_j]
    exact if_congr (writes_widens h) rfl rfl
  have hresults : (d.executed long inst).results = (d.executed short inst).results := by
    rw [executed_results, executed_results, h.resultLimit]
    by_cases hw : d.Writes short inst
    · have hserved : d.served long inst = d.served short inst := by
        refine (h.engine inst.cmd inst.value d.contents).resolve_right ?_
        rintro ⟨hpush, _⟩
        have hrecords := records_of_attempts hw.1
        rw [hpush] at hrecords
        cases hrecords
      rw [if_pos hw, if_pos ((writes_widens h).mpr hw), hserved]
    · rw [if_neg hw, if_neg (mt (writes_widens h).mp hw)]
  exact { slots := hresults ▸ List.prefix_refl _, i := UInt32.le_refl _,
          j := UInt32.le_of_eq hj.symm, discarded := hresults ▸ UInt32.le_refl _ }

/-! ## 3. Runs of both -/

/-- Where the shorter and the longer run stand after as many steps. -/
inductive Ahead : Dispatcher σ → Dispatcher σ → Prop
  | going {d : Dispatcher σ} (hgoing : ¬ d.Settled) : Ahead d d
  /-- Both have ended with a fault that no larger limit takes away. -/
  | ended {d : Dispatcher σ} {fault : Fault} (hfault : d.flag.fault = some fault)
      (hp : fault.Persists) : Ahead d d
  /-- The shorter run has ended otherwise, and the longer one is at least as far. -/
  | behind {d e : Dispatcher σ} (hset : d.Settled)
      (hlast : ∀ fault, d.flag.fault = some fault → ¬ fault.Persists) (hgrows : Grows d e) :
      Ahead d e

theorem Ahead.step (h : Ahead d e) (hw : short.Widens long) (hd : Coherent short d)
    (he : Coherent long e) : Ahead (step short d).state (step long e).state := by
  cases h with
  | going hgoing =>
    have hf : d.flag.fault = none := (not_settled.mp hgoing).1
    have hgrows := grows_step he
    cases hi : short.program.inst? d.i with
    | none =>
      rw [step_end hgoing hi]
      refine .behind (.inr rfl) (fun fault hfault => ?_) ?_
      · rw [hf] at hfault
        cases hfault
      · exact { slots := hgrows.slots, i := hgrows.i, j := hgrows.j,
                discarded := hgrows.discarded }
    | some inst =>
      rw [step_inst hgoing hi, step_inst hgoing (Program.inst?_of_prefix hw.program hi)]
      by_cases hp : d.RaisesPersisting short inst
      · rw [executed_widens hw hd hf hi hp]
        cases hr : d.raised? short inst with
        | none =>
          refine .going (not_settled.mpr ⟨hr, ?_⟩)
          rw [executed_status, hr]
          exact nofun
        | some fault => exact .ended hr (hp fault hr)
      · obtain ⟨fault, hlast⟩ := not_forall.mp hp
        obtain ⟨hr, hp⟩ := Classical.not_imp.mp hlast
        refine .behind (.inl ?_) (fun fault' hfault => ?_) (executed_grows hw)
        · rw [executed_fault, hr]
          exact nofun
        · rw [executed_fault, hr, Option.some.injEq] at hfault
          exact hfault ▸ hp
  | ended hfault hp =>
    have hset : d.Settled := .inl (hfault ▸ nofun)
    rw [step_settled hset, step_settled hset]
    exact .ended hfault hp
  | behind hset hlast hgrows =>
    rw [step_settled hset]
    exact .behind hset hlast (hgrows.trans (grows_step he))

theorem ahead_steps (hw : short.Widens long) (s : σ) (n : Nat) :
    Ahead (steps short n (start s)) (steps long n (start s)) := by
  refine steps_related ?_ (fun _ _ hd he h => h.step hw hd.coherent he.coherent) n
  exact .going (not_settled.mpr ⟨rfl, nofun⟩)

theorem ahead_run (hw : short.Widens long) (s : σ) :
    Ahead (run short (start s)).1 (run long (start s)).1 := by
  -- As many steps as the longer run takes are enough for the shorter one.
  have hlen : short.program.length ≤ (start s).i.toNat + long.program.length := by
    rw [show (start s).i.toNat = 0 from rfl, Nat.zero_add]
    exact hw.program.length_le
  rw [run_eq_steps (settled_steps short _ hlen), run_start]
  exact ahead_steps hw s _

/-- At the end of the shorter run, the longer one has ended in the same state, or it is at least as
    far. -/
theorem Ahead.of_settled (h : Ahead d e) (hd : d.Settled) :
    (∃ fault, d.flag.fault = some fault ∧ fault.Persists) ∧ e = d ∨
      (∀ fault, d.flag.fault = some fault → ¬ fault.Persists) ∧ Grows d e := by
  cases h with
  | going hgoing => exact absurd hd hgoing
  | ended hfault hp => exact .inl ⟨⟨_, hfault, hp⟩, rfl⟩
  | behind _ hlast hgrows => exact .inr ⟨hlast, hgrows⟩

/-! ## 4. The reports -/

section Reports

variable {p longer : Program} {config : Config} {kind : EngineKind} {c c' : Nat}

theorem boundedJob_widens {ceiling : UInt32} (hprogram : p.cells <+: longer.cells)
    (hpos : 1 ≤ config.maxInstructions) (hceiling : config.maxInstructions ≤ ceiling)
    (hcapacity : c ≤ c') :
    (boundedJob p config kind c).Widens (boundedJob longer
      { config with maxInstructions := ceiling, engineCapacity := c' } kind c') where
  program := hprogram
  engine cmd value xs := by
    obtain ⟨insert, _, hk⟩ := kind.exists_insert
    simp only [hk]
    exact Engine.bounded_apply_of_le hcapacity cmd value xs
  ceiling_pos := hpos
  ceiling_le := hceiling
  recordPolicy := rfl
  resultLimit := rfl

/-- The fault that ends a run is one of its own limits. -/
theorem fault_of_not_persists {d : Dispatcher (List UInt32)} {fault : Fault}
    (h : Reachable (boundedJob p config kind c) [] d) (hf : d.flag.fault = some fault)
    (hp : ¬ fault.Persists) :
    fault = .instructionCeiling config.maxInstructions ∨ fault = .engine (.overflow c) := by
  have hacc := h.accounted
  unfold Accounted at hacc
  rw [hf] at hacc
  obtain ⟨k, _, _, rfl⟩ := hacc
  unfold Program.stopFault at hp ⊢
  split
  · next he =>
    rw [if_pos he] at hp
    split
    · exact .inr rfl
    · next hpush =>
      rw [if_neg hpush] at hp
      exact absurd trivial hp
  · next he =>
    rw [if_neg he] at hp
    split
    · next ht =>
      rw [if_pos ht] at hp
      exact absurd trivial hp
    · exact .inl rfl

/-- Relaxing a limit or appending instructions only extends a run. If a run ends with an underflow
    or beyond the capacity of its result tape, a run of a longer program, under a ceiling and on an
    engine of a capacity that are at least as large, has the same report. Otherwise it has stopped,
    or met the ceiling or overflowed its engine, and then the longer run begins with its results
    and has counted at least as many instructions, results and dropped answers. -/
theorem run_extends (p longer : Program) (config : Config) (kind : EngineKind) (c c' : Nat)
    (ceiling : UInt32) (hprogram : p.cells <+: longer.cells)
    (hpos : 1 ≤ config.maxInstructions) (hceiling : config.maxInstructions ≤ ceiling)
    (hcapacity : c ≤ c') :
    let larger : Config := { config with maxInstructions := ceiling, engineCapacity := c' }
    let last := (run (boundedJob p config kind c) (start [])).1
    let short := last.report
    let long := (run (boundedJob longer larger kind c') (start [])).1.report
    let lasting := short.fault = some (.engine .underflow) ∨
      ∃ capacity, short.fault = some (.resultCapacity capacity)
    (lasting → long = short) ∧
    (¬ lasting →
      (last.status = .stopped ∨
        short.fault = some (.instructionCeiling config.maxInstructions) ∨
        short.fault = some (.engine (.overflow c))) ∧
      short.results <+: long.results ∧
      short.instructionsExecuted ≤ long.instructionsExecuted ∧
      short.resultsWritten ≤ long.resultsWritten ∧ short.discarded ≤ long.discarded) := by
  intro larger last short long lasting
  have hset : last.Settled := settled_run _ _
  have hreach : Reachable (boundedJob p config kind c) [] last := .run .start
  have hlasting : lasting ↔ ∃ fault, last.flag.fault = some fault ∧ fault.Persists := by
    have hfault : short.fault = last.flag.fault := rfl
    unfold lasting
    rw [hfault]
    cases last.flag.fault with
    | none => simp
    | some fault => simp [Fault.persists_iff]
  have hwidens : (boundedJob p config kind c).Widens (boundedJob longer larger kind c') :=
    boundedJob_widens hprogram hpos hceiling hcapacity
  have hahead := ahead_run hwidens []
  rcases hahead.of_settled hset with ⟨hp, hsame⟩ | ⟨hlast, hgrows⟩
  · exact ⟨fun _ => congrArg report hsame, fun hnot => absurd (hlasting.mpr hp) hnot⟩
  · refine ⟨fun hp => ?_, fun _ => ⟨?_, hgrows.slots, hgrows.i, hgrows.j, hgrows.discarded⟩⟩
    · obtain ⟨fault, hf, hp⟩ := hlasting.mp hp
      exact absurd hp (hlast fault hf)
    · cases hf : last.flag.fault with
      | none => exact .inl (hset.resolve_left fun hne => hne hf)
      | some fault =>
        have hown := fault_of_not_persists hreach hf (hlast fault hf)
        exact .inr (hown.imp (fun h => hf.trans (congrArg some h))
          fun h => hf.trans (congrArg some h))

/-- A run that underflows on the instruction that meets its ceiling, and one that meets its ceiling
    only: `pushPopPop` goes on behind both. -/
theorem run_extends_pushPopPop :
    let longer : Program := ⟨pushPopPop.cells ++ [(.push, 6)], by decide⟩
    let pushPop : Program := ⟨[(.push, 5), (.pop, 0)], by decide⟩
    let roomy : Config := { tight with maxInstructions := 9, engineCapacity := 4 }
    let short (p : Program) (config : Config) :=
      (run (boundedJob p config .fifo 1) (start [])).1.report
    let long (p : Program) (config : Config) :=
      (run (boundedJob p config .fifo 4) (start [])).1.report
    let narrow : Config := { maxInstructions := 2 }
    let wide : Config := { maxInstructions := 9, engineCapacity := 4 }
    ((short pushPopPop tight).fault = some (.engine .underflow) ∧
        long longer roomy = short pushPopPop tight) ∧
      (short pushPop narrow).fault = some (.instructionCeiling 2) ∧
        (short pushPop narrow).results <+: (long pushPopPop wide).results := by
  intro longer pushPop roomy short long narrow wide
  have hunderflow : (short pushPopPop tight).fault = some (.engine .underflow) := by decide
  have hmet : (short pushPop narrow).fault = some (.instructionCeiling 2) := by decide
  have hsame := (run_extends pushPopPop longer tight .fifo 1 4 9 (List.prefix_append _ _)
    (by decide) (by decide) (by decide)).1 (.inl hunderflow)
  have hlonger := (run_extends pushPop pushPopPop narrow .fifo 1 4 9 (List.prefix_append _ _)
    (by decide) (by decide) (by decide)).2
  refine ⟨⟨hunderflow, hsame⟩, hmet, (hlonger ?_).2.1⟩
  rintro (h | ⟨capacity, h⟩) <;> cases hmet.symm.trans h

end Reports

end Dispatcher

end CommandTape
