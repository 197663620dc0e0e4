import CommandTape.Proofs.Feed
import CommandTape.Proofs.Growth
import Mathlib.Logic.Basic

/-!
# Overflow policies

What becomes of an answer beyond the result tape's capacity is a policy, and the three policies
agree up to truncation.

* `run_grow`: on a tape that grows, a run does not depend on the capacity.
* `Truncated.step`: a run that drops answers goes through the states of the run that grows, with
  the tape cut off at the capacity.
* `steps_fault`: a run that faults goes through the states of the run that grows while the
  answers fit.
* `overflow_policies_agree`: the three runs compared, from the first answer to the last.
-/

namespace CommandTape

/-- The job under another overflow policy. -/
def Job.withPolicy (job : Job σ) (policy : OverflowPolicy) : Job σ :=
  { job with config := { job.config with overflowPolicy := policy } }

/-- The job with another capacity of the result tape. -/
def Job.withCapacity (job : Job σ) (capacity : UInt32) : Job σ :=
  { job with config := { job.config with resultCapacity := capacity } }

/-! ## 1. One write under two policies -/

theorem ResultTape.write_grow (c₁ c₂ j value : UInt32) (tape : ResultTape) :
    tape.write ⟨c₁, .grow⟩ j value = tape.write ⟨c₂, .grow⟩ j value := by
  simp [write_eq, ResultLimit.Refuses, put]

/-- A write that is dropped is one that the cut takes away. -/
theorem ResultTape.slots_put_discard {c j value : UInt32} {tape tape' : ResultTape}
    (hlen : tape.slots.length = j.toNat) (h : tape'.slots = tape.slots.take c.toNat) :
    (tape'.put ⟨c, .discard⟩ j value).slots =
      (tape.put ⟨c, .grow⟩ j value).slots.take c.toNat :=
  @slots_put ⟨c, .discard⟩ j tape' tape.slots h hlen.symm value

namespace Dispatcher

variable {σ : Type} {job : Job σ} {s : σ} {d : Dispatcher σ} {inst : Inst}

/-! ## 2. A tape that grows -/

theorem recording_grow (job : Job σ) (capacity : UInt32) (inst : Inst) (reply : Reply)
    (d : Dispatcher σ) :
    d.recording ((job.withPolicy .grow).withCapacity capacity) inst reply =
      d.recording (job.withPolicy .grow) inst reply := by
  have hrecord : d.record ⟨capacity, .grow⟩ = d.record ⟨job.config.resultCapacity, .grow⟩ := by
    unfold record
    rw [ResultTape.write_grow]
  exact if_congr Iff.rfl hrecord rfl

theorem step_grow (job : Job σ) (capacity : UInt32) (d : Dispatcher σ) :
    step ((job.withPolicy .grow).withCapacity capacity) d = step (job.withPolicy .grow) d := by
  have hexecute : ∀ inst, execute ((job.withPolicy .grow).withCapacity capacity) inst d =
      execute (job.withPolicy .grow) inst d := by
    intro inst
    rcases h₁ : (d.latched inst).dispatch job.engine with ⟨reply, d₁, log₁⟩
    rcases h₂ : d₁.recording (job.withPolicy .grow) inst reply with ⟨recorded, d₂, log₂⟩
    rcases h₃ : d₂.advance job.config.maxInstructions with ⟨d₃, log₃⟩
    have h₂' := (recording_grow job capacity inst reply d₁).trans h₂
    have hgrown : execute (job.withPolicy .grow) inst d = _ := execute_eq h₁ h₂ h₃
    rw [hgrown]
    exact execute_eq h₁ h₂' h₃
  unfold step
  simp only [hexecute]
  rfl

/-- On a tape that grows, a run does not depend on the capacity, nor does its log. -/
theorem run_grow (job : Job σ) (capacity : UInt32) (d : Dispatcher σ) :
    run ((job.withPolicy .grow).withCapacity capacity) d = run (job.withPolicy .grow) d :=
  run_congr rfl fun _ => step_grow job capacity _

/-! ## 3. A tape that drops -/

/-- A tape that does not fault refuses nothing. -/
theorem writes_iff_attempts (policy : OverflowPolicy) (h : policy ≠ .fault) :
    d.Writes (job.withPolicy policy) inst ↔ d.Attempts job inst :=
  ⟨fun hw => hw.1, fun ha => ⟨ha, fun hr => h hr.1⟩⟩

theorem writeFault?_eq_none (policy : OverflowPolicy) (h : policy ≠ .fault) :
    d.writeFault? (job.withPolicy policy) inst = none :=
  if_neg fun hw => h hw.2.1

/-- The state `d` is the state `g` with its tape cut off at `c`. -/
structure Truncated (c : UInt32) (g d : Dispatcher σ) : Prop where
  contents : d.contents = g.contents
  status : d.status = g.status
  flag : d.flag.fault = g.flag.fault
  i : d.i = g.i
  j : d.j = g.j
  ans : d.ans = g.ans
  slots : d.results.slots = g.results.slots.take c.toNat

variable {g : Dispatcher σ}

theorem Truncated.settled_iff {c : UInt32} (h : Truncated c g d) : d.Settled ↔ g.Settled := by
  unfold Settled
  rw [h.flag, h.status]

theorem Truncated.executed (h : Truncated job.config.resultCapacity g d)
    (hg : Coherent (job.withPolicy .grow) g) :
    Truncated job.config.resultCapacity (g.executed (job.withPolicy .grow) inst)
      (d.executed (job.withPolicy .discard) inst) := by
  have hserved : d.served (job.withPolicy .discard) inst =
      g.served (job.withPolicy .grow) inst := by
    unfold served
    rw [h.contents]
    rfl
  have hraised : d.raised? (job.withPolicy .discard) inst =
      g.raised? (job.withPolicy .grow) inst := by
    unfold raised?
    rw [writeFault?_eq_none .discard nofun, writeFault?_eq_none .grow nofun, hserved, h.i]
    rfl
  have hattempts : d.Attempts job inst ↔ g.Attempts job inst := by
    unfold Attempts
    exact hserved ▸ Iff.rfl
  have hwrites : d.Writes (job.withPolicy .discard) inst ↔
      g.Writes (job.withPolicy .grow) inst := by
    rw [writes_iff_attempts .discard nofun, writes_iff_attempts .grow nofun, hattempts]
  refine { contents := ?_, status := ?_, flag := ?_, i := ?_, j := ?_, ans := ?_, slots := ?_ }
  · rw [executed_contents, executed_contents, hserved]
  · rw [executed_status, executed_status, hraised]
  · rw [executed_fault, executed_fault, hraised]
  · rw [executed_i, executed_i, h.i]
  · rw [executed_j, executed_j, h.j]
    exact if_congr hwrites rfl rfl
  · rw [executed_ans, executed_ans, h.ans, hserved]
  · rw [executed_results, executed_results]
    by_cases hw : g.Writes (job.withPolicy .grow) inst
    · rw [if_pos hw, if_pos (hwrites.mpr hw), h.j, h.ans, hserved]
      exact ResultTape.slots_put_discard hg.results.1 h.slots
    · rw [if_neg hw, if_neg fun hw' => hw (hwrites.mp hw')]
      exact h.slots

theorem Truncated.step (h : Truncated job.config.resultCapacity g d)
    (hg : Coherent (job.withPolicy .grow) g) :
    Truncated job.config.resultCapacity (step (job.withPolicy .grow) g).state
      (step (job.withPolicy .discard) d).state := by
  by_cases hset : g.Settled
  · rw [step_settled hset, step_settled (h.settled_iff.mpr hset)]
    exact h
  · have hset' : ¬ d.Settled := fun hd => hset (h.settled_iff.mp hd)
    have hinst : (job.withPolicy .discard).program.inst? d.i =
        (job.withPolicy .grow).program.inst? g.i := congrArg job.program.inst? h.i
    cases hi : (job.withPolicy .grow).program.inst? g.i with
    | none =>
      rw [step_end hset hi, step_end hset' (hinst.trans hi)]
      exact { contents := h.contents, status := rfl, flag := h.flag, i := h.i, j := h.j,
              ans := h.ans, slots := h.slots }
    | some inst =>
      rw [step_inst hset hi, step_inst hset' (hinst.trans hi)]
      exact h.executed hg

/-- A run that drops answers goes through the states of the run that grows, cut off. -/
theorem truncated_steps (job : Job σ) (s : σ) (n : Nat) :
    Truncated job.config.resultCapacity (steps (job.withPolicy .grow) n (start s))
      (steps (job.withPolicy .discard) n (start s)) := by
  refine steps_related ?_ (fun _ _ hg _ h => h.step hg.coherent) n
  exact { contents := rfl, status := rfl, flag := rfl, i := rfl, j := rfl, ans := rfl,
          slots := List.take_nil.symm }

/-! ## 4. A tape that faults, while the answers fit -/

/-- An instruction whose answer fits does the same on a tape that faults and one that grows. -/
theorem executed_fault_eq (h : ¬ (g.Attempts job inst ∧ job.config.resultCapacity ≤ g.j)) :
    g.executed (job.withPolicy .fault) inst = g.executed (job.withPolicy .grow) inst := by
  have hraised : g.raised? (job.withPolicy .fault) inst =
      g.raised? (job.withPolicy .grow) inst := by
    have hfault : g.writeFault? (job.withPolicy .fault) inst = none :=
      if_neg fun hw => h ⟨hw.1, hw.2.2⟩
    unfold raised?
    rw [hfault, writeFault?_eq_none .grow nofun]
    rfl
  have hwritten : g.written (job.withPolicy .fault) inst =
      g.written (job.withPolicy .grow) inst := by
    unfold written
    by_cases ha : g.Attempts job inst
    · have hfault : g.Writes (job.withPolicy .fault) inst := ⟨ha, fun hr => h ⟨ha, hr.2⟩⟩
      rw [if_pos hfault, if_pos ((writes_iff_attempts .grow nofun).mpr ha)]
      rfl
    · rw [if_neg fun hw => ha hw.1, if_neg fun hw => ha hw.1]
      rfl
  unfold Dispatcher.executed
  rw [hraised, hwritten]

theorem step_fault (hg : Coherent (job.withPolicy .grow) g)
    (h : (step (job.withPolicy .grow) g).state.j.toNat ≤ job.config.resultCapacity.toNat) :
    (step (job.withPolicy .fault) g).state = (step (job.withPolicy .grow) g).state := by
  by_cases hset : g.Settled
  · rw [step_settled hset, step_settled hset]
  · cases hi : (job.withPolicy .grow).program.inst? g.i with
    | none =>
      have hi' : (job.withPolicy .fault).program.inst? g.i = none := hi
      rw [step_end hset hi, step_end hset hi']
    | some inst =>
      have hi' : (job.withPolicy .fault).program.inst? g.i = some inst := hi
      rw [step_inst hset hi] at h ⊢
      rw [step_inst hset hi', executed_fault_eq]
      -- An answer on a full tape would take the run that grows beyond the capacity.
      rintro ⟨ha, hj⟩
      have hj' : job.config.resultCapacity.toNat ≤ g.j.toNat := hj
      have hw : g.Writes (job.withPolicy .grow) inst := (writes_iff_attempts .grow nofun).mpr ha
      rw [toNat_executed_j hg hi, if_pos hw] at h
      omega

/-- A run that faults goes through the states of the run that grows while the answers fit. -/
theorem steps_fault (job : Job σ) (s : σ) (n : Nat)
    (h : (steps (job.withPolicy .grow) n (start s)).j.toNat ≤ job.config.resultCapacity.toNat) :
    steps (job.withPolicy .fault) n (start s) = steps (job.withPolicy .grow) n (start s) := by
  induction n with
  | zero => rfl
  | succ n ih =>
    have hg : Coherent (job.withPolicy .grow) (steps (job.withPolicy .grow) n (start s)) :=
      (Reachable.start.steps n).coherent
    rw [steps_succ] at h
    rw [steps_succ, steps_succ, ih (Nat.le_trans (grows_step hg).j h)]
    exact step_fault hg h

/-! ## 5. The first answer that does not fit -/

/-- In a run from `s`, instruction `p` makes a write that finds `c` writes before it. -/
def WritesSlot (job : Job σ) (s : σ) (c p : Nat) : Prop :=
  let before := steps job p (start s)
  let after := steps job (p + 1) (start s)
  before.i.toNat = p ∧ before.j.toNat = c ∧ after.i.toNat = p + 1 ∧ after.j.toNat = c + 1

/-- The step that takes the result cursor beyond `c`. -/
theorem exists_crossing (job : Job σ) (s : σ) (c n : Nat)
    (h : c < (steps job n (start s)).j.toNat) :
    ∃ p < n, (steps job p (start s)).j.toNat ≤ c ∧
      c < (steps job (p + 1) (start s)).j.toNat := by
  induction n with
  | zero => exact absurd h (Nat.not_lt_zero c)
  | succ n ih =>
    by_cases hn : c < (steps job n (start s)).j.toNat
    · obtain ⟨p, hp, hc⟩ := ih hn
      exact ⟨p, Nat.lt_succ_of_lt hp, hc⟩
    · exact ⟨n, Nat.lt_succ_self n, Nat.le_of_not_lt hn, h⟩

/-- What there is to know of the instruction that writes beyond `c`. -/
theorem exists_writesSlot (job : Job σ) (s : σ) (c n : Nat)
    (h : c < (steps job n (start s)).j.toNat) :
    ∃ p < n, WritesSlot job s c p ∧ ∃ inst, ¬ (steps job p (start s)).Settled ∧
      job.program.inst? (steps job p (start s)).i = some inst ∧
      (steps job p (start s)).Writes job inst := by
  obtain ⟨p, hp, hle, hlt⟩ := exists_crossing job s c n h
  have hg : Coherent job (steps job p (start s)) := (Reachable.start.steps p).coherent
  have hsucc : steps job (p + 1) (start s) = _ := steps_succ job p (start s)
  -- The cursor moves in this step, so the step executes an instruction, and that one writes.
  have hset : ¬ (steps job p (start s)).Settled := by
    intro hset
    rw [hsucc, step_settled hset] at hlt
    exact Nat.not_lt.mpr hle hlt
  have hi := toNat_i_of_not_settled job s p hset
  cases hinst : job.program.inst? (steps job p (start s)).i with
  | none =>
    rw [hsucc, step_end hset hinst] at hlt
    exact absurd hlt (Nat.not_lt.mpr hle)
  | some inst =>
    rw [step_inst hset hinst] at hsucc
    have hadd := Program.toNat_add_one (Program.lt_length_of_inst? hinst)
    have hj := toNat_executed_j hg hinst
    rw [hsucc, hj] at hlt
    have hw : (steps job p (start s)).Writes job inst := by
      refine Decidable.byContradiction fun hw => ?_
      rw [if_neg hw] at hlt
      omega
    rw [if_pos hw] at hj hlt
    refine ⟨p, hp, ⟨hi, ?_, ?_, ?_⟩, inst, hset, hinst, hw⟩
    · omega
    · rw [hsucc, executed_i, hadd, hi]
    · rw [hsucc, hj]
      omega

/-- An instruction whose answer does not fit: the engine's fault comes before that of the tape,
    and both before that of the ceiling. -/
theorem executed_full (ha : g.Attempts job inst) (hj : job.config.resultCapacity ≤ g.j) :
    let e := g.executed (job.withPolicy .fault) inst
    e.results = g.results ∧ e.j = g.j ∧
      e.flag.fault = some ((replyFault? (g.served job inst).1).getD
        (.resultCapacity job.config.resultCapacity)) := by
  have hrefuses : (job.withPolicy .fault).config.resultLimit.Refuses g.j := ⟨rfl, hj⟩
  have hw : ¬ g.Writes (job.withPolicy .fault) inst := fun hw => hw.2 hrefuses
  have hfault : g.writeFault? (job.withPolicy .fault) inst =
      some (.resultCapacity job.config.resultCapacity) := if_pos ⟨ha, hrefuses⟩
  refine ⟨?_, ?_, ?_⟩
  · rw [executed_results, if_neg hw]
  · rw [executed_j, if_neg hw]
  · rw [executed_fault]
    unfold raised?
    rw [hfault]
    cases hr : replyFault? (g.served job inst).1 with
    | none =>
      have hr' : replyFault? (g.served (job.withPolicy .fault) inst).1 = none := hr
      rw [hr']
      rfl
    | some fault =>
      have hr' : replyFault? (g.served (job.withPolicy .fault) inst).1 = some fault := hr
      rw [hr']
      rfl

/-! ## 6. Whole runs -/

/-- A run that drops answers, compared with the run that grows. -/
theorem run_discard (job : Job σ) (s : σ) :
    let grown := (run (job.withPolicy .grow) (start s)).1
    let dropped := (run (job.withPolicy .discard) (start s)).1
    Truncated job.config.resultCapacity grown dropped ∧
      dropped.results.discarded.toNat =
        grown.j.toNat - min job.config.resultCapacity.toNat grown.j.toNat := by
  intro grown dropped
  have htrunc : Truncated job.config.resultCapacity grown dropped := by
    unfold grown dropped
    rw [run_start, run_start]
    exact truncated_steps job s _
  have hcoh : Coherent (job.withPolicy .discard) dropped := (Reachable.run .start).coherent
  obtain ⟨(hlen : dropped.results.slots.length = min dropped.j.toNat _), hdisc⟩ := hcoh.results
  refine ⟨htrunc, ?_⟩
  rw [hdisc, hlen, htrunc.j, Nat.min_comm]
  rfl

/-- A run that faults, compared with the run that grows, if all its answers fit. -/
theorem run_fault_of_le (job : Job σ) (s : σ)
    (h : (run (job.withPolicy .grow) (start s)).1.j ≤ job.config.resultCapacity) :
    (run (job.withPolicy .fault) (start s)).1 = (run (job.withPolicy .grow) (start s)).1 := by
  rw [run_start] at h ⊢
  rw [run_start]
  exact steps_fault job s _ h

/-- The run that faults ends with the first answer that does not fit. -/
theorem run_fault_full {p : Nat} (hg : steps (job.withPolicy .grow) p (start s) = g)
    (hset : ¬ g.Settled) (hinst : job.program.inst? g.i = some inst) (ha : g.Attempts job inst)
    (hj : g.j = job.config.resultCapacity) :
    (run (job.withPolicy .fault) (start s)).1 = g.executed (job.withPolicy .fault) inst := by
  have hbefore : steps (job.withPolicy .fault) p (start s) = g := by
    rw [← hg]
    exact steps_fault job s p (UInt32.le_of_eq (hg.symm ▸ hj))
  have hafter : steps (job.withPolicy .fault) (p + 1) (start s) =
      g.executed (job.withPolicy .fault) inst := by
    have hinst' : (job.withPolicy .fault).program.inst? g.i = some inst := hinst
    rw [steps_succ, hbefore, step_inst hset hinst']
  have hfault := (executed_full ha (UInt32.le_of_eq hj.symm)).2.2
  rw [← hafter] at hfault ⊢
  exact run_eq_steps (.inl (hfault ▸ nofun))

/-- A run that faults, compared with the run that grows, if there is an answer too many. -/
theorem run_fault_of_lt (job : Job σ) (s : σ)
    (h : job.config.resultCapacity < (run (job.withPolicy .grow) (start s)).1.j) :
    let grown := (run (job.withPolicy .grow) (start s)).1
    let faulted := (run (job.withPolicy .fault) (start s)).1
    ∃ p, WritesSlot (job.withPolicy .grow) s job.config.resultCapacity.toNat p ∧
      faulted.results.slots = grown.results.slots.take job.config.resultCapacity.toNat ∧
      faulted.results.discarded = 0 ∧
      faulted.j = job.config.resultCapacity ∧
      faulted.i.toNat = p + 1 ∧
      ((∃ fault, job.engine.reply? job.program.cells s p = some (.error fault) ∧
          faulted.flag.fault = some (.engine fault) ∧ grown.flag.fault = some (.engine fault)) ∨
        (¬ job.engine.FaultsAt job.program.cells s p ∧
          faulted.flag.fault = some (.resultCapacity job.config.resultCapacity))) := by
  intro grown faulted
  have hlt : job.config.resultCapacity.toNat <
      (steps (job.withPolicy .grow) (job.program.length + 1) (start s)).j.toNat := by
    rw [run_start] at h
    exact h
  obtain ⟨p, hp, hslot, inst, hset, hinst, hw⟩ := exists_writesSlot _ s _ _ hlt
  obtain ⟨g, hg⟩ : ∃ g, steps (job.withPolicy .grow) p (start s) = g := ⟨_, rfl⟩
  have hreach : Reachable (job.withPolicy .grow) s g := hg ▸ Reachable.start.steps p
  have hj : g.j = job.config.resultCapacity := UInt32.toNat_inj.mp (hg ▸ hslot.2.1)
  have hi : g.i.toNat = p := hg ▸ hslot.1
  rw [hg] at hset hinst hw
  have ha : g.Attempts job inst := hw.1
  obtain ⟨hlen, hdisc⟩ := hreach.coherent.results
  have hfaulted : faulted = g.executed (job.withPolicy .fault) inst :=
    run_fault_full hg hset hinst ha hj
  obtain ⟨hresults, hej, hflag⟩ := executed_full ha (UInt32.le_of_eq hj.symm)
  rw [← hfaulted] at hresults hej hflag
  have hreply : job.engine.reply? job.program.cells s p = some (g.served job inst).1 :=
    hi ▸ hreach.fed.reply?_eq hinst
  refine ⟨p, hslot, ?_, ?_, ?_, ?_, ?_⟩
  · have hpre : g.results.slots <+: grown.results.slots := by
      obtain ⟨m, hm⟩ := Nat.exists_eq_add_of_le (Nat.le_of_lt hp)
      have hgrown : grown = steps (job.withPolicy .grow) (job.program.length + 1) (start s) :=
        run_start _ s
      rw [hgrown, hm, steps_add, hg]
      exact (grows_steps hreach m).slots
    rw [hresults, ← hj, ← hlen]
    exact List.prefix_iff_eq_take.mp hpre
  · rw [hresults, hdisc]
  · rw [hej, hj]
  · rw [hfaulted, executed_i, Program.toNat_add_one (Program.lt_length_of_inst? hinst), hi]
  · cases hr : (g.served job inst).1 with
    | ok answer =>
      rw [hr] at hreply hflag
      refine .inr ⟨?_, hflag⟩
      rintro ⟨fault, hfault⟩
      rw [hreply] at hfault
      cases hfault
    | error fault =>
      rw [hr] at hreply hflag
      refine .inl ⟨fault, hreply, hflag, ?_⟩
      -- The same fault ends the run that grows.
      have hraised : g.raised? (job.withPolicy .grow) inst = some (.engine fault) := by
        have hr' : (g.served (job.withPolicy .grow) inst).1 = .error fault := hr
        unfold raised?
        rw [hr']
        rfl
      have hafter : steps (job.withPolicy .grow) (p + 1) (start s) =
          g.executed (job.withPolicy .grow) inst := by
        rw [steps_succ, hg, step_inst hset hinst]
      have hend : grown = g.executed (job.withPolicy .grow) inst := by
        rw [← hafter]
        refine run_eq_steps (.inl ?_)
        rw [hafter, executed_fault, hraised]
        exact nofun
      rw [hend, executed_fault, hraised]

/-- The three policies agree up to truncation. What a run that grows does is the measure, and it
    does not depend on the capacity. A run that drops answers differs from it in the answers beyond
    the capacity only. So does a run that faults if there are none; if there are, it ends with the
    instruction that makes the first of them, with the engine's fault if the engine faulted on that
    instruction, and otherwise with that of the tape. -/
theorem overflow_policies_agree (job : Job σ) (s : σ) :
    let grown := (run (job.withPolicy .grow) (start s)).1
    let dropped := (run (job.withPolicy .discard) (start s)).1
    let faulted := (run (job.withPolicy .fault) (start s)).1
    let c := job.config.resultCapacity
    (∀ capacity, (run ((job.withPolicy .grow).withCapacity capacity) (start s)).1 = grown) ∧
    (dropped.report.results = grown.report.results.take c.toNat ∧
      dropped.report.fault = grown.report.fault ∧
      dropped.report.instructionsExecuted = grown.report.instructionsExecuted ∧
      dropped.report.resultsWritten = grown.report.resultsWritten ∧
      dropped.report.discarded.toNat =
        grown.report.resultsWritten.toNat - min c.toNat grown.report.resultsWritten.toNat ∧
      dropped.status = grown.status ∧ dropped.contents = grown.contents) ∧
    (grown.report.resultsWritten ≤ c → faulted.report = grown.report) ∧
    (c < grown.report.resultsWritten →
      ∃ p, WritesSlot (job.withPolicy .grow) s c.toNat p ∧
        faulted.report.results = grown.report.results.take c.toNat ∧
        faulted.report.discarded = 0 ∧
        faulted.report.resultsWritten = c ∧
        faulted.report.instructionsExecuted.toNat = p + 1 ∧
        ((∃ fault, job.engine.reply? job.program.cells s p = some (.error fault) ∧
            faulted.report.fault = some (.engine fault) ∧
            grown.report.fault = some (.engine fault)) ∨
          (¬ job.engine.FaultsAt job.program.cells s p ∧
            faulted.report.fault = some (.resultCapacity c)))) := by
  intro grown dropped faulted c
  obtain ⟨htrunc, hdisc⟩ := run_discard job s
  refine ⟨fun capacity => ?_, ?_, fun h => ?_, fun h => run_fault_of_lt job s h⟩
  · exact congrArg Prod.fst (run_grow job capacity (start s))
  · exact ⟨htrunc.slots, htrunc.flag, htrunc.i, htrunc.j, hdisc, htrunc.status, htrunc.contents⟩
  · exact congrArg report (run_fault_of_le job s h)

/-- A stale answer that does not fit, on the instruction that meets the ceiling. -/
theorem overflow_policies_agree_pushPopPop :
    let job : Job (List UInt32) := ⟨pushPopPop, Engine.fifo 1, tight⟩
    let roomy : Job (List UInt32) := ⟨pushPopPop, Engine.fifo 1, {}⟩
    (1 < (run (job.withPolicy .grow) (start [])).1.report.resultsWritten ∧
      ∃ p, WritesSlot (job.withPolicy .grow) [] 1 p ∧
        (run (job.withPolicy .fault) (start [])).1.report.instructionsExecuted.toNat = p + 1) ∧
    (run (roomy.withPolicy .grow) (start [])).1.report.resultsWritten ≤ 10 ∧
      (run (roomy.withPolicy .fault) (start [])).1.report =
        (run (roomy.withPolicy .grow) (start [])).1.report := by
  intro job roomy
  have hlt : 1 < (run (job.withPolicy .grow) (start [])).1.report.resultsWritten := by decide
  have hle : (run (roomy.withPolicy .grow) (start [])).1.report.resultsWritten ≤ 10 := by decide
  obtain ⟨p, hslot, _, _, _, hi, _⟩ := (overflow_policies_agree job []).2.2.2 hlt
  exact ⟨⟨hlt, p, hslot, hi⟩, hle, (overflow_policies_agree roomy []).2.2.1 hle⟩

end Dispatcher

end CommandTape
