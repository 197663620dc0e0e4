import CommandTape.Proofs.Feed
import Mathlib.Logic.Basic

/-!
# Record policies

The record policy is looked at only where the engine faults on a pop or a peek. Such a fault ends
the run. So two runs that differ in the policy go through the same states up to their last
instruction, and there one of them may write the stale answer that the other leaves out.

* `executed_answered`: the policy makes no difference to an instruction that the engine serves, or
  that does not answer.
* `executed_unanswered`: otherwise one policy does what the other does, and one write more.
* `Abreast.step`: the two runs are in the same state, or such an instruction has ended them both.
* `record_policies_agree`: the two runs compared.
-/

namespace CommandTape

/-- The job under another record policy. -/
def Job.withRecordPolicy (job : Job σ) (policy : RecordPolicy) : Job σ :=
  { job with config := { job.config with recordPolicy := policy } }

/-- Instruction `k` is a pop or a peek on which the engine faults. -/
def Job.UnansweredAt (job : Job σ) (s : σ) (k : Nat) : Prop :=
  job.program.AnswersAt k ∧ job.engine.FaultsAt job.program.cells s k

namespace Dispatcher

variable {σ : Type} {job : Job σ} {s : σ} {d : Dispatcher σ} {inst : Inst}

/-! ## 1. One instruction under both policies -/

/-- The instruction is a pop or a peek on which the engine faults now. -/
def Unanswered (job : Job σ) (inst : Inst) (d : Dispatcher σ) : Prop :=
  inst.cmd.records = true ∧ replyFault? (d.served job inst).1 ≠ none

/-- Whether the next instruction is left unanswered can be read off the program. -/
theorem Fed.unansweredAt_iff (h : Fed job s d) (hi : job.program.inst? d.i = some inst) :
    job.UnansweredAt s d.i.toNat ↔ d.Unanswered job inst := by
  have hcell := Program.cell_of_inst? hi
  unfold Job.UnansweredAt Unanswered Dispatcher.served
  rw [Program.answersAt_iff hcell, Engine.faultsAt_iff _ hcell, ← h.contents]

theorem attempts_always :
    d.Attempts (job.withRecordPolicy .always) inst ↔ inst.cmd.records = true := by
  simp [Attempts, recordsAnswer, Job.withRecordPolicy]

theorem attempts_skipOnFault :
    d.Attempts (job.withRecordPolicy .skipOnFault) inst ↔
      inst.cmd.records = true ∧ replyFault? (d.served job inst).1 = none := by
  have hreply : d.Attempts (job.withRecordPolicy .skipOnFault) inst ↔
      recordsAnswer .skipOnFault inst.cmd (d.served job inst).1 = true := Iff.rfl
  rw [hreply, replyFault?_eq_none]
  simp [recordsAnswer]

theorem executed_answered (h : ¬ d.Unanswered job inst) :
    d.executed (job.withRecordPolicy .always) inst =
      d.executed (job.withRecordPolicy .skipOnFault) inst := by
  have hattempts : d.Attempts (job.withRecordPolicy .always) inst ↔
      d.Attempts (job.withRecordPolicy .skipOnFault) inst := by
    rw [attempts_always, attempts_skipOnFault]
    exact ⟨fun hc => ⟨hc, not_not.mp fun hr => h ⟨hc, hr⟩⟩, And.left⟩
  have hwritten : d.written (job.withRecordPolicy .always) inst =
      d.written (job.withRecordPolicy .skipOnFault) inst :=
    if_congr (and_congr_left' hattempts) rfl rfl
  have hfault : d.writeFault? (job.withRecordPolicy .always) inst =
      d.writeFault? (job.withRecordPolicy .skipOnFault) inst :=
    if_congr (and_congr_left' hattempts) rfl rfl
  unfold Dispatcher.executed raised?
  rw [hwritten, hfault]
  rfl

/-- The fault of the engine comes first, whatever the policy. -/
theorem raised?_unanswered (h : d.Unanswered job inst) (policy : RecordPolicy) :
    d.raised? (job.withRecordPolicy policy) inst = replyFault? (d.served job inst).1 := by
  have hserved : d.served (job.withRecordPolicy policy) inst = d.served job inst := rfl
  obtain ⟨fault, hr⟩ := Option.ne_none_iff_exists'.mp h.2
  unfold raised?
  rw [hserved, hr, Option.some_or, Option.some_or]

/-- The answer register is stale by then: the last answer is still in it. -/
theorem taken_unanswered (h : d.Unanswered job inst) :
    d.taken job inst =
      { d with contents := (d.served job inst).2, cmd := inst.cmd, value := inst.value } := by
  have hstale : register d.ans (d.served job inst).1 = d.ans := by
    cases hr : (d.served job inst).1 with
    | ok answer => exact absurd (hr ▸ rfl) h.2
    | error fault => rfl
  unfold taken
  rw [hstale]

/-- Where the engine leaves an instruction unanswered, the policy that records always does what
    the other does, and then it writes the stale answer, if the tape does not refuse. -/
theorem executed_unanswered (h : d.Unanswered job inst) :
    d.executed (job.withRecordPolicy .always) inst =
      if job.config.resultLimit.Refuses d.j then
        d.executed (job.withRecordPolicy .skipOnFault) inst
      else { d.executed (job.withRecordPolicy .skipOnFault) inst with
        results := d.results.put job.config.resultLimit d.j d.ans
        j := d.j + 1 } := by
  have hraised := raised?_unanswered h
  have htaken (policy : RecordPolicy) : d.taken (job.withRecordPolicy policy) inst =
      { d with contents := (d.served job inst).2, cmd := inst.cmd, value := inst.value } :=
    taken_unanswered h
  have hskip : ¬ d.Writes (job.withRecordPolicy .skipOnFault) inst :=
    fun hw => h.2 (attempts_skipOnFault.mp hw.1).2
  unfold Dispatcher.executed written
  simp only [hraised, htaken, if_neg hskip]
  by_cases hr : job.config.resultLimit.Refuses d.j
  · have hwrites : ¬ d.Writes (job.withRecordPolicy .always) inst := fun hw => hw.2 hr
    rw [if_pos hr, if_neg hwrites]
  · have hwrites : d.Writes (job.withRecordPolicy .always) inst := ⟨attempts_always.mpr h.1, hr⟩
    rw [if_neg hr, if_pos hwrites]
    rfl

/-! ## 2. Runs under both policies -/

/-- Where two runs stand after as many steps, the first of which records always and the second
    skips on a fault. -/
inductive Abreast (job : Job σ) (s : σ) : Dispatcher σ → Dispatcher σ → Prop
  /-- They are in the same state, and no instruction has been left unanswered. -/
  | same {d : Dispatcher σ} (hreach : Reachable (job.withRecordPolicy .skipOnFault) s d)
      (hnone : ∀ k < d.i.toNat, ¬ job.UnansweredAt s k) : Abreast job s d d
  /-- An instruction that was left unanswered has ended both. -/
  | ended {d : Dispatcher σ} {inst : Inst}
      (hreach : Reachable (job.withRecordPolicy .skipOnFault) s d)
      (hi : job.program.inst? d.i = some inst) (hun : d.Unanswered job inst) :
      Abreast job s (d.executed (job.withRecordPolicy .always) inst)
        (d.executed (job.withRecordPolicy .skipOnFault) inst)

variable {always skipping : Dispatcher σ}

theorem Abreast.step (h : Abreast job s always skipping) :
    Abreast job s (step (job.withRecordPolicy .always) always).state
      (step (job.withRecordPolicy .skipOnFault) skipping).state := by
  cases h with
  | same hreach hnone =>
    by_cases hset : always.Settled
    · rw [step_settled hset, step_settled hset]
      exact .same hreach hnone
    · have hinst (policy : RecordPolicy) : (job.withRecordPolicy policy).program.inst? always.i =
          job.program.inst? always.i := rfl
      have hnext := hreach.step
      cases hi : job.program.inst? always.i with
      | none =>
        rw [step_end hset ((hinst .skipOnFault).trans hi)] at hnext ⊢
        rw [step_end hset ((hinst .always).trans hi)]
        exact .same hnext hnone
      | some inst =>
        rw [step_inst hset ((hinst .skipOnFault).trans hi)] at hnext ⊢
        rw [step_inst hset ((hinst .always).trans hi)]
        by_cases hun : always.Unanswered job inst
        · exact .ended hreach hi hun
        · rw [executed_answered hun]
          refine .same hnext fun k hk => ?_
          rw [executed_i, Program.toNat_add_one (Program.lt_length_of_inst? hi)] at hk
          rcases Nat.lt_succ_iff_lt_or_eq.mp hk with hk | rfl
          · exact hnone k hk
          · exact fun hat => hun ((hreach.fed.unansweredAt_iff hi).mp hat)
  | @ended d inst hreach hi hun =>
    have hended (policy : RecordPolicy) :
        (d.executed (job.withRecordPolicy policy) inst).Settled := by
      refine .inl ?_
      rw [executed_fault, raised?_unanswered hun]
      exact hun.2
    rw [step_settled (hended _), step_settled (hended _)]
    exact .ended hreach hi hun

theorem abreast_steps (job : Job σ) (s : σ) (n : Nat) :
    Abreast job s (steps (job.withRecordPolicy .always) n (start s))
      (steps (job.withRecordPolicy .skipOnFault) n (start s)) := by
  refine steps_related ?_ (fun _ _ _ _ h => h.step) n
  exact .same .start fun k hk => absurd hk (Nat.not_lt_zero k)

theorem abreast_run (job : Job σ) (s : σ) :
    Abreast job s (run (job.withRecordPolicy .always) (start s)).1
      (run (job.withRecordPolicy .skipOnFault) (start s)).1 := by
  rw [run_start, run_start]
  exact abreast_steps job s _

/-! ## 3. The last instruction -/

/-- A write that lands within the capacity, or on a tape that grows, goes behind the slots that
    are there. -/
theorem put_of_fits {limit : ResultLimit} {j : UInt32}
    (h : j < limit.capacity ∨ limit.policy = .grow) (value : UInt32) (tape : ResultTape) :
    ¬ limit.Refuses j ∧
      tape.put limit j value = { tape with slots := tape.slots ++ [value] } := by
  have hfits (policy : OverflowPolicy) (hp : policy ≠ .grow) :
      ¬ (limit.policy = policy ∧ limit.capacity ≤ j) := by
    rintro ⟨rfl, hc⟩
    exact h.elim (fun hj => UInt32.not_le.mpr hj hc) hp
  exact ⟨hfits .fault nofun, if_neg (hfits .discard nofun)⟩

/-- What the reports say of two runs that an instruction without an answer has ended. -/
theorem reports_unanswered (hreach : Reachable (job.withRecordPolicy .skipOnFault) s d)
    (hi : job.program.inst? d.i = some inst) (hun : d.Unanswered job inst) :
    let always := (d.executed (job.withRecordPolicy .always) inst).report
    let skipping := (d.executed (job.withRecordPolicy .skipOnFault) inst).report
    let limit := job.config.resultLimit
    (skipping.resultsWritten < limit.capacity ∨ limit.policy = .grow →
      always.results = skipping.results ++ [d.ans] ∧
        always.resultsWritten.toNat = skipping.resultsWritten.toNat + 1 ∧
        always.discarded = skipping.discarded) ∧
    (limit.capacity ≤ skipping.resultsWritten → limit.policy = .discard →
      always.results = skipping.results ∧
        always.resultsWritten.toNat = skipping.resultsWritten.toNat + 1 ∧
        always.discarded.toNat = skipping.discarded.toNat + 1) ∧
    (limit.capacity ≤ skipping.resultsWritten → limit.policy = .fault →
      always = skipping) := by
  intro always skipping limit
  have hskip : ¬ d.Writes (job.withRecordPolicy .skipOnFault) inst :=
    fun hw => hun.2 (attempts_skipOnFault.mp hw.1).2
  have hj : skipping.resultsWritten = d.j := by
    refine (executed_j _ inst d).trans ?_
    rw [if_neg hskip]
  have hresults : (d.executed (job.withRecordPolicy .skipOnFault) inst).results = d.results := by
    rw [executed_results, if_neg hskip]
  have hslots : skipping.results = d.results.slots := congrArg ResultTape.slots hresults
  have hdiscarded : skipping.discarded = d.results.discarded :=
    congrArg ResultTape.discarded hresults
  have hcoh := hreach.coherent
  have hlt : d.j.toNat < job.program.length :=
    Nat.lt_of_le_of_lt hcoh.recorded_le (Program.lt_length_of_inst? hi)
  have hadd : (d.j + 1).toNat = d.j.toNat + 1 := Program.toNat_add_one hlt
  have hwritten (hr : ¬ limit.Refuses d.j) : always =
      { skipping with
        results := (d.results.put limit d.j d.ans).slots
        resultsWritten := d.j + 1
        discarded := (d.results.put limit d.j d.ans).discarded } := by
    unfold always
    rw [executed_unanswered hun, if_neg hr]
    rfl
  rw [hj, hslots, hdiscarded]
  refine ⟨fun h => ?_, fun hc hp => ?_, fun hc hp => ?_⟩
  · obtain ⟨hr, hput⟩ := put_of_fits h d.ans d.results
    rw [hwritten hr, hput]
    exact ⟨rfl, hadd, rfl⟩
  · have hr : ¬ limit.Refuses d.j := fun hr => by
      rw [hr.1] at hp
      cases hp
    have hput : d.results.put limit d.j d.ans =
        { d.results with discarded := d.results.discarded + 1 } := if_pos ⟨hp, hc⟩
    have hdisc : (d.results.discarded + 1).toNat = d.results.discarded.toNat + 1 :=
      Program.toNat_add_one (Nat.lt_of_le_of_lt hcoh.results.discarded_le hlt)
    rw [hwritten hr, hput]
    exact ⟨rfl, hadd, hdisc⟩
  · unfold always
    rw [executed_unanswered hun, if_pos ⟨hp, hc⟩]

/-! ## 4. Whole runs -/

/-- The record policy changes at most one slot. Whatever the engine does, two runs that differ in
    the policy end with the same fault, after the same number of instructions, in the same status
    and with the same state of the engine. Their reports are the same, unless the engine faulted on
    a pop or a peek and so ended the run. Then recording always has written the last answer of the
    engine once more, if it fits; beyond the capacity, that write is dropped and counted, or it is
    refused and leaves no trace. -/
theorem record_policies_agree (job : Job σ) (s : σ) :
    let always := (run (job.withRecordPolicy .always) (start s)).1
    let skipping := (run (job.withRecordPolicy .skipOnFault) (start s)).1
    let a := always.report
    let b := skipping.report
    let limit := job.config.resultLimit
    (a.fault = b.fault ∧ a.instructionsExecuted = b.instructionsExecuted ∧
      always.status = skipping.status ∧ always.contents = skipping.contents) ∧
    ((∀ k, k + 1 = b.instructionsExecuted.toNat → ¬ job.UnansweredAt s k) → a = b) ∧
    ∀ k, k + 1 = b.instructionsExecuted.toNat → job.UnansweredAt s k →
      let stale := job.engine.lastAnswer (job.program.cells.take k) s 0
      (∃ fault, job.engine.reply? job.program.cells s k = some (.error fault) ∧
        b.fault = some (.engine fault)) ∧
      (b.resultsWritten < limit.capacity ∨ limit.policy = .grow →
        a.results = b.results ++ [stale] ∧
          a.resultsWritten.toNat = b.resultsWritten.toNat + 1 ∧ a.discarded = b.discarded) ∧
      (limit.capacity ≤ b.resultsWritten → limit.policy = .discard →
        a.results = b.results ∧ a.resultsWritten.toNat = b.resultsWritten.toNat + 1 ∧
          a.discarded.toNat = b.discarded.toNat + 1) ∧
      (limit.capacity ≤ b.resultsWritten → limit.policy = .fault → a = b) := by
  intro always skipping
  have habreast : Abreast job s always skipping := abreast_run job s
  clear_value always skipping
  cases habreast with
  | same _ hnone =>
    refine ⟨⟨rfl, rfl, rfl, rfl⟩, fun _ => rfl, fun k hk hat => ?_⟩
    exact absurd hat (hnone k (hk ▸ Nat.lt_succ_self k))
  | @ended d inst hreach hi hun =>
    have hraised := raised?_unanswered hun
    have hexecuted : (d.executed (job.withRecordPolicy .skipOnFault) inst).i.toNat =
        d.i.toNat + 1 := Program.toNat_add_one (Program.lt_length_of_inst? hi)
    have hat : job.UnansweredAt s d.i.toNat := (hreach.fed.unansweredAt_iff hi).mpr hun
    refine ⟨⟨?_, rfl, ?_, ?_⟩, fun hnone => ?_, fun k hk _ => ?_⟩
    · unfold report
      rw [executed_fault, executed_fault, hraised, hraised]
    · rw [executed_status, executed_status, hraised, hraised]
    · rw [executed_contents, executed_contents]
      rfl
    · exact absurd hat (hnone _ hexecuted.symm)
    · obtain rfl : k = d.i.toNat := Nat.succ_inj.mp (hk.trans hexecuted)
      intro stale
      have hstale : stale = d.ans := hreach.fed.ans.symm
      have hreply : job.engine.reply? job.program.cells s d.i.toNat =
          some (d.served job inst).1 := hreach.fed.reply?_eq hi
      refine ⟨?_, hstale ▸ reports_unanswered hreach hi hun⟩
      unfold report
      rw [executed_fault, hraised]
      cases hr : (d.served job inst).1 with
      | ok answer => exact absurd (hr ▸ rfl) hun.2
      | error fault => exact ⟨fault, hr ▸ hreply, rfl⟩

/-- A stale answer that fits, one that is dropped and one that is refused, and a run on which the
    engine faults nowhere. -/
theorem record_policies_agree_pushPopPop :
    let job (config : Config) : Job (List UInt32) := ⟨pushPopPop, Engine.fifo 1, config⟩
    let pushPop : Job (List UInt32) := ⟨⟨[(.push, 5), (.pop, 0)], by decide⟩, Engine.fifo 1, {}⟩
    let always (job : Job (List UInt32)) :=
      (run (job.withRecordPolicy .always) (start [])).1.report
    let skipping (job : Job (List UInt32)) :=
      (run (job.withRecordPolicy .skipOnFault) (start [])).1.report
    let full : Config := { resultCapacity := 1, overflowPolicy := .discard }
    (job {}).UnansweredAt [] 2 ∧
      ((skipping (job {})).resultsWritten < 10 ∧
        (always (job {})).results = (skipping (job {})).results ++ [5]) ∧
      (1 ≤ (skipping (job full)).resultsWritten ∧
        (always (job full)).discarded.toNat = (skipping (job full)).discarded.toNat + 1) ∧
      (1 ≤ (skipping (job tight)).resultsWritten ∧ always (job tight) = skipping (job tight)) ∧
      ¬ pushPop.UnansweredAt [] 1 ∧ always pushPop = skipping pushPop := by
  intro job pushPop always skipping full
  have hanswers : pushPopPop.AnswersAt 2 := by decide
  have hun (config : Config) : (job config).UnansweredAt [] 2 := ⟨hanswers, .underflow, rfl⟩
  have hserved : ¬ pushPop.UnansweredAt [] 1 := by
    rintro ⟨_, fault, hfault⟩
    cases hfault
  have hfits : (skipping (job {})).resultsWritten < 10 := by decide
  have hdropped : 1 ≤ (skipping (job full)).resultsWritten := by decide
  have hrefused : 1 ≤ (skipping (job tight)).resultsWritten := by decide
  have hlast : 2 = (skipping pushPop).instructionsExecuted.toNat := by decide
  obtain ⟨_, hwrite, _, _⟩ := (record_policies_agree (job {}) []).2.2 2 (by decide) (hun _)
  obtain ⟨_, _, hdrop, _⟩ := (record_policies_agree (job full) []).2.2 2 (by decide) (hun _)
  obtain ⟨_, _, _, hrefuse⟩ := (record_policies_agree (job tight) []).2.2 2 (by decide) (hun _)
  have hsame := (record_policies_agree pushPop []).2.1 fun k hk => by
    obtain rfl : k = 1 := Nat.succ_inj.mp (hk.trans hlast.symm)
    exact hserved
  exact ⟨hun _, ⟨hfits, (hwrite (.inl hfits)).1⟩, ⟨hdropped, (hdrop hdropped rfl).2.2⟩,
    ⟨hrefused, hrefuse hrefused rfl⟩, hserved, hsame⟩

end Dispatcher

end CommandTape
