import CommandTape.Proofs.Coherence

/-!
# What a run feeds to its engine

A run sends its engine the commands of the program in order. So the engine's state and the answer
register can be read off the program and the cursor, and each result can be traced to the
instruction that it answers.

* `after`, `lastAnswer`, `reply?`: an engine's state, its last answer and its replies on a tape of
  commands. The engine goes on after a fault.
* `Fed.executed`: an instruction extends what has been fed by one command.
* `Reachable.fed`: in every reachable state, slot `t` of the result tape holds the answer register
  right after instruction `k`, where `k` is the `t`-th instruction that answers.
-/

namespace CommandTape

/-! ## 1. An engine on a tape -/

namespace Engine

variable {σ : Type} (engine : Engine σ)

/-- The state after a tape of commands. -/
def after : Tape (Command × UInt32) → σ → σ
  | [], s => s
  | (cmd, value) :: cells, s => after cells (engine.apply cmd value s).2

/-- The last answer given on a tape of commands, or `ans` if there was none. -/
def lastAnswer : Tape (Command × UInt32) → σ → UInt32 → UInt32
  | [], _, ans => ans
  | (cmd, value) :: cells, s, ans =>
    lastAnswer cells (engine.apply cmd value s).2
      (Dispatcher.register ans (engine.apply cmd value s).1)

/-- The reply to command `k` of a tape. -/
def reply? (cells : Tape (Command × UInt32)) (s : σ) (k : Nat) : Option Reply :=
  cells[k]?.map fun cell => (engine.apply cell.1 cell.2 (engine.after (cells.take k) s)).1

/-- Command `k` of a tape is answered by a fault. -/
def FaultsAt (cells : Tape (Command × UInt32)) (s : σ) (k : Nat) : Prop :=
  ∃ fault, engine.reply? cells s k = some (.error fault)

theorem after_append (xs ys : Tape (Command × UInt32)) (s : σ) :
    engine.after (xs ++ ys) s = engine.after ys (engine.after xs s) := by
  induction xs generalizing s with
  | nil => rfl
  | cons cell xs ih => exact ih _

theorem lastAnswer_append (xs ys : Tape (Command × UInt32)) (s : σ) (ans : UInt32) :
    engine.lastAnswer (xs ++ ys) s ans =
      engine.lastAnswer ys (engine.after xs s) (engine.lastAnswer xs s ans) := by
  induction xs generalizing s ans with
  | nil => rfl
  | cons cell xs ih => exact ih _ _

theorem faultsAt_iff {cells : Tape (Command × UInt32)} {s : σ} {k : Nat}
    {cell : Command × UInt32} (h : cells[k]? = some cell) :
    engine.FaultsAt cells s k ↔ Dispatcher.replyFault?
      (engine.apply cell.1 cell.2 (engine.after (cells.take k) s)).1 ≠ none := by
  unfold FaultsAt reply?
  rw [h, Option.map_some]
  cases (engine.apply cell.1 cell.2 (engine.after (cells.take k) s)).1 with
  | ok answer => simp [Dispatcher.replyFault?]
  | error fault => simp [Dispatcher.replyFault?]

end Engine

namespace Dispatcher

variable {σ : Type} {job : Job σ} {s : σ} {d : Dispatcher σ} {inst : Inst}

/-! ## 2. The invariant -/

/-- The state of a run tells what has been fed to the engine, and what has come back. -/
structure Fed (job : Job σ) (s : σ) (d : Dispatcher σ) : Prop where
  contents : d.contents = job.engine.after (job.program.cells.take d.i.toNat) s
  ans : d.ans = job.engine.lastAnswer (job.program.cells.take d.i.toNat) s 0
  /-- A fault of the engine ends the run. -/
  served : d.flag.fault = none →
    ∀ k < d.i.toNat, ¬ job.engine.FaultsAt job.program.cells s k
  /-- So all instructions but the last have been served, whatever the flag. -/
  served_before : ∀ k, k + 1 < d.i.toNat → ¬ job.engine.FaultsAt job.program.cells s k
  /-- Only the last slot can belong to an instruction on which the engine faulted. -/
  slots : ∀ t < d.results.slots.length, ∃ k < d.i.toNat,
    job.program.IsAnswer t k ∧
      d.results.slots[t]? =
        some (job.engine.lastAnswer (job.program.cells.take (k + 1)) s 0) ∧
      (job.engine.FaultsAt job.program.cells s k →
        job.config.recordPolicy = .always ∧ t + 1 = d.results.slots.length)

theorem fed_start : Fed job s (start s) where
  contents := rfl
  ans := rfl
  served _ k hk := absurd hk (Nat.not_lt_zero k)
  served_before k hk := absurd hk (Nat.not_lt_zero (k + 1))
  slots t ht := absurd ht (Nat.not_lt_zero t)

/-- The engine's next reply is that to the command at the cursor. -/
theorem Fed.reply?_eq (h : Fed job s d) (hi : job.program.inst? d.i = some inst) :
    job.engine.reply? job.program.cells s d.i.toNat = some (d.served job inst).1 := by
  unfold Engine.reply?
  rw [Program.cell_of_inst? hi, ← h.contents]
  rfl

theorem Fed.lastAnswer_succ (h : Fed job s d) (hi : job.program.inst? d.i = some inst) :
    job.engine.lastAnswer (job.program.cells.take (d.i.toNat + 1)) s 0 =
      register d.ans (d.served job inst).1 := by
  rw [Program.cells_take_succ (Program.cell_of_inst? hi), Engine.lastAnswer_append, ← h.contents,
    ← h.ans]
  rfl

/-- An instruction that the engine serves makes no fault in what has been fed. -/
theorem Fed.not_faultsAt (h : Fed job s d) (hi : job.program.inst? d.i = some inst)
    (hr : replyFault? (d.served job inst).1 = none) :
    ¬ job.engine.FaultsAt job.program.cells s d.i.toNat := by
  rintro ⟨fault, hfault⟩
  rw [h.reply?_eq hi, Option.some.injEq] at hfault
  rw [hfault] at hr
  cases hr

/-! ## 3. One instruction -/

/-- An accepted write that is not dropped goes to the slot at the cursor. -/
theorem length_slots_of_put {limit : ResultLimit} {j : UInt32} {tape : ResultTape}
    (h : tape.Holds limit j.toNat) (hr : ¬ limit.Refuses j)
    (hd : ¬ (limit.policy = .discard ∧ limit.capacity ≤ j)) : tape.slots.length = j.toNat := by
  obtain ⟨capacity, policy⟩ := limit
  cases policy with
  | fault => exact h.1
  | discard =>
    have hl : tape.slots.length = min j.toNat capacity.toNat := h.1
    have hc : ¬ capacity.toNat ≤ j.toNat := fun hc => hd ⟨rfl, hc⟩
    omega
  | grow => exact h.1

/-- A command that is recorded although the engine faulted on it is recorded by policy. -/
theorem always_of_attempts (ha : d.Attempts job inst)
    (hr : replyFault? (d.served job inst).1 ≠ none) : job.config.recordPolicy = .always := by
  have hok : (d.served job inst).1.isOk = false := by
    cases hok : (d.served job inst).1.isOk with
    | false => rfl
    | true => exact absurd (replyFault?_eq_none.mpr hok) hr
  cases hp : job.config.recordPolicy with
  | always => rfl
  | skipOnFault => simp [Attempts, recordsAnswer, hok, hp] at ha

theorem records_of_attempts (ha : d.Attempts job inst) : inst.cmd.records = true := by
  unfold Attempts recordsAnswer at ha
  exact (Bool.and_eq_true_iff.mp ha).1

/-- Slots that are there already belong to instructions that have been served. -/
theorem Fed.slots_served (h : Fed job s d) (hf : d.flag.fault = none) :
    ∀ t < d.results.slots.length, ∃ k < d.i.toNat + 1,
      job.program.IsAnswer t k ∧
        d.results.slots[t]? =
          some (job.engine.lastAnswer (job.program.cells.take (k + 1)) s 0) ∧
        ¬ job.engine.FaultsAt job.program.cells s k := by
  intro t ht
  obtain ⟨k, hk, ha, hs, _⟩ := h.slots t ht
  exact ⟨k, Nat.lt_succ_of_lt hk, ha, hs, h.served hf k hk⟩

/-- A slot that an instruction writes belongs to it. -/
theorem Fed.slots_executed (h : Fed job s d) (hd : Coherent job d) (hf : d.flag.fault = none)
    (hi : job.program.inst? d.i = some inst) :
    let slots := (d.executed job inst).results.slots
    ∀ t < slots.length, ∃ k < d.i.toNat + 1,
      job.program.IsAnswer t k ∧
        slots[t]? = some (job.engine.lastAnswer (job.program.cells.take (k + 1)) s 0) ∧
        (job.engine.FaultsAt job.program.cells s k →
          job.config.recordPolicy = .always ∧ t + 1 = slots.length) := by
  have hold := h.slots_served hf
  intro slots t ht
  unfold slots at ht ⊢
  rw [executed_results] at ht ⊢
  by_cases hw : d.Writes job inst
  · rw [if_pos hw] at ht ⊢
    by_cases hdrop : job.config.resultLimit.policy = .discard ∧
        job.config.resultLimit.capacity ≤ d.j
    · simp only [ResultTape.put, hdrop, and_self, if_true] at ht ⊢
      obtain ⟨k, hk, ha, hs, hn⟩ := hold t ht
      exact ⟨k, hk, ha, hs, fun hfault => absurd hfault hn⟩
    · simp only [ResultTape.put, hdrop, if_false, List.length_append,
        List.length_singleton] at ht ⊢
      rcases Nat.lt_succ_iff_lt_or_eq.mp ht with ht | rfl
      · obtain ⟨k, hk, ha, hs, hn⟩ := hold t ht
        refine ⟨k, hk, ha, ?_, fun hfault => absurd hfault hn⟩
        rw [List.getElem?_append_left ht, hs]
      · -- The new slot is the last one, and the only one whose answer may be stale.
        have hcell := Program.cell_of_inst? hi
        have hslot := length_slots_of_put hd.results hw.2 hdrop
        refine ⟨d.i.toNat, Nat.lt_succ_self _, ⟨?_, ?_⟩, ?_, fun hfault => ⟨?_, rfl⟩⟩
        · exact (Program.answersAt_iff hcell).mpr (records_of_attempts hw.1)
        · rw [hslot, hd.recorded hf]
        · rw [List.getElem?_concat_length, h.lastAnswer_succ hi]
        · exact always_of_attempts hw.1 fun hr => h.not_faultsAt hi hr hfault
  · rw [if_neg hw] at ht ⊢
    obtain ⟨k, hk, ha, hs, hn⟩ := hold t ht
    exact ⟨k, hk, ha, hs, fun hfault => absurd hfault hn⟩

theorem Fed.executed (h : Fed job s d) (hd : Coherent job d) (hf : d.flag.fault = none)
    (hi : job.program.inst? d.i = some inst) : Fed job s (d.executed job inst) := by
  have hadd : (d.i + 1).toNat = d.i.toNat + 1 :=
    Program.toNat_add_one (Program.lt_length_of_inst? hi)
  refine { contents := ?_, ans := ?_, served := ?_, served_before := ?_, slots := ?_ }
  · rw [executed_contents, executed_i, hadd, Program.cells_take_succ (Program.cell_of_inst? hi),
      Engine.after_append, ← h.contents]
    rfl
  · rw [executed_ans, executed_i, hadd, h.lastAnswer_succ hi]
  · intro hr k hk
    rw [executed_i, hadd] at hk
    rcases Nat.lt_succ_iff_lt_or_eq.mp hk with hk | rfl
    · exact h.served hf k hk
    · exact h.not_faultsAt hi (raised?_eq_none.mp hr).1
  · intro k hk
    rw [executed_i, hadd] at hk
    exact h.served hf k (Nat.lt_of_succ_lt_succ hk)
  · rw [executed_i, hadd]
    exact h.slots_executed hd hf hi

/-! ## 4. Reachable states -/

theorem Fed.step (h : Fed job s d) (hd : Coherent job d) : Fed job s (step job d).state := by
  refine step_keeps h (fun _ _ => ?_) fun _ => h.executed hd
  exact { contents := h.contents, ans := h.ans, served := h.served,
          served_before := h.served_before, slots := h.slots }

theorem Reachable.fed (h : Reachable job s d) : Fed job s d :=
  h.induction fed_start fun _ he ih => ih.step he.coherent

end Dispatcher

end CommandTape
