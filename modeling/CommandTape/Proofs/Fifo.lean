import CommandTape.Proofs.History

/-!
# The answers of a first-in first-out engine

A pop or peek answers the operand of a push, and which push that is follows from counting pops.

* `fifo_after`: what a queue holds after a tape, in terms of the commands that it did not fault
  on.
* `fifo_reply`: the answer of a queue that has not faulted.
* `fifo_answers`: every result of a run, and what the queue holds in the end.
-/

namespace CommandTape

/-! ## 1. Queues -/

/-- What a queue holds: what it held and what was pushed since, without as many as were popped. -/
theorem Engine.fifo_after (c : Nat) (cells : Tape (Command × UInt32)) (xs : List UInt32) :
    (fifo c).after cells xs =
      (xs ++ Tape.pushed ((fifo c).accepted cells xs)).drop
        (Tape.pops ((fifo c).accepted cells xs)) := by
  rw [fifo_conserves, ← length_popped (rfl : fifo c = _), List.drop_left]

/-! ## 2. Answers -/

namespace Program

variable {p : Program} {k c : Nat} {cell : Command × UInt32}

theorem popsBefore_eq (p : Program) (k : Nat) :
    p.popsBefore k = Tape.pops (p.cells.take k) := by
  unfold popsBefore Tape.pops commands
  rw [List.map_take]

/-- While a queue has not faulted, it has accepted all commands. -/
theorem accepted_take (h : ∀ l < k, ¬ (Engine.fifo c).FaultsAt p.cells [] l) :
    (Engine.fifo c).accepted (p.cells.take k) [] = p.cells.take k := by
  refine Engine.accepted_eq_self fun l hl => ?_
  have hlk : l < k := Nat.lt_of_lt_of_le hl (List.length_take_le k p.cells)
  rintro ⟨fault, hfault⟩
  rw [Engine.reply?_take _ _ _ hlk] at hfault
  exact h l hlk ⟨fault, hfault⟩

/-- The answer of a queue that has not faulted: as many pops as went before, as many pushes are
    skipped. -/
theorem fifo_reply (hcell : p.cells[k]? = some cell) (hrec : cell.1.records = true)
    (h : ∀ l ≤ k, ¬ (Engine.fifo c).FaultsAt p.cells [] l) :
    (Tape.pushed p.cells)[p.popsBefore k]? =
      some ((Engine.fifo c).lastAnswer (p.cells.take (k + 1)) [] 0) := by
  have hafter := Engine.fifo_after c (p.cells.take k) []
  rw [accepted_take fun l hl => h l (Nat.le_of_lt hl), List.nil_append, ← popsBefore_eq] at hafter
  rw [lastAnswer_succ _ _ hcell]
  obtain ⟨cmd, value⟩ := cell
  have hreply : (Engine.fifo c).reply? p.cells [] k =
      some ((Engine.fifo c).apply cmd value ((Engine.fifo c).after (p.cells.take k) [])).1 := by
    unfold Engine.reply?
    rw [hcell]
    rfl
  have hserved := h k (Nat.le_refl k)
  unfold Engine.FaultsAt at hserved
  rw [hreply] at hserved
  cases hs : (Engine.fifo c).after (p.cells.take k) [] with
  | nil =>
    rw [hs] at hserved
    cases cmd with
    | push => cases hrec
    | pop => exact absurd ⟨_, rfl⟩ hserved
    | peek => exact absurd ⟨_, rfl⟩ hserved
  | cons x xs =>
    -- The oldest element is the operand that the pops so far have not reached.
    have hx : (Tape.pushed (p.cells.take k))[p.popsBefore k]? = some x := by
      rw [← Nat.add_zero (p.popsBefore k), ← List.getElem?_drop, ← hafter, hs]
      rfl
    have hsplit : Tape.pushed p.cells =
        Tape.pushed (p.cells.take k) ++ Tape.pushed (p.cells.drop k) := by
      rw [← Tape.pushed_append, List.take_append_drop]
    rw [hsplit, List.getElem?_append_left (List.getElem?_eq_some_iff.mp hx).1, hx]
    cases cmd with
    | push => cases hrec
    | pop => rfl
    | peek => rfl

end Program

namespace Dispatcher

/-! ## 3. The results of a run -/

/-- The results of a run on a fresh queue. The `t`-th result belongs to the `t`-th instruction
    `k` that answers. If the engine served it, the result is the operand of the push that comes
    after as many pushes as there are pops before `k`. If not, the result is the last one, it was
    recorded by policy and it repeats the one before. In the end, the queue holds what the
    accepted commands pushed, without as many as they popped. -/
theorem fifo_answers (p : Program) (config : Config) (c : Nat) :
    let job : Job (List UInt32) := ⟨p, Engine.fifo c, config⟩
    let last := (run job (start [])).1
    let results := last.report.results
    let accepted := job.engine.accepted (p.cells.take last.report.instructionsExecuted.toNat) []
    (∀ t < results.length, ∃ k < last.report.instructionsExecuted.toNat, p.IsAnswer t k ∧
      (¬ job.engine.FaultsAt p.cells [] k →
        results[t]? = (Tape.pushed p.cells)[p.popsBefore k]?) ∧
      (job.engine.FaultsAt p.cells [] k →
        config.recordPolicy = .always ∧ t + 1 = results.length ∧
          results[t]? = if t = 0 then some 0 else results[t - 1]?)) ∧
    last.contents = (Tape.pushed accepted).drop (Tape.pops accepted) := by
  intro job last results accepted
  have hreach : Reachable job [] last := .run .start
  refine ⟨fun t ht => ?_, ?_⟩
  · obtain ⟨k, hk, hanswer, hslot, hlast⟩ := hreach.fed.slots t ht
    refine ⟨k, hk, hanswer, fun hserved => ?_, fun hfault => ?_⟩
    · obtain ⟨cell, hcell⟩ := Program.exists_cell hanswer.1.lt_length
      have hall : ∀ l ≤ k, ¬ (Engine.fifo c).FaultsAt p.cells [] l := by
        intro l hl
        rcases Nat.lt_or_eq_of_le hl with hl | rfl
        · exact hreach.fed.served_before l (Nat.lt_of_le_of_lt hl hk)
        · exact hserved
      rw [Program.fifo_reply hcell ((Program.answersAt_iff hcell).mp hanswer.1) hall]
      exact hslot
    · obtain ⟨hpolicy, hend⟩ := hlast hfault
      exact ⟨hpolicy, hend, stale_slot rfl hreach ht hanswer hfault⟩
  · rw [hreach.fed.contents]
    exact Engine.fifo_after c _ []

/-- The second pop repeats the answer of the first. -/
theorem fifo_answers_pushPopPop :
    let job : Job (List UInt32) := ⟨pushPopPop, Engine.fifo 1, {}⟩
    let results := (run job (start [])).1.report.results
    (0 < results.length ∧ ¬ job.engine.FaultsAt pushPopPop.cells [] 1 ∧ results[0]? = some 5) ∧
      1 < results.length ∧ job.engine.FaultsAt pushPopPop.cells [] 2 ∧
        results[1]? = results[0]? := by
  intro job results
  have hlen : results.length = 2 := by decide
  have hserved : ¬ job.engine.FaultsAt pushPopPop.cells [] 1 := by
    rintro ⟨fault, hfault⟩
    cases hfault
  have hfault : job.engine.FaultsAt pushPopPop.cells [] 2 := ⟨.underflow, rfl⟩
  have hfirst : pushPopPop.IsAnswer 0 1 := by decide
  have hsecond : pushPopPop.IsAnswer 1 2 := by decide
  have hlaw := (fifo_answers pushPopPop {} 1).1
  obtain ⟨k, _, hk, hdirect, _⟩ := hlaw 0 (hlen ▸ Nat.two_pos)
  obtain rfl : k = 1 := hk.unique hfirst
  obtain ⟨l, _, hl, _, hstale⟩ := hlaw 1 (hlen ▸ Nat.one_lt_two)
  obtain rfl : l = 2 := hl.unique hsecond
  exact ⟨⟨by omega, hserved, hdirect hserved⟩, by omega, hfault, (hstale hfault).2.2⟩

end Dispatcher

end CommandTape
