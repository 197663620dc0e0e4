import CommandTape.Proofs.Bounded

/-!
# The answers of a last-in first-out engine

Pushes and pops match like brackets: a pop or peek answers the operand of the push that is still
open. Which push that is follows from counting between the two.

* `LastOpenAt.succ`: how the open pushes change with one instruction.
* `lifo_after`: a stack that has not faulted holds the operands of the open pushes, and an
  element's depth in the stack is that of its push.
* `lifo_answers`: every result of a run.
-/

namespace CommandTape

/-! ## 1. Open pushes -/

namespace Program

variable {p : Program} {s k m n : Nat} {cell : Command × UInt32}

/-- The commands strictly between two instructions. -/
def between (p : Program) (s k : Nat) : Tape Command := (p.commands.take k).drop (s + 1)

/-- Instruction `s` is a push before `k`, and of the pushes between the two, all but `n` are made
    up for by pops. -/
def OpenAt (p : Program) (n s k : Nat) : Prop :=
  s < k ∧ p.commands[s]? = some .push ∧
    (p.between s k).count .push = (p.between s k).count .pop + n

/-- No push between `s` and `k` is like `s`. -/
def LastOpenAt (p : Program) (n s k : Nat) : Prop :=
  p.OpenAt n s k ∧ ∀ r < k, s < r → ¬ p.OpenAt n r k

/-- Push `s` is the match of instruction `k`: it is the last push such that between the two there
    are as many pops as pushes. -/
def IsMatch (p : Program) (s k : Nat) : Prop := p.LastOpenAt 0 s k

instance (p : Program) (n s k : Nat) : Decidable (p.OpenAt n s k) :=
  inferInstanceAs (Decidable (_ ∧ _))

instance (p : Program) (n s k : Nat) : Decidable (p.LastOpenAt n s k) :=
  inferInstanceAs (Decidable (_ ∧ _))

instance (p : Program) (s k : Nat) : Decidable (p.IsMatch s k) :=
  inferInstanceAs (Decidable (p.LastOpenAt 0 s k))

theorem LastOpenAt.unique {r : Nat} (hs : p.LastOpenAt n s k) (hr : p.LastOpenAt n r k) :
    s = r := by
  rcases Nat.lt_trichotomy s r with h | h | h
  · exact absurd hr.1 (hs.2 r hr.1.1 h)
  · exact h
  · exact absurd hs.1 (hr.2 s hs.1.1 h)

theorem between_self (p : Program) (k : Nat) : p.between k (k + 1) = [] :=
  List.drop_eq_nil_of_le (List.length_take_le _ _)

theorem between_succ (hs : s < k) (hcell : p.cells[k]? = some cell) :
    p.between s (k + 1) = p.between s k ++ [cell.1] := by
  have hk : k ≤ p.commands.length := by
    rw [commands, List.length_map]
    exact Nat.le_of_lt (lt_length_of_cell hcell)
  have hlen : s + 1 ≤ (p.commands.take k).length := by
    rw [List.length_take_of_le hk]
    exact hs
  unfold between
  rw [commands_take_succ hcell, List.drop_append_of_le_length hlen]

/-- Behind an instruction, a push is as deep as before it, but for what the instruction does. -/
theorem openAt_succ_iff (hs : s < k) (hcell : p.cells[k]? = some cell)
    (hn : m + (if cell.1 = .push then 1 else 0) = n + (if cell.1 = .pop then 1 else 0)) :
    p.OpenAt n s (k + 1) ↔ p.OpenAt m s k := by
  have hs' : s < k + 1 := Nat.lt_succ_of_lt hs
  unfold OpenAt
  rw [between_succ hs hcell, List.count_append, List.count_append, List.count_singleton,
    List.count_singleton]
  simp only [beq_iff_eq]
  exact and_congr (iff_of_true hs' hs) (and_congr_right fun _ => by omega)

theorem openAt_self (hcell : p.cells[k]? = some cell) :
    p.OpenAt n k (k + 1) ↔ cell.1 = .push ∧ n = 0 := by
  unfold OpenAt
  rw [between_self, command_of_cell hcell]
  simp [eq_comm]

/-- What was the last push of its depth before instruction `k` is the last of its depth behind it,
    and the depth changes as `k` pushes or pops. -/
theorem LastOpenAt.succ (h : p.LastOpenAt m s k) (hcell : p.cells[k]? = some cell)
    (hn : m + (if cell.1 = .push then 1 else 0) = n + (if cell.1 = .pop then 1 else 0)) :
    p.LastOpenAt n s (k + 1) := by
  have hs : s < k := h.1.1
  refine ⟨(openAt_succ_iff hs hcell hn).mpr h.1, fun r hr hsr hopen => ?_⟩
  rcases Nat.lt_succ_iff_lt_or_eq.mp hr with hr | rfl
  · exact h.2 r hr hsr ((openAt_succ_iff hr hcell hn).mp hopen)
  · -- A push at `k` lies above all others, so it is not as deep as `s`.
    obtain ⟨hpush, rfl⟩ := (openAt_self hcell).mp hopen
    rw [hpush] at hn
    simp at hn

theorem lastOpenAt_self (hcell : p.cells[k]? = some cell) (hpush : cell.1 = .push) :
    p.LastOpenAt 0 k (k + 1) :=
  ⟨(openAt_self hcell).mpr ⟨hpush, rfl⟩, fun _ hr hkr => absurd hr (Nat.not_lt.mpr hkr)⟩

/-! ## 2. Stacks -/

variable {c : Nat}

/-- A stack that has not faulted has room for a push, and something to answer a pop or peek. -/
theorem lifo_served (hcell : p.cells[k]? = some cell)
    (h : ¬ (Engine.lifo c).FaultsAt p.cells [] k) :
    if cell.1 = .push then ((Engine.lifo c).after (p.cells.take k) []).length < c
    else (Engine.lifo c).after (p.cells.take k) [] ≠ [] := by
  have hreply : Dispatcher.replyFault? ((Engine.lifo c).apply cell.1 cell.2 _).1 = _ :=
    Engine.replyFault?_bounded _ c cell.1 cell.2 ((Engine.lifo c).after (p.cells.take k) [])
  rw [Engine.faultsAt_iff _ hcell, hreply] at h
  by_cases hpush : cell.1 = .push
  · simpa [hpush] using h
  · simpa [hpush] using h

/-- The element at depth `n` of a stack that has not faulted is the operand of the last push that
    is open at that depth. -/
theorem lifo_after (hk : k ≤ p.length)
    (hserved : ∀ l < k, ¬ (Engine.lifo c).FaultsAt p.cells [] l) {v : UInt32}
    (h : ((Engine.lifo c).after (p.cells.take k) [])[n]? = some v) :
    ∃ s, p.LastOpenAt n s k ∧ p.operands[s]? = some v := by
  induction k generalizing n v with
  | zero => cases h
  | succ k ih =>
    obtain ⟨⟨cmd, value⟩, hcell⟩ := exists_cell hk
    have hbefore {m : Nat} := @ih m (Nat.le_of_succ_le hk)
      fun l hl => hserved l (Nat.lt_succ_of_lt hl)
    have hroom := lifo_served hcell (hserved k (Nat.lt_succ_self k))
    rw [cells_take_succ hcell, Engine.after_append] at h
    generalize (Engine.lifo c).after (p.cells.take k) [] = xs at h hbefore hroom
    cases cmd with
    | push =>
      have happly : (Engine.lifo c).apply .push value xs = (.ok none, value :: xs) :=
        if_pos hroom
      rw [Engine.after, happly] at h
      cases n with
      | zero =>
        refine ⟨k, lastOpenAt_self hcell rfl, ?_⟩
        rw [operands, List.getElem?_map, hcell]
        exact h
      | succ n =>
        obtain ⟨s, hs, hv⟩ := hbefore h
        exact ⟨s, hs.succ hcell rfl, hv⟩
    | pop =>
      cases xs with
      | nil => exact absurd rfl hroom
      | cons x xs =>
        obtain ⟨s, hs, hv⟩ := @hbefore (n + 1) v h
        exact ⟨s, hs.succ hcell rfl, hv⟩
    | peek =>
      cases xs with
      | nil => exact absurd rfl hroom
      | cons x xs =>
        obtain ⟨s, hs, hv⟩ := hbefore h
        exact ⟨s, hs.succ hcell rfl, hv⟩

/-- The answer of a stack that has not faulted is the operand of the match. -/
theorem lifo_reply (hcell : p.cells[k]? = some cell) (hrec : cell.1.records = true)
    (h : ∀ l ≤ k, ¬ (Engine.lifo c).FaultsAt p.cells [] l) :
    ∃ s, p.IsMatch s k ∧
      p.operands[s]? = some ((Engine.lifo c).lastAnswer (p.cells.take (k + 1)) [] 0) := by
  have hafter := @lifo_after p k 0 c (Nat.le_of_lt (lt_length_of_cell hcell))
    fun l hl => h l (Nat.le_of_lt hl)
  have hserved := lifo_served hcell (h k (Nat.le_refl k))
  rw [lastAnswer_succ _ _ hcell]
  obtain ⟨cmd, value⟩ := cell
  generalize (Engine.lifo c).after (p.cells.take k) [] = xs at hafter hserved
  -- What is left of the stack is not looked at: the answer is its top.
  cases cmd with
  | push => cases hrec
  | pop =>
    cases xs with
    | nil => exact absurd rfl hserved
    | cons x xs => exact hafter rfl
  | peek =>
    cases xs with
    | nil => exact absurd rfl hserved
    | cons x xs => exact hafter rfl

end Program

namespace Dispatcher

/-! ## 3. The results of a run -/

/-- The results of a run on a fresh stack. The `t`-th result belongs to the `t`-th instruction
    `k` that answers. If the engine served it, the result is the operand of the push that matches
    `k`. If not, the result is the last one, it was recorded by policy and it repeats the one
    before. -/
theorem lifo_answers (p : Program) (config : Config) (c : Nat) :
    let job : Job (List UInt32) := ⟨p, Engine.lifo c, config⟩
    let report := (run job (start [])).1.report
    ∀ t < report.results.length, ∃ k < report.instructionsExecuted.toNat, p.IsAnswer t k ∧
      (¬ job.engine.FaultsAt p.cells [] k →
        ∃ s, p.IsMatch s k ∧ report.results[t]? = p.operands[s]?) ∧
      (job.engine.FaultsAt p.cells [] k →
        config.recordPolicy = .always ∧ t + 1 = report.results.length ∧
          report.results[t]? = if t = 0 then some 0 else report.results[t - 1]?) := by
  intro job report t ht
  have hreach : Reachable job [] (run job (start [])).1 := .run .start
  obtain ⟨k, hk, hanswer, hslot⟩ := hreach.slot_cases rfl ht
  refine ⟨k, hk, hanswer, fun hserved => ?_, fun hfault => ?_⟩
  · rcases hslot with ⟨hall, hslot⟩ | ⟨hfault, _⟩
    · obtain ⟨cell, hcell⟩ := Program.exists_cell hanswer.1.lt_length
      have hrec : cell.1.records = true := (Program.answersAt_iff hcell).mp hanswer.1
      obtain ⟨s, hs, hv⟩ := Program.lifo_reply hcell hrec hall
      exact ⟨s, hs, hslot.trans hv.symm⟩
    · exact absurd hfault hserved
  · rcases hslot with ⟨hall, _⟩ | ⟨_, hstale⟩
    · exact absurd hfault (hall k (Nat.le_refl k))
    · exact hstale

/-- Two pushes with a third between their pops, and a pop too many. -/
def nestedPushes : Program :=
  ⟨[(.push, 1), (.push, 2), (.pop, 0), (.peek, 0), (.push, 3), (.pop, 0), (.pop, 0), (.pop, 0)],
    by decide⟩

/-- The pop at 6 matches the push at 0, and the pop at 7 repeats its answer. -/
theorem lifo_answers_nestedPushes :
    let job : Job (List UInt32) := ⟨nestedPushes, Engine.lifo 2, {}⟩
    let results := (run job (start [])).1.report.results
    (3 < results.length ∧ ¬ job.engine.FaultsAt nestedPushes.cells [] 6 ∧
        nestedPushes.IsMatch 0 6 ∧ results[3]? = some 1) ∧
      4 < results.length ∧ job.engine.FaultsAt nestedPushes.cells [] 7 ∧
        results[4]? = results[3]? := by
  intro job results
  have hlen : results.length = 5 := by decide
  have hserved : ¬ job.engine.FaultsAt nestedPushes.cells [] 6 := by
    rintro ⟨fault, hfault⟩
    cases hfault
  have hfault : job.engine.FaultsAt nestedPushes.cells [] 7 := ⟨.underflow, rfl⟩
  have hsixth : nestedPushes.IsAnswer 3 6 := by decide
  have hseventh : nestedPushes.IsAnswer 4 7 := by decide
  have hmatch : nestedPushes.IsMatch 0 6 := by decide
  have hlaw := lifo_answers nestedPushes {} 2
  obtain ⟨k, _, hk, hdirect, _⟩ := hlaw 3 (hlen ▸ by decide)
  obtain rfl : k = 6 := hk.unique hsixth
  obtain ⟨s, hs, hslot⟩ := hdirect hserved
  obtain rfl : s = 0 := hs.unique hmatch
  obtain ⟨l, _, hl, _, hstale⟩ := hlaw 4 (hlen ▸ by decide)
  obtain rfl : l = 7 := hl.unique hseventh
  exact ⟨⟨by omega, hserved, hmatch, hslot⟩, by omega, hfault, (hstale hfault).2.2⟩

end Dispatcher

end CommandTape
