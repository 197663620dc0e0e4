import CommandTape.Proofs.Feed

/-!
# Bounded engines

What the two engines have in common, as bounded sequences that are read at the front.

* `bounded_cases`: what a command does.
* `replyFault?_bounded`, `length_bounded`: when a command is a fault, and what a command does to
  the number of elements.
* `stale_slot`: a result that was recorded on a fault repeats the result before it.
* `Reachable.slot_cases`: what each result of a run is.
-/

namespace CommandTape

/-! ## 1. One command -/

/-- A command is refused and changes nothing, or it is a push that finds room, or it is a pop or a
    peek that is answered by the front element. -/
theorem Engine.bounded_cases {insert : UInt32 → List UInt32 → List UInt32} {c : Nat}
    {engine : Engine (List UInt32)} (h : engine = bounded insert c) (cmd : Command)
    (value : UInt32) (xs : List UInt32) :
    (∃ fault, engine.apply cmd value xs = (.error fault, xs)) ∨
    (cmd = .push ∧ xs.length < c ∧ engine.apply cmd value xs = (.ok none, insert value xs)) ∨
    (∃ x rest, cmd = .pop ∧ xs = x :: rest ∧
      engine.apply cmd value xs = (.ok (some x), rest)) ∨
    ∃ x rest, cmd = .peek ∧ xs = x :: rest ∧
      engine.apply cmd value xs = (.ok (some x), x :: rest) := by
  subst h
  cases cmd with
  | push =>
    by_cases hlt : xs.length < c
    · exact .inr (.inl ⟨rfl, hlt, if_pos hlt⟩)
    · exact .inl ⟨_, if_neg hlt⟩
  | pop =>
    cases xs with
    | nil => exact .inl ⟨_, rfl⟩
    | cons x rest => exact .inr (.inr (.inl ⟨x, rest, rfl, rfl, rfl⟩))
  | peek =>
    cases xs with
    | nil => exact .inl ⟨_, rfl⟩
    | cons x rest => exact .inr (.inr (.inr ⟨x, rest, rfl, rfl, rfl⟩))

/-- The fault of a bounded engine depends on the command and the number of elements only. -/
theorem Engine.replyFault?_bounded (insert : UInt32 → List UInt32 → List UInt32) (c : Nat)
    (cmd : Command) (value : UInt32) (xs : List UInt32) :
    Dispatcher.replyFault? ((Engine.bounded insert c).apply cmd value xs).1 =
      if cmd = .push then if c ≤ xs.length then some (.engine (.overflow c)) else none
      else if xs.length = 0 then some (.engine .underflow) else none := by
  cases cmd with
  | pop => cases xs <;> rfl
  | peek => cases xs <;> rfl
  | push =>
    simp only [Engine.bounded, if_true]
    by_cases h : xs.length < c
    · rw [if_pos h, if_neg (Nat.not_le.mpr h)]
      rfl
    · rw [if_neg h, if_pos (Nat.not_lt.mp h)]
      rfl

/-- A command that is served changes the number of elements by one, or not at all. -/
theorem Engine.length_bounded {insert : UInt32 → List UInt32 → List UInt32}
    (hinsert : ∀ v xs, (insert v xs).length = xs.length + 1) {c : Nat} {cmd : Command}
    {value : UInt32} {xs : List UInt32}
    (h : Dispatcher.replyFault? ((Engine.bounded insert c).apply cmd value xs).1 = none) :
    (((Engine.bounded insert c).apply cmd value xs).2.length : Int) =
      xs.length + (if cmd = .push then 1 else 0) - (if cmd = .pop then 1 else 0) := by
  cases cmd with
  | pop =>
    cases xs with
    | nil => cases h
    | cons x xs => simp [Engine.bounded]
  | peek =>
    cases xs with
    | nil => cases h
    | cons x xs => simp [Engine.bounded]
  | push =>
    by_cases hlt : xs.length < c
    · simp [Engine.bounded, hlt, hinsert]
    · rw [Engine.replyFault?_bounded, if_pos rfl, if_pos (Nat.not_lt.mp hlt)] at h
      cases h

/-- Both kinds of engine are bounded sequences. -/
theorem EngineKind.exists_insert (kind : EngineKind) :
    ∃ insert : UInt32 → List UInt32 → List UInt32,
      (∀ v xs, (insert v xs).length = xs.length + 1) ∧
        ∀ c, kind.engine c = Engine.bounded insert c := by
  cases kind with
  | fifo => exact ⟨fun v xs => xs ++ [v], by simp, fun _ => rfl⟩
  | lifo => exact ⟨fun v xs => v :: xs, by simp, fun _ => rfl⟩

/-- A push leaves the answer register alone. -/
theorem Engine.register_push (insert : UInt32 → List UInt32 → List UInt32) (c : Nat)
    (ans value : UInt32) (xs : List UInt32) :
    Dispatcher.register ans ((Engine.bounded insert c).apply .push value xs).1 = ans := by
  simp only [Engine.bounded]
  split <;> rfl

/-- So does a command that faults, of any engine. -/
theorem Dispatcher.register_error (ans : UInt32) {reply : Reply} {fault : EngineFault}
    (h : reply = .error fault) : Dispatcher.register ans reply = ans := by
  rw [h]
  rfl

/-! ## 2. The answer register along a program -/

namespace Program

variable {p : Program}

theorem lastAnswer_succ {k : Nat} {cell : Command × UInt32} (engine : Engine σ) (s : σ)
    (h : p.cells[k]? = some cell) :
    engine.lastAnswer (p.cells.take (k + 1)) s 0 =
      Dispatcher.register (engine.lastAnswer (p.cells.take k) s 0)
        (engine.apply cell.1 cell.2 (engine.after (p.cells.take k) s)).1 := by
  rw [cells_take_succ h, Engine.lastAnswer_append]
  rfl

/-- Where no instruction answers there are pushes only, and the register stays. -/
theorem lastAnswer_eq_of_answersBefore_eq (insert : UInt32 → List UInt32 → List UInt32) (c : Nat)
    {k l : Nat} (hkl : k ≤ l) (hl : l ≤ p.length) (h : p.answersBefore l = p.answersBefore k) :
    (Engine.bounded insert c).lastAnswer (p.cells.take l) [] 0 =
      (Engine.bounded insert c).lastAnswer (p.cells.take k) [] 0 := by
  obtain ⟨n, rfl⟩ := Nat.exists_eq_add_of_le hkl
  induction n with
  | zero => rfl
  | succ n ih =>
    obtain ⟨⟨cmd, value⟩, hcell⟩ := Program.exists_cell (show k + n < p.length from hl)
    have hsucc : p.answersBefore (k + n + 1) = _ := answersBefore_succ hcell
    have hmono := p.answersBefore_mono (Nat.le_add_right k n)
    rw [Nat.add_assoc, h] at hsucc
    have hpush : cmd = .push := by
      cases cmd with
      | push => rfl
      | pop => simp [Command.records] at hsucc; omega
      | peek => simp [Command.records] at hsucc; omega
    subst hpush
    rw [← Nat.add_assoc, lastAnswer_succ _ _ hcell, Engine.register_push]
    exact ih (Nat.le_add_right k n) (Nat.le_of_succ_le hl) hsucc.symm

end Program

namespace Dispatcher

/-! ## 3. Stale results -/

variable {job : Job (List UInt32)} {insert : UInt32 → List UInt32 → List UInt32} {c : Nat}
  {d : Dispatcher (List UInt32)}

/-- A result of an instruction on which the engine faulted repeats the result before it. -/
theorem stale_slot (hjob : job.engine = Engine.bounded insert c) (h : Reachable job [] d)
    {t k : Nat} (ht : t < d.results.slots.length) (hk : job.program.IsAnswer t k)
    (hfault : job.engine.FaultsAt job.program.cells [] k) :
    d.results.slots[t]? = if t = 0 then some 0 else d.results.slots[t - 1]? := by
  obtain ⟨k', hlt, hk', hslot, _⟩ := h.fed.slots t ht
  have hkk : k' = k := hk'.unique hk
  subst hkk
  have hlen : k' < job.program.length := Nat.lt_of_lt_of_le hlt h.coherent.executed_le
  obtain ⟨cell, hcell⟩ := Program.exists_cell hlen
  obtain ⟨fault, hreply⟩ := hfault
  unfold Engine.reply? at hreply
  rw [hcell, Option.map_some, Option.some.injEq] at hreply
  rw [hslot, Program.lastAnswer_succ _ _ hcell, register_error _ hreply, hjob]
  cases t with
  | zero =>
    rw [Program.lastAnswer_eq_of_answersBefore_eq insert c (Nat.zero_le k') (Nat.le_of_lt hlen)
      hk.2, if_pos rfl]
    rfl
  | succ t =>
    obtain ⟨l, _, hl, hslot', _⟩ := h.fed.slots t (Nat.lt_of_succ_lt ht)
    have hcount := hl.1.answersBefore_succ
    have hlk : l < k' := by
      refine Nat.lt_of_not_le fun hle => ?_
      have hmono := job.program.answersBefore_mono hle
      rw [hk.2, hl.2] at hmono
      omega
    -- Between two answers there are pushes only.
    rw [Program.lastAnswer_eq_of_answersBefore_eq insert c (Nat.succ_le_of_lt hlk)
      (Nat.le_of_lt hlen) (by rw [hk.2, hcount, hl.2]), if_neg (Nat.succ_ne_zero t),
      Nat.add_sub_cancel, hslot', hjob]

/-! ## 4. The results of a run -/

/-- Each result belongs to an instruction that answers. The engine has served all instructions up
    to that one, and the result is its answer; or it faulted on that one, which was the last, and
    the result is stale. -/
theorem Reachable.slot_cases (hjob : job.engine = Engine.bounded insert c)
    (h : Reachable job [] d) {t : Nat} (ht : t < d.results.slots.length) :
    ∃ k < d.i.toNat, job.program.IsAnswer t k ∧
      ((∀ l ≤ k, ¬ job.engine.FaultsAt job.program.cells [] l) ∧
          d.results.slots[t]? =
            some (job.engine.lastAnswer (job.program.cells.take (k + 1)) [] 0) ∨
        job.engine.FaultsAt job.program.cells [] k ∧ job.config.recordPolicy = .always ∧
          t + 1 = d.results.slots.length ∧
          d.results.slots[t]? = if t = 0 then some 0 else d.results.slots[t - 1]?) := by
  obtain ⟨k, hk, hanswer, hslot, hlast⟩ := h.fed.slots t ht
  refine ⟨k, hk, hanswer, ?_⟩
  by_cases hfault : job.engine.FaultsAt job.program.cells [] k
  · obtain ⟨hpolicy, hend⟩ := hlast hfault
    exact .inr ⟨hfault, hpolicy, hend, stale_slot hjob h ht hanswer hfault⟩
  · refine .inl ⟨fun l hl => ?_, hslot⟩
    rcases Nat.lt_or_eq_of_le hl with hl | rfl
    · exact h.fed.served_before l (Nat.lt_of_le_of_lt hl hk)
    · exact hfault

end Dispatcher

end CommandTape
