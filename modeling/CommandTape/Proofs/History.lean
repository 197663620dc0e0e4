import CommandTape.Proofs.Bounded

/-!
# Histories of engines

An engine goes on after a fault, so it has a history on every tape of commands. On a bounded engine
nothing is lost in it and nothing made up, however many faults there are in between.

* `history_moves`: what faults and peeks leave out of a history, no other command misses.
* `perm_popped_after`: what was pushed has been popped or is still there.
* `fifo_conserves`: on a queue, in order.
* `lifo_sublist`, `lifo_level`: a stack keeps the order of its pushes, and commands that balance
  work on what lies above.
* `history_conserved`: these laws for fresh engines.
-/

namespace CommandTape

/-! ## 1. Pushes and pops on a tape -/

namespace Tape

/-- The operands of the pushes on a tape, in order. -/
def pushed (cells : Tape (Command × UInt32)) : List UInt32 :=
  cells.filterMap fun cell => if cell.1 = .push then some cell.2 else none

/-- How many commands of a tape are pushes. -/
def pushes (cells : Tape (Command × UInt32)) : Nat := (cells.map (·.1)).count .push

/-- How many commands of a tape are pops. -/
def pops (cells : Tape (Command × UInt32)) : Nat := (cells.map (·.1)).count .pop

/-- There are as many pushes as pops, and nowhere have there been more pops. -/
def Balanced (cells : Tape (Command × UInt32)) : Prop :=
  pushes cells = pops cells ∧
    ∀ k ≤ cells.length, pops (cells.take k) ≤ pushes (cells.take k)

instance (cells : Tape (Command × UInt32)) : Decidable (Balanced cells) :=
  inferInstanceAs (Decidable (_ ∧ _))

variable (value : UInt32) (cells : Tape (Command × UInt32))

theorem pushed_append (xs ys : Tape (Command × UInt32)) :
    pushed (xs ++ ys) = pushed xs ++ pushed ys :=
  List.filterMap_append

@[simp] theorem pushed_push : pushed ((.push, value) :: cells) = value :: pushed cells := rfl
@[simp] theorem pushed_pop : pushed ((.pop, value) :: cells) = pushed cells := rfl
@[simp] theorem pushed_peek : pushed ((.peek, value) :: cells) = pushed cells := rfl

@[simp] theorem pushes_cons (cell : Command × UInt32) :
    pushes (cell :: cells) = pushes cells + if cell.1 = .push then 1 else 0 := by
  unfold pushes
  rw [List.map_cons, List.count_cons]
  simp only [beq_iff_eq]

@[simp] theorem pops_cons (cell : Command × UInt32) :
    pops (cell :: cells) = pops cells + if cell.1 = .pop then 1 else 0 := by
  unfold pops
  rw [List.map_cons, List.count_cons]
  simp only [beq_iff_eq]

end Tape

/-! ## 2. Histories -/

/-- A command that an engine was sent, with its reply. -/
structure Exchange where
  cmd : Command
  value : UInt32
  reply : Reply

namespace Exchange

def cell (e : Exchange) : Command × UInt32 := (e.cmd, e.value)

/-- The command was served, and it was a push or a pop. All others leave an engine as it was. -/
def isMove (e : Exchange) : Bool := e.reply.isOk && e.cmd != .peek

/-- The answer to a pop. -/
def popped? : Exchange → Option UInt32
  | ⟨.pop, _, .ok answer⟩ => answer
  | _ => none

end Exchange

/-- The answers to the pops of a history, in order. -/
def popped (history : List Exchange) : List UInt32 := history.filterMap Exchange.popped?

namespace Engine

section Accepted

variable {σ : Type} (engine : Engine σ)

/-- The commands of a tape with their replies. -/
def history : Tape (Command × UInt32) → σ → List Exchange
  | [], _ => []
  | (cmd, value) :: cells, s =>
    let (reply, s) := engine.apply cmd value s
    ⟨cmd, value, reply⟩ :: history cells s

/-- The commands of a tape that are not answered by a fault. -/
def accepted : Tape (Command × UInt32) → σ → Tape (Command × UInt32)
  | [], _ => []
  | (cmd, value) :: cells, s =>
    let (reply, s) := engine.apply cmd value s
    if reply.isOk then (cmd, value) :: accepted cells s else accepted cells s

variable {engine} {cmd : Command} {value : UInt32} {cells : Tape (Command × UInt32)} {s s' : σ}

theorem after_cons {reply : Reply} (h : engine.apply cmd value s = (reply, s')) :
    engine.after ((cmd, value) :: cells) s = engine.after cells s' := by
  rw [after, h]

theorem history_cons {reply : Reply} (h : engine.apply cmd value s = (reply, s')) :
    engine.history ((cmd, value) :: cells) s =
      ⟨cmd, value, reply⟩ :: engine.history cells s' := by
  rw [history, h]

theorem accepted_ok {answer : Option UInt32} (h : engine.apply cmd value s = (.ok answer, s')) :
    engine.accepted ((cmd, value) :: cells) s = (cmd, value) :: engine.accepted cells s' := by
  rw [accepted, h]
  rfl

theorem accepted_error {fault : EngineFault} (h : engine.apply cmd value s = (.error fault, s')) :
    engine.accepted ((cmd, value) :: cells) s = engine.accepted cells s' := by
  rw [accepted, h]
  rfl

theorem faultsAt_zero {reply : Reply} (h : engine.apply cmd value s = (reply, s')) :
    engine.FaultsAt ((cmd, value) :: cells) s 0 ↔ ∃ fault, reply = .error fault := by
  have hreply : engine.reply? ((cmd, value) :: cells) s 0 = some reply :=
    congrArg some (congrArg Prod.fst h)
  unfold FaultsAt
  rw [hreply]
  simp only [Option.some.injEq]

/-- The later commands meet the state that the first one leaves behind. -/
theorem faultsAt_succ {reply : Reply} {k : Nat} (h : engine.apply cmd value s = (reply, s')) :
    engine.FaultsAt ((cmd, value) :: cells) s (k + 1) ↔ engine.FaultsAt cells s' k := by
  unfold FaultsAt reply?
  rw [List.take_succ_cons, after_cons h, List.getElem?_cons_succ]

/-- Commands behind others meet the state that those leave behind. -/
theorem faultsAt_append (before : Tape (Command × UInt32)) {k : Nat} :
    engine.FaultsAt (before ++ cells) s (before.length + k) ↔
      engine.FaultsAt cells (engine.after before s) k := by
  unfold FaultsAt reply?
  rw [List.getElem?_append_right (Nat.le_add_right _ _), Nat.add_sub_cancel_left,
    List.take_length_add_append, after_append]

/-- Without a fault, all commands are accepted. -/
theorem accepted_eq_self (h : ∀ k < cells.length, ¬ engine.FaultsAt cells s k) :
    engine.accepted cells s = cells := by
  induction cells generalizing s with
  | nil => rfl
  | cons cell cells ih =>
    obtain ⟨cmd, value⟩ := cell
    rcases hr : engine.apply cmd value s with ⟨fault | answer, s'⟩
    · exact absurd ((faultsAt_zero hr).mpr ⟨fault, rfl⟩) (h 0 (Nat.zero_lt_succ _))
    · rw [accepted_ok hr, ih]
      exact fun k hk => mt (faultsAt_succ hr).mpr (h (k + 1) (Nat.succ_lt_succ hk))

variable (engine)

/-- The replies to the first commands of a tape do not depend on the others. -/
theorem reply?_take (cells : Tape (Command × UInt32)) (s : σ) {k n : Nat} (h : k < n) :
    engine.reply? (cells.take n) s k = engine.reply? cells s k := by
  unfold reply?
  rw [List.getElem?_take_of_lt h, List.take_take, Nat.min_eq_left (Nat.le_of_lt h)]

end Accepted

/-! ## 3. What faults and peeks leave out -/

section Moves

variable {σ : Type} {engine : Engine σ}

/-- A command that is answered by a fault, and every peek, leaves the state as it was. -/
def Steady (engine : Engine σ) : Prop :=
  ∀ cmd value s, cmd = .peek ∨ (engine.apply cmd value s).1.isOk = false →
    (engine.apply cmd value s).2 = s

/-- Without them, all other commands get the same replies, and the state in the end is the same. -/
theorem history_moves (h : engine.Steady) (cells : Tape (Command × UInt32)) (s : σ) :
    let moves := (engine.history cells s).filter Exchange.isMove
    engine.history (moves.map Exchange.cell) s = moves ∧
      engine.after (moves.map Exchange.cell) s = engine.after cells s := by
  induction cells generalizing s with
  | nil => exact ⟨rfl, rfl⟩
  | cons cell cells ih =>
    obtain ⟨cmd, value⟩ := cell
    rcases hr : engine.apply cmd value s with ⟨reply, s'⟩
    obtain ⟨hhistory, hafter⟩ := ih s'
    intro moves
    unfold moves
    rw [history_cons hr, after_cons hr]
    by_cases hmove : Exchange.isMove ⟨cmd, value, reply⟩ = true
    · rw [List.filter_cons_of_pos hmove, List.map_cons]
      exact ⟨(history_cons hr).trans (congrArg _ hhistory), (after_cons hr).trans hafter⟩
    · -- The commands that follow meet the state that was there before.
      have hsame : s' = s := by
        have hskip := h cmd value s
        rw [hr] at hskip
        refine hskip ?_
        by_cases hpeek : cmd = .peek
        · exact .inl hpeek
        · simpa [Exchange.isMove, hpeek] using hmove
      rw [List.filter_cons_of_neg hmove]
      subst hsame
      exact ⟨hhistory, hafter⟩

end Moves

/-! ## 4. Bounded engines -/

section Bounded

variable {insert : UInt32 → List UInt32 → List UInt32} {c : Nat} {engine : Engine (List UInt32)}

theorem steady_bounded (h : engine = bounded insert c) : engine.Steady := by
  intro cmd value xs hskip
  rcases bounded_cases h cmd value xs with
    ⟨fault, hr⟩ | ⟨rfl, _, hr⟩ | ⟨x, rest, rfl, rfl, hr⟩ | ⟨x, rest, rfl, rfl, hr⟩
  · rw [hr]
  · rw [hr] at hskip
    rcases hskip with hskip | hskip <;> cases hskip
  · rw [hr] at hskip
    rcases hskip with hskip | hskip <;> cases hskip
  · rw [hr]

theorem length_after_le (h : engine = bounded insert c)
    (hinsert : ∀ v xs, (insert v xs).length = xs.length + 1) (cells : Tape (Command × UInt32))
    {xs : List UInt32} (hxs : xs.length ≤ c) : (engine.after cells xs).length ≤ c := by
  induction cells generalizing xs with
  | nil => exact hxs
  | cons cell cells ih =>
    obtain ⟨cmd, value⟩ := cell
    rcases bounded_cases h cmd value xs with
      ⟨fault, hr⟩ | ⟨rfl, hlt, hr⟩ | ⟨x, rest, rfl, rfl, hr⟩ | ⟨x, rest, rfl, rfl, hr⟩
    · rw [after_cons hr]
      exact ih hxs
    · rw [after_cons hr]
      exact ih ((hinsert value xs).symm ▸ hlt)
    · rw [after_cons hr]
      exact ih (Nat.le_of_succ_le hxs)
    · rw [after_cons hr]
      exact ih hxs

/-- A peek answers what a pop in its place would answer, a fault included. -/
theorem reply_peek (h : engine = bounded insert c) (value operand : UInt32) (xs : List UInt32) :
    (engine.apply .peek value xs).1 = (engine.apply .pop operand xs).1 := by
  subst h
  cases xs <;> rfl

/-- There are as many answers to pops as pops that were accepted. -/
theorem length_popped (h : engine = bounded insert c) (cells : Tape (Command × UInt32))
    (xs : List UInt32) :
    (popped (engine.history cells xs)).length = Tape.pops (engine.accepted cells xs) := by
  induction cells generalizing xs with
  | nil => rfl
  | cons cell cells ih =>
    obtain ⟨cmd, value⟩ := cell
    rcases bounded_cases h cmd value xs with
      ⟨fault, hr⟩ | ⟨rfl, _, hr⟩ | ⟨x, rest, rfl, rfl, hr⟩ | ⟨x, rest, rfl, rfl, hr⟩
    · rw [accepted_error hr, history_cons hr]
      cases cmd <;> exact ih xs
    · rw [accepted_ok hr, history_cons hr, Tape.pops_cons]
      exact ih (insert value xs)
    · rw [accepted_ok hr, history_cons hr, Tape.pops_cons]
      exact congrArg (· + 1) (ih rest)
    · rw [accepted_ok hr, history_cons hr, Tape.pops_cons]
      exact ih (x :: rest)

/-- What was there and what was pushed has been popped or is still there. -/
theorem perm_popped_after (h : engine = bounded insert c)
    (hinsert : ∀ v xs, (insert v xs).Perm (v :: xs)) (cells : Tape (Command × UInt32))
    (xs : List UInt32) :
    (xs ++ Tape.pushed (engine.accepted cells xs)).Perm
      (popped (engine.history cells xs) ++ engine.after cells xs) := by
  induction cells generalizing xs with
  | nil => exact List.Perm.of_eq (List.append_nil xs)
  | cons cell cells ih =>
    obtain ⟨cmd, value⟩ := cell
    rcases bounded_cases h cmd value xs with
      ⟨fault, hr⟩ | ⟨rfl, _, hr⟩ | ⟨x, rest, rfl, rfl, hr⟩ | ⟨x, rest, rfl, rfl, hr⟩
    · rw [accepted_error hr, history_cons hr, after_cons hr]
      cases cmd <;> exact ih xs
    · rw [accepted_ok hr, history_cons hr, after_cons hr, Tape.pushed_push]
      exact List.perm_middle.trans
        (((hinsert value xs).symm.append_right _).trans (ih (insert value xs)))
    · rw [accepted_ok hr, history_cons hr, after_cons hr]
      exact (ih rest).cons x
    · rw [accepted_ok hr, history_cons hr, after_cons hr]
      exact ih (x :: rest)

end Bounded

/-! ## 5. Queues -/

/-- What was in a queue and what was pushed, in order, is what was popped, in order, and then what
    is still there. -/
theorem fifo_conserves (c : Nat) (cells : Tape (Command × UInt32)) (xs : List UInt32) :
    xs ++ Tape.pushed ((fifo c).accepted cells xs) =
      popped ((fifo c).history cells xs) ++ (fifo c).after cells xs := by
  induction cells generalizing xs with
  | nil => exact List.append_nil xs
  | cons cell cells ih =>
    obtain ⟨cmd, value⟩ := cell
    rcases bounded_cases (rfl : fifo c = _) cmd value xs with
      ⟨fault, hr⟩ | ⟨rfl, _, hr⟩ | ⟨x, rest, rfl, rfl, hr⟩ | ⟨x, rest, rfl, rfl, hr⟩
    · rw [accepted_error hr, history_cons hr, after_cons hr]
      cases cmd <;> exact ih xs
    · rw [accepted_ok hr, history_cons hr, after_cons hr, Tape.pushed_push, List.append_cons]
      exact ih (xs ++ [value])
    · rw [accepted_ok hr, history_cons hr, after_cons hr]
      exact congrArg (x :: ·) (ih rest)
    · rw [accepted_ok hr, history_cons hr, after_cons hr]
      exact ih (x :: rest)

/-! ## 6. Stacks -/

/-- From bottom to top, a stack holds some of what was in it and what was pushed, in order. -/
theorem lifo_sublist (c : Nat) (cells : Tape (Command × UInt32)) (xs : List UInt32) :
    ((lifo c).after cells xs).reverse.Sublist
      (xs.reverse ++ Tape.pushed ((lifo c).accepted cells xs)) := by
  induction cells generalizing xs with
  | nil => exact List.sublist_append_left _ _
  | cons cell cells ih =>
    obtain ⟨cmd, value⟩ := cell
    rcases bounded_cases (rfl : lifo c = _) cmd value xs with
      ⟨fault, hr⟩ | ⟨rfl, _, hr⟩ | ⟨x, rest, rfl, rfl, hr⟩ | ⟨x, rest, rfl, rfl, hr⟩
    · rw [accepted_error hr, after_cons hr]
      exact ih xs
    · rw [accepted_ok hr, after_cons hr, Tape.pushed_push, List.append_cons, ← List.reverse_cons]
      exact ih (value :: xs)
    · rw [accepted_ok hr, after_cons hr, Tape.pushed_pop, List.reverse_cons]
      exact (ih rest).trans ((List.sublist_append_left _ [x]).append_right _)
    · rw [accepted_ok hr, after_cons hr]
      exact ih (x :: rest)

/-- Commands that are served and nowhere pop more than `above` and what they have pushed leave
    what lies below alone. -/
theorem lifo_level (c : Nat) {cells : Tape (Command × UInt32)} {above below : List UInt32}
    (hserved : ∀ k < cells.length, ¬ (lifo c).FaultsAt cells (above ++ below) k)
    (hdepth : ∀ k ≤ cells.length,
      Tape.pops (cells.take k) ≤ above.length + Tape.pushes (cells.take k)) :
    ∃ top, (lifo c).after cells (above ++ below) = top ++ below ∧
      top.length + Tape.pops cells = above.length + Tape.pushes cells := by
  induction cells generalizing above with
  | nil => exact ⟨above, rfl, rfl⟩
  | cons cell cells ih =>
    obtain ⟨cmd, value⟩ := cell
    have htail {reply : Reply} {xs : List UInt32}
        (hr : (lifo c).apply cmd value (above ++ below) = (reply, xs)) :
        ∀ k < cells.length, ¬ (lifo c).FaultsAt cells xs k :=
      fun k hk => mt (faultsAt_succ hr).mpr (hserved (k + 1) (Nat.succ_lt_succ hk))
    have hdeeper (k : Nat) (hk : k ≤ cells.length) := hdepth (k + 1) (Nat.succ_le_succ hk)
    rcases bounded_cases (rfl : lifo c = _) cmd value (above ++ below) with
      ⟨fault, hr⟩ | ⟨rfl, _, hr⟩ | ⟨x, rest, rfl, hx, hr⟩ | ⟨x, rest, rfl, hx, hr⟩
    · exact absurd ((faultsAt_zero hr).mpr ⟨fault, rfl⟩) (hserved 0 (Nat.zero_lt_succ _))
    · obtain ⟨top, htop, hlen⟩ := @ih (value :: above) (htail hr) fun k hk => by
        have hk := hdeeper k hk
        simp at hk ⊢
        omega
      refine ⟨top, (after_cons hr).trans htop, ?_⟩
      simp at hlen ⊢
      omega
    · cases above with
      | nil => exact absurd (hdepth 1 (Nat.succ_le_succ (Nat.zero_le _))) (by simp [Tape.pushes])
      | cons a above =>
        obtain ⟨rfl, rfl⟩ := List.cons.inj hx
        obtain ⟨top, htop, hlen⟩ := @ih above (htail hr) fun k hk => by
          have hk := hdeeper k hk
          simp at hk
          omega
        refine ⟨top, (after_cons hr).trans htop, ?_⟩
        simp
        omega
    · rw [← hx] at hr
      obtain ⟨top, htop, hlen⟩ := @ih above (htail hr) fun k hk => by
        have hk := hdeeper k hk
        simpa using hk
      refine ⟨top, (after_cons hr).trans htop, ?_⟩
      simpa using hlen

/-- Commands that balance leave a stack as they found it. -/
theorem lifo_balanced (c : Nat) {cells : Tape (Command × UInt32)} {xs : List UInt32}
    (hserved : ∀ k < cells.length, ¬ (lifo c).FaultsAt cells xs k)
    (hbalanced : Tape.Balanced cells) : (lifo c).after cells xs = xs := by
  obtain ⟨hequal, hdepth⟩ := hbalanced
  obtain ⟨top, htop, hlen⟩ := @lifo_level c cells [] xs hserved
    fun k hk => Nat.le_trans (hdepth k hk) (Nat.le_add_left _ _)
  rw [List.length_nil, hequal, Nat.zero_add, Nat.add_eq_right] at hlen
  rw [List.eq_nil_of_length_eq_zero hlen] at htop
  exact htop

/-- A pop behind a push and commands that balance takes back that push. -/
theorem lifo_restores (c : Nat) {before inner : Tape (Command × UInt32)} {v : UInt32}
    {s : List UInt32}
    (hserved : ∀ k < inner.length + 1,
      ¬ (lifo c).FaultsAt (before ++ (.push, v) :: inner) s (before.length + k))
    (hbalanced : Tape.Balanced inner) (operand : UInt32) :
    (lifo c).apply .pop operand ((lifo c).after (before ++ (.push, v) :: inner) s) =
      (.ok (some v), (lifo c).after before s) := by
  have hrest (k : Nat) (hk : k < inner.length + 1) := mt (faultsAt_append before).mpr (hserved k hk)
  rw [after_append]
  generalize (lifo c).after before s = xs at hrest
  rcases bounded_cases (rfl : lifo c = _) .push v xs with
    ⟨fault, hr⟩ | ⟨_, _, hr⟩ | ⟨_, _, hcmd, _⟩ | ⟨_, _, hcmd, _⟩
  · exact absurd ((faultsAt_zero hr).mpr ⟨fault, rfl⟩) (hrest 0 (Nat.zero_lt_succ _))
  · rw [after_cons hr, lifo_balanced c (fun k hk => ?_) hbalanced]
    · rfl
    · exact mt (faultsAt_succ hr).mpr (hrest (k + 1) (Nat.succ_lt_succ hk))
  · cases hcmd
  · cases hcmd

/-! ## 7. Fresh engines -/

/-- The histories of fresh engines of capacity `c`. At no time does an engine hold more than `c`
    elements. A command that is answered by a fault, and every peek, leaves it as it was, and
    without them all other commands get the same replies and lead to the same end; a peek answers
    what a pop in its place would answer. What was pushed onto a queue is what was popped, and then
    what is still there, in order. What was pushed onto a stack has been popped or is still there,
    and what is there is in the order of the pushes; a push and commands behind it that are served
    and balance are taken back by a pop. -/
theorem history_conserved (c : Nat) :
    (∀ (kind : EngineKind) (cells : Tape (Command × UInt32)),
      let engine := kind.engine c
      let moves := (engine.history cells []).filter Exchange.isMove
      (∀ k, engine.size (engine.after (cells.take k) []) ≤ c) ∧
      (∀ k cmd value, cells[k]? = some (cmd, value) →
        (cmd = .peek ∨ engine.FaultsAt cells [] k →
          engine.after (cells.take (k + 1)) [] = engine.after (cells.take k) []) ∧
        (cmd = .peek → ∀ operand, engine.reply? cells [] k =
          some (engine.apply .pop operand (engine.after (cells.take k) [])).1)) ∧
      engine.history (moves.map Exchange.cell) [] = moves ∧
      engine.after (moves.map Exchange.cell) [] = engine.after cells []) ∧
    (∀ cells, Tape.pushed ((fifo c).accepted cells []) =
      popped ((fifo c).history cells []) ++ (fifo c).after cells []) ∧
    (∀ cells,
      let pushed := Tape.pushed ((lifo c).accepted cells [])
      let last := (lifo c).after cells []
      pushed.Perm (popped ((lifo c).history cells []) ++ last) ∧ last.reverse.Sublist pushed) ∧
    ∀ before v inner,
      let cells := before ++ (.push, v) :: inner
      (∀ k < inner.length + 1, ¬ (lifo c).FaultsAt cells [] (before.length + k)) →
      Tape.Balanced inner → ∀ operand,
        (lifo c).apply .pop operand ((lifo c).after cells []) =
          (.ok (some v), (lifo c).after before []) := by
  refine ⟨fun kind cells => ?_, fun cells => fifo_conserves c cells [], fun cells => ?_,
    fun before v inner => lifo_restores c⟩
  · obtain ⟨insert, hinsert, hk⟩ := kind.exists_insert
    have hsteady : (kind.engine c).Steady := steady_bounded (hk c)
    intro engine moves
    refine ⟨fun k => ?_, fun k cmd value hcell => ⟨fun hskip => ?_, ?_⟩,
      history_moves hsteady cells []⟩
    · have hsize : engine.size = List.length := by
        unfold engine
        rw [hk]
        rfl
      rw [hsize]
      exact length_after_le (hk c) hinsert (cells.take k) (Nat.zero_le c)
    · have hreply : engine.reply? cells [] k =
          some (engine.apply cmd value (engine.after (cells.take k) [])).1 := by
        unfold reply?
        rw [hcell]
        rfl
      rw [List.take_add_one, hcell, after_append]
      refine hsteady cmd value _ (hskip.imp_right ?_)
      rintro ⟨fault, hfault⟩
      rw [hreply, Option.some.injEq] at hfault
      exact hfault ▸ rfl
    · rintro rfl operand
      unfold reply?
      rw [hcell]
      exact congrArg some (reply_peek (hk c) value operand _)
  · refine ⟨?_, lifo_sublist c cells []⟩
    exact perm_popped_after (rfl : lifo c = _) (fun v xs => List.Perm.refl (v :: xs)) cells []

/-- An underflow, two pushes, of which the second is looked at and popped, and a pop of the
    first. -/
theorem history_conserved_nested :
    let before : Tape (Command × UInt32) := [(.pop, 0)]
    let inner : Tape (Command × UInt32) := [(.push, 2), (.peek, 0), (.pop, 0)]
    let cells := before ++ (.push, 1) :: inner
    ((fifo 2).FaultsAt cells [] 0 ∧
        (fifo 2).after (cells.take 1) [] = (fifo 2).after (cells.take 0) []) ∧
      (cells[3]? = some (.peek, 0) ∧ (lifo 2).reply? cells [] 3 = some (.ok (some 2))) ∧
      Tape.Balanced inner ∧
        (∀ k < inner.length + 1, ¬ (lifo 2).FaultsAt cells [] (before.length + k)) ∧
        (lifo 2).apply .pop 0 ((lifo 2).after cells []) = (.ok (some 1), []) := by
  intro before inner cells
  have hfault : (fifo 2).FaultsAt cells [] 0 := ⟨.underflow, rfl⟩
  have hbalanced : Tape.Balanced inner := by decide
  have hserved : ∀ k < inner.length + 1, ¬ (lifo 2).FaultsAt cells [] (before.length + k) := by
    intro k hk
    have hk : k = 0 ∨ k = 1 ∨ k = 2 ∨ k = 3 := by
      have : inner.length = 3 := rfl
      omega
    rintro ⟨fault, hfault⟩
    rcases hk with rfl | rfl | rfl | rfl <;> cases hfault
  obtain ⟨hengines, _, _, hstack⟩ := history_conserved 2
  obtain ⟨_, hqueue, _⟩ := hengines .fifo cells
  obtain ⟨_, hpeek, _⟩ := hengines .lifo cells
  exact ⟨⟨hfault, (hqueue 0 .pop 0 rfl).1 (.inr hfault)⟩, ⟨rfl, (hpeek 3 .peek 0 rfl).2 rfl 0⟩,
    hbalanced, hserved, hstack before 1 inner hserved hbalanced 0⟩

end Engine

end CommandTape
