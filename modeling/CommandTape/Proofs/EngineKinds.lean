import CommandTape.Proofs.Outcomes
import CommandTape.Proofs.Stopping

/-!
# The kinds of engine

A queue and a stack answer with different elements, but what each of them serves and how many
elements it holds is what a counter says. A run without its values is the run of a counter, so it
is the same on both kinds. The values are the same as well while no two elements are stored at
once, since the kinds differ only in where a push puts its element beside others.

* `counter_apply`: a bounded sequence without its values is a counter.
* `step_shape`: so is a step, and hence a run.
* `kinds_apply_eq`, `step_kinds_eq`: engines and steps while no two elements are stored.
* `engine_kinds_agree`: runs on the two kinds compared.
-/

namespace CommandTape

/-! ## 1. Counters -/

namespace Engine

/-- A bounded sequence of which only the number of elements is kept. It answers zero. -/
def counter (capacity : Nat) : Engine Nat where
  apply
    | .pop, _, 0 => (.error .underflow, 0)
    | .pop, _, size + 1 => (.ok (some 0), size)
    | .peek, _, 0 => (.error .underflow, 0)
    | .peek, _, size + 1 => (.ok (some 0), size + 1)
    | .push, _, size =>
      if size < capacity then (.ok none, size + 1) else (.error (.overflow capacity), size)
  size := id

end Engine

/-- The reply with zero for its answer. -/
def Reply.shape : Reply → Reply
  | .ok answer => .ok (answer.map fun _ => 0)
  | .error fault => .error fault

theorem Engine.counter_apply (kind : EngineKind) (c : Nat) (cmd : Command) (value : UInt32)
    (xs : List UInt32) :
    (Engine.counter c).apply cmd value xs.length =
      (((kind.engine c).apply cmd value xs).1.shape,
        ((kind.engine c).apply cmd value xs).2.length) := by
  obtain ⟨insert, hinsert, hk⟩ := kind.exists_insert
  rw [hk]
  cases cmd with
  | pop => cases xs <;> rfl
  | peek => cases xs <;> rfl
  | push =>
    simp only [counter, bounded]
    by_cases hlt : xs.length < c
    · rw [if_pos hlt, if_pos hlt, hinsert]
      rfl
    · rw [if_neg hlt, if_neg hlt]
      rfl

/-! ## 2. Runs without their values -/

/-- The tape with zeros for its results. -/
def ResultTape.shape (tape : ResultTape) : ResultTape :=
  { tape with slots := tape.slots.map fun _ => 0 }

/-- What was executed, and whether an answer was recorded. -/
def Outcome.shape : Outcome → Outcome
  | executed inst recorded => executed inst (recorded.map fun _ => 0)
  | halted => halted
  | faulted fault => faulted fault

theorem ResultTape.shape_put (limit : ResultLimit) (j value : UInt32) (tape : ResultTape) :
    (tape.put limit j value).shape = tape.shape.put limit j 0 := by
  unfold put shape
  split <;> simp

namespace Dispatcher

/-- The state with the number of stored elements for the elements and zeros for the answer register
    and the results. The operand register is not among the answers, so it stays. -/
def shape (d : Dispatcher (List UInt32)) : Dispatcher Nat where
  contents := d.contents.length
  status := d.status
  flag := d.flag
  i := d.i
  j := d.j
  cmd := d.cmd
  value := d.value
  ans := 0
  results := d.results.shape

/-- The job of a program on a counter. -/
abbrev counterJob (p : Program) (config : Config) (c : Nat) : Job Nat :=
  ⟨p, Engine.counter c, config⟩

variable {p : Program} {config : Config} {kind : EngineKind} {c : Nat}
  {d : Dispatcher (List UInt32)} {inst : Inst}

theorem served_shape (p : Program) (config : Config) (kind : EngineKind) (c : Nat) (inst : Inst)
    (d : Dispatcher (List UInt32)) :
    d.shape.served (counterJob p config c) inst =
      ((d.served (boundedJob p config kind c) inst).1.shape,
        (d.served (boundedJob p config kind c) inst).2.length) :=
  Engine.counter_apply kind c inst.cmd inst.value d.contents

theorem register_shape (reply : Reply) : register 0 reply.shape = 0 := by
  rcases reply with _ | _ | answer <;> rfl

theorem replyFault?_shape (reply : Reply) : replyFault? reply.shape = replyFault? reply := by
  cases reply <;> rfl

theorem parallel_shape (p : Program) (config : Config) (kind : EngineKind) (c : Nat) (inst : Inst)
    (d : Dispatcher (List UInt32)) :
    Parallel (boundedJob p config kind c) inst d (counterJob p config c) inst d.shape where
  config := rfl
  cmd := rfl
  i := rfl
  j := rfl
  reply := by rw [served_shape p config kind, replyFault?_shape]

theorem executed_shape (p : Program) (config : Config) (kind : EngineKind) (c : Nat) (inst : Inst)
    (d : Dispatcher (List UInt32)) :
    d.shape.executed (counterJob p config c) inst =
      (d.executed (boundedJob p config kind c) inst).shape := by
  have hparallel := parallel_shape p config kind c inst d
  have hwritten : d.shape.written (counterJob p config c) inst =
      (d.written (boundedJob p config kind c) inst).shape := by
    unfold written taken
    rw [served_shape p config kind]
    by_cases hw : d.Writes (boundedJob p config kind c) inst
    · rw [if_pos hw, if_pos (hparallel.writes.mpr hw)]
      simp only [shape, register_shape, ResultTape.shape_put]
    · rw [if_neg hw, if_neg (mt hparallel.writes.mp hw)]
      simp only [shape, register_shape]
  unfold executed
  rw [hwritten, hparallel.raised?]
  rfl

theorem step_shape (p : Program) (config : Config) (kind : EngineKind) (c : Nat)
    (d : Dispatcher (List UInt32)) :
    (step (counterJob p config c) d.shape).state =
        (step (boundedJob p config kind c) d).state.shape ∧
      (step (counterJob p config c) d.shape).outcome =
        (step (boundedJob p config kind c) d).outcome.shape := by
  by_cases hset : d.Settled
  · have hset' : d.shape.Settled := hset
    have hflag : d.shape.flag.fault = d.flag.fault := rfl
    rw [step_of_settled hset, step_of_settled hset', hflag]
    cases d.flag.fault <;> exact ⟨rfl, rfl⟩
  · have hset' : ¬ d.shape.Settled := hset
    cases hi : p.inst? d.i with
    | none =>
      have hi' : p.inst? d.shape.i = none := hi
      rw [step_end hset hi, step_end hset' hi', outcome_end hset hi, outcome_end hset' hi']
      exact ⟨rfl, rfl⟩
    | some inst =>
      have hi' : p.inst? d.shape.i = some inst := hi
      have hparallel := parallel_shape p config kind c inst d
      rw [step_inst hset hi, step_inst hset' hi', outcome_inst hset hi, outcome_inst hset' hi',
        hparallel.raised?, executed_shape p config kind]
      refine ⟨rfl, ?_⟩
      cases d.raised? (boundedJob p config kind c) inst with
      | some fault => rfl
      | none =>
        rw [served_shape p config kind]
        by_cases hw : d.Writes (boundedJob p config kind c) inst
        · rw [if_pos hw, if_pos (hparallel.writes.mpr hw)]
          exact congrArg (Outcome.executed inst <| some ·) (register_shape _)
        · rw [if_neg hw, if_neg (mt hparallel.writes.mp hw)]
          rfl

/-- A run on an engine of either kind is that of a counter once its values are left out. -/
theorem steps_shape (p : Program) (config : Config) (kind : EngineKind) (c n : Nat) :
    (steps (boundedJob p config kind c) n (start [])).shape =
        steps (counterJob p config c) n (start 0) ∧
      (outcomes (boundedJob p config kind c) n (start [])).map Outcome.shape =
        outcomes (counterJob p config c) n (start 0) :=
  ⟨(steps_map shape (fun d => (step_shape p config kind c d).1) n (start [])).symm,
    (outcomes_map shape Outcome.shape (fun d => (step_shape p config kind c d).1)
      (fun d => (step_shape p config kind c d).2) n (start [])).symm⟩

/-! ## 3. Runs that store one element at a time -/

/-- Where a push puts its element makes no difference where there is no other. -/
theorem kinds_apply_eq {cmd : Command} {value : UInt32} {xs : List UInt32}
    (hafter : ((Engine.fifo c).apply cmd value xs).2.length ≤ 1) :
    (Engine.lifo c).apply cmd value xs = (Engine.fifo c).apply cmd value xs := by
  cases cmd with
  | pop => cases xs <;> rfl
  | peek => cases xs <;> rfl
  | push =>
    simp only [Engine.fifo, Engine.lifo, Engine.bounded] at hafter ⊢
    by_cases hlt : xs.length < c
    · rw [if_pos hlt, List.length_append] at hafter
      have hnone : xs.length = 0 := Nat.le_zero.mp (Nat.le_of_succ_le_succ hafter)
      rw [if_pos hlt, if_pos hlt, List.length_eq_zero_iff.mp hnone]
      rfl
    · rw [if_neg hlt, if_neg hlt]

theorem step_kinds_eq
    (hafter : (step (boundedJob p config .fifo c) d).state.contents.length ≤ 1) :
    step (boundedJob p config .lifo c) d = step (boundedJob p config .fifo c) d := by
  by_cases hset : d.Settled
  · rw [step_of_settled hset, step_of_settled hset]
  · cases hi : p.inst? d.i with
    | none =>
      rw [step_of_not_settled hset, step_of_not_settled hset]
      simp only [hi]
    | some inst =>
      rw [step_inst hset hi, executed_contents] at hafter
      have happly := kinds_apply_eq hafter
      rw [step_of_not_settled hset, step_of_not_settled hset]
      simp only [hi]
      exact execute_congr rfl happly

/-! ## 4. The two kinds -/

/-- The kind of engine never changes the shape of a run: after any number of steps, and after a run,
    all but the answers and the stored elements is the same, and so are the outcomes but for the
    answers recorded. While a run stores one element at a time the answers are the same as well,
    and so are the elements and the log. It does so where the program is never two pushes ahead of
    its pops. -/
theorem engine_kinds_agree (p : Program) (config : Config) (c : Nat) :
    let queue := boundedJob p config .fifo c
    let stack := boundedJob p config .lifo c
    let d (n : Nat) := steps queue n (start [])
    let e (n : Nat) := steps stack n (start [])
    (∀ n, (e n).shape = (d n).shape ∧
        (outcomes stack n (start [])).map Outcome.shape =
          (outcomes queue n (start [])).map Outcome.shape) ∧
      (run stack (start [])).1.shape = (run queue (start [])).1.shape ∧
      (∀ n, (∀ m ≤ n, (d m).contents.length ≤ 1) →
        e n = d n ∧ outcomes stack n (start []) = outcomes queue n (start [])) ∧
      ((∀ m, (d m).contents.length ≤ 1) → run stack (start []) = run queue (start [])) ∧
      ((∀ k ≤ p.length, p.depth k ≤ 1) → ∀ m, (d m).contents.length ≤ 1) := by
  intro queue stack d e
  have hshape (n : Nat) : (e n).shape = (d n).shape ∧
      (outcomes stack n (start [])).map Outcome.shape =
        (outcomes queue n (start [])).map Outcome.shape := by
    obtain ⟨hstate, houtcomes⟩ := steps_shape p config .fifo c n
    obtain ⟨hstate', houtcomes'⟩ := steps_shape p config .lifo c n
    exact ⟨hstate'.trans hstate.symm, houtcomes'.trans houtcomes.symm⟩
  have hstep (m : Nat) (h : (d (m + 1)).contents.length ≤ 1) :
      step stack (d m) = step queue (d m) := by
    have hd : d (m + 1) = (step queue (d m)).state := steps_succ queue m (start [])
    exact step_kinds_eq (hd ▸ h)
  refine ⟨hshape, ?_, fun n h => ?_, fun h => ?_, fun h m => ?_⟩
  · rw [run_start, run_start]
    exact (hshape (p.length + 1)).1
  · have hsteps : ∀ m < n, step stack (d m) = step queue (d m) := fun m hm => hstep m (h _ hm)
    exact ⟨steps_congr hsteps, outcomes_congr hsteps⟩
  · exact run_congr rfl fun m => hstep m (h _)
  · exact (Reachable.start.steps m).length_le h

/-- A program that stores one element at a time, and one that stores two and gets another answer
    from a stack than from a queue. -/
theorem engine_kinds_agree_pushPopPop :
    let queue (p : Program) := boundedJob p {} .fifo 2
    let stack (p : Program) := boundedJob p {} .lifo 2
    let pushPushPop : Program := ⟨[(.push, 1), (.push, 2), (.pop, 0)], by decide⟩
    let d := steps (queue pushPushPop) 3 (start [])
    let e := steps (stack pushPushPop) 3 (start [])
    ((∀ k ≤ pushPopPop.length, pushPopPop.depth k ≤ 1) ∧
        run (stack pushPopPop) (start []) = run (queue pushPopPop) (start [])) ∧
      (d.ans = 1 ∧ e.ans = 2) ∧ e.shape = d.shape := by
  intro queue stack pushPushPop d e
  have hdepth : ∀ k ≤ pushPopPop.length, pushPopPop.depth k ≤ 1 := by decide
  obtain ⟨-, -, -, hrun, hsingle⟩ := engine_kinds_agree pushPopPop {} 2
  obtain ⟨hshape, -⟩ := engine_kinds_agree pushPushPop {} 2
  exact ⟨⟨hdepth, hrun (hsingle hdepth)⟩, by decide, (hshape 3).1⟩

end Dispatcher

end CommandTape
