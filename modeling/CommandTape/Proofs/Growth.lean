import CommandTape.Proofs.Coherence

/-!
# What a run never takes back

* `Grows`: one state is at least as far as another, with the same results before its own.
* `grows_step`, `grows_steps`: steps only go on.
-/

namespace CommandTape

/-- An accepted write keeps the slots that are there. -/
theorem ResultTape.slots_prefix_put (limit : ResultLimit) (j value : UInt32) (tape : ResultTape) :
    tape.slots <+: (tape.put limit j value).slots := by
  unfold put
  split
  · exact List.prefix_refl _
  · exact List.prefix_append _ _

/-- A count that stays below the length of a program does not wrap when it moves on. -/
theorem Program.le_add_one {p : Program} {n : UInt32} (h : n.toNat < p.length) : n ≤ n + 1 := by
  rw [UInt32.le_iff_toNat_le, toNat_add_one h]
  exact Nat.le_succ _

namespace Dispatcher

variable {σ : Type} {job : Job σ} {s : σ} {d e f : Dispatcher σ} {inst : Inst}

/-- The state `e` is at least as far as `d`, and what `d` has on its result tape comes first on that
    of `e`. -/
structure Grows (d e : Dispatcher σ) : Prop where
  slots : d.results.slots <+: e.results.slots
  i : d.i ≤ e.i
  j : d.j ≤ e.j
  discarded : d.results.discarded ≤ e.results.discarded

theorem Grows.refl (d : Dispatcher σ) : Grows d d where
  slots := List.prefix_refl _
  i := UInt32.le_refl _
  j := UInt32.le_refl _
  discarded := UInt32.le_refl _

theorem Grows.trans (h : Grows d e) (h' : Grows e f) : Grows d f where
  slots := h.slots.trans h'.slots
  i := UInt32.le_trans h.i h'.i
  j := UInt32.le_trans h.j h'.j
  discarded := UInt32.le_trans h.discarded h'.discarded

theorem grows_executed (h : Coherent job d) (hi : job.program.inst? d.i = some inst) :
    Grows d (d.executed job inst) := by
  have hlt := Program.lt_length_of_inst? hi
  have hj : d.j.toNat < job.program.length := Nat.lt_of_le_of_lt h.recorded_le hlt
  have hdiscarded : d.results.discarded.toNat < job.program.length :=
    Nat.lt_of_le_of_lt h.results.discarded_le hj
  refine { slots := ?_, i := Program.le_add_one hlt, j := ?_, discarded := ?_ }
  · rw [executed_results]
    split
    · exact ResultTape.slots_prefix_put _ _ _ _
    · exact List.prefix_refl _
  · rw [executed_j]
    split
    · exact Program.le_add_one hj
    · exact UInt32.le_refl _
  · rw [executed_results]
    split
    · unfold ResultTape.put
      split
      · exact Program.le_add_one hdiscarded
      · exact UInt32.le_refl _
    · exact UInt32.le_refl _

theorem grows_step (h : Coherent job d) : Grows d (step job d).state := by
  refine step_keeps (P := Grows d) (.refl d) (fun _ _ => ?_) fun _ _ hi => grows_executed h hi
  exact { slots := List.prefix_refl _, i := UInt32.le_refl _, j := UInt32.le_refl _,
          discarded := UInt32.le_refl _ }

theorem grows_steps (h : Reachable job s d) (n : Nat) : Grows d (steps job n d) := by
  induction n with
  | zero => exact .refl d
  | succ n ih =>
    rw [steps_succ]
    exact ih.trans (grows_step (h.steps n).coherent)

end Dispatcher

end CommandTape
