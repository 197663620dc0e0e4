import CommandTape.Proofs.Bounded
import Mathlib.Logic.Basic

/-!
# Where a run stops

On a bounded engine, three limits end a run: the engine's capacity, the result tape and the
ceiling. Where each of them bites can be read off the program alone, by counting commands.

* `raised?_eq`: while no fault is up, the next instruction raises a fault exactly if one of the
  limits bites, and then that of the first.
* `Accounted.step`: a step keeps the counts in step with the engine's contents.
* `Reachable.length_le`: an engine never stores more elements than the program is deep.
* `run_stops`: a run ends at the first instruction at which a limit bites, or at the end.
-/

namespace CommandTape

/-! ## 1. Where the limits bite -/

namespace Program

/-- Pushes less pops among the first `k` instructions. -/
def depth (p : Program) (k : Nat) : Int := p.pushesBefore k - p.popsBefore k

/-- Instruction `k` pushes onto `c` elements or more, or answers where none is left. -/
def EngineBad (p : Program) (c k : Nat) : Prop :=
  (p.commands[k]? = some .push ∧ (c : Int) ≤ p.depth k) ∨ (p.AnswersAt k ∧ p.depth k ≤ 0)

/-- Instruction `k` answers although the result tape is full, and a full tape is a fault. -/
def TapeBad (p : Program) (limit : ResultLimit) (k : Nat) : Prop :=
  limit.policy = .fault ∧ p.AnswersAt k ∧ limit.capacity.toNat ≤ p.answersBefore k

/-- Instruction `k` is the last that the ceiling allows. -/
def CeilingBad (ceiling : UInt32) (k : Nat) : Prop := k + 1 = ceiling.toNat

/-- One of the three limits bites at instruction `k`. -/
def Bad (p : Program) (config : Config) (c k : Nat) : Prop :=
  p.EngineBad c k ∨ p.TapeBad config.resultLimit k ∨ CeilingBad config.maxInstructions k

instance (p : Program) (c k : Nat) : Decidable (p.EngineBad c k) :=
  inferInstanceAs (Decidable (_ ∨ _))

instance (p : Program) (limit : ResultLimit) (k : Nat) : Decidable (p.TapeBad limit k) :=
  inferInstanceAs (Decidable (_ ∧ _))

instance (ceiling : UInt32) (k : Nat) : Decidable (CeilingBad ceiling k) :=
  inferInstanceAs (Decidable (_ = _))

instance (p : Program) (config : Config) (c k : Nat) : Decidable (p.Bad config c k) :=
  inferInstanceAs (Decidable (_ ∨ _))

/-- Instruction `k` is the first at which a limit bites. -/
def FirstBad (p : Program) (config : Config) (c k : Nat) : Prop :=
  k < p.length ∧ p.Bad config c k ∧ ∀ l < k, ¬ p.Bad config c l

instance (p : Program) (config : Config) (c k : Nat) : Decidable (p.FirstBad config c k) :=
  inferInstanceAs (Decidable (_ ∧ _))

theorem FirstBad.unique {p : Program} {config : Config} {c k l : Nat}
    (hk : p.FirstBad config c k) (hl : p.FirstBad config c l) : k = l := by
  rcases Nat.lt_trichotomy k l with h | h | h
  · exact absurd hk.2.1 (hl.2.2 k h)
  · exact h
  · exact absurd hl.2.1 (hk.2.2 l h)

/-- The fault that counts at instruction `k`, where a limit bites: the engine comes before the
    result tape, and the tape before the ceiling. -/
def stopFault (p : Program) (config : Config) (c k : Nat) : Fault :=
  if p.EngineBad c k then
    .engine (if p.commands[k]? = some .push then .overflow c else .underflow)
  else if p.TapeBad config.resultLimit k then .resultCapacity config.resultCapacity
  else .instructionCeiling config.maxInstructions

theorem depth_succ {p : Program} {k : Nat} {cell : Command × UInt32}
    (h : p.cells[k]? = some cell) :
    p.depth (k + 1) =
      p.depth k + (if cell.1 = .push then 1 else 0) - (if cell.1 = .pop then 1 else 0) := by
  unfold depth
  rw [pushesBefore_succ h, popsBefore_succ h]
  split <;> split <;> omega

end Program

namespace Dispatcher

/-! ## 2. The fault of the next instruction -/

/-- The job of a program on a fresh engine of either kind. -/
abbrev boundedJob (p : Program) (config : Config) (kind : EngineKind) (c : Nat) :
    Job (List UInt32) :=
  ⟨p, kind.engine c, config⟩

variable {p : Program} {config : Config} {kind : EngineKind} {c : Nat}
  {d : Dispatcher (List UInt32)} {inst : Inst}

/-- The engine faults exactly where the depth says so. -/
theorem replyFault?_served (config : Config) (kind : EngineKind) (c : Nat)
    (hd : (d.contents.length : Int) = p.depth d.i.toNat) (hi : p.inst? d.i = some inst) :
    replyFault? (d.served (boundedJob p config kind c) inst).1 =
      if p.EngineBad c d.i.toNat then
        some (.engine (if p.commands[d.i.toNat]? = some .push then .overflow c else .underflow))
      else none := by
  obtain ⟨insert, _, hk⟩ := kind.exists_insert
  have hcmd := Program.command_of_cell (Program.cell_of_inst? hi)
  have hbad : p.EngineBad c d.i.toNat ↔
      (inst.cmd = .push ∧ c ≤ d.contents.length) ∨
        (inst.cmd.records = true ∧ d.contents.length = 0) := by
    have hempty : (d.contents.length : Int) ≤ 0 ↔ d.contents.length = 0 := by omega
    unfold Program.EngineBad
    rw [hcmd, Program.answersAt_iff (Program.cell_of_inst? hi), ← hd, Option.some.injEq,
      Int.ofNat_le, hempty]
  unfold served boundedJob
  rw [hk, Engine.replyFault?_bounded, hcmd, if_congr hbad rfl rfl]
  cases inst.cmd with
  | pop => simp [Command.records]
  | peek => simp [Command.records]
  | push => simp [Command.records]

theorem writeFault?_eq {job : Job (List UInt32)} (h : Coherent job d) (hf : d.flag.fault = none)
    (hi : job.program.inst? d.i = some inst)
    (hr : replyFault? (d.served job inst).1 = none) :
    d.writeFault? job inst =
      if job.program.TapeBad job.config.resultLimit d.i.toNat then
        some (.resultCapacity job.config.resultCapacity)
      else none := by
  refine if_congr ?_ rfl rfl
  unfold Program.TapeBad
  rw [attempts_iff_of_replyFault?_none hr, Program.answersAt_iff (Program.cell_of_inst? hi),
    ← h.recorded hf]
  exact and_left_comm

theorem ceilingFault?_eq {ceiling : UInt32} (hi : p.inst? d.i = some inst) :
    ceilingFault? ceiling (d.i + 1) =
      if Program.CeilingBad ceiling d.i.toNat then some (.instructionCeiling ceiling)
      else none := by
  have hadd := Program.toNat_add_one (Program.lt_length_of_inst? hi)
  refine if_congr ?_ rfl rfl
  unfold Program.CeilingBad
  rw [← hadd, UInt32.toNat_inj]

theorem raised?_eq (h : Coherent (boundedJob p config kind c) d) (hf : d.flag.fault = none)
    (hd : (d.contents.length : Int) = p.depth d.i.toNat) (hi : p.inst? d.i = some inst) :
    d.raised? (boundedJob p config kind c) inst =
      if p.Bad config c d.i.toNat then some (p.stopFault config c d.i.toNat) else none := by
  have hr := replyFault?_served config kind c hd hi
  unfold raised? Program.Bad Program.stopFault
  rw [ceilingFault?_eq hi]
  -- The cases are split in the order in which the stages raise.
  by_cases he : p.EngineBad c d.i.toNat
  · simp [hr, he]
  · have hr' : replyFault? (d.served (boundedJob p config kind c) inst).1 = none := by
      rw [hr, if_neg he]
    rw [hr', writeFault?_eq h hf hi hr']
    by_cases ht : p.TapeBad config.resultLimit d.i.toNat
    · simp [he, ht]
    · by_cases hc : Program.CeilingBad config.maxInstructions d.i.toNat
      · simp [he, ht, hc]
      · simp [he, ht, hc]

/-! ## 3. Counts along a run -/

/-- The state of a run agrees with the counts: without a fault, no limit has bitten and the engine
    holds as many elements as the depth says; a fault is that of the first instruction at which a
    limit bites, and the cursor is right behind it. -/
def Accounted (p : Program) (config : Config) (c : Nat) (d : Dispatcher (List UInt32)) : Prop :=
  match d.flag.fault with
  | none =>
    (d.contents.length : Int) = p.depth d.i.toNat ∧ ∀ k < d.i.toNat, ¬ p.Bad config c k
  | some fault =>
    ∃ k, p.FirstBad config c k ∧ d.i.toNat = k + 1 ∧ fault = p.stopFault config c k

theorem Accounted.executed (h : Accounted p config c d)
    (hd : Coherent (boundedJob p config kind c) d) (hf : d.flag.fault = none)
    (hi : p.inst? d.i = some inst) :
    Accounted p config c (d.executed (boundedJob p config kind c) inst) := by
  have hlt := Program.lt_length_of_inst? hi
  have hadd : (d.i + 1).toNat = d.i.toNat + 1 := Program.toNat_add_one hlt
  unfold Accounted at h
  rw [hf] at h
  obtain ⟨hlen, hgood⟩ := h
  have hraised := raised?_eq hd hf hlen hi
  unfold Accounted
  rw [executed_fault, executed_i, executed_contents, hadd]
  by_cases hb : p.Bad config c d.i.toNat
  · rw [hraised, if_pos hb]
    exact ⟨d.i.toNat, ⟨hlt, hb, hgood⟩, rfl, rfl⟩
  · rw [hraised, if_neg hb]
    rw [if_neg hb] at hraised
    refine ⟨?_, fun k hk => ?_⟩
    · obtain ⟨insert, hinsert, hk⟩ := kind.exists_insert
      have hr := (raised?_eq_none.mp hraised).1
      rw [Program.depth_succ (Program.cell_of_inst? hi), ← hlen]
      unfold served boundedJob at hr ⊢
      rw [hk] at hr ⊢
      exact Engine.length_bounded hinsert hr
    · rcases Nat.lt_succ_iff_lt_or_eq.mp hk with hk | hk
      · exact hgood k hk
      · exact hk ▸ hb

theorem Accounted.step (h : Accounted p config c d)
    (hd : Coherent (boundedJob p config kind c) d) :
    Accounted p config c (step (boundedJob p config kind c) d).state :=
  step_keeps h (fun _ _ => h) fun _ => h.executed hd

theorem Reachable.accounted (h : Reachable (boundedJob p config kind c) [] d) :
    Accounted p config c d :=
  h.induction ⟨rfl, fun k hk => absurd hk (Nat.not_lt_zero k)⟩
    fun _ he ih => ih.step he.coherent

theorem Accounted.length_executed_le {b : Nat} (h : Accounted p config c d)
    (hf : d.flag.fault = none) (hi : p.inst? d.i = some inst) (hle : d.contents.length ≤ b)
    (hdepth : p.depth (d.i.toNat + 1) ≤ b) :
    (d.executed (boundedJob p config kind c) inst).contents.length ≤ b := by
  obtain ⟨insert, hinsert, hk⟩ := kind.exists_insert
  rw [executed_contents]
  unfold served
  rcases Engine.bounded_cases (hk c) inst.cmd inst.value d.contents with
    ⟨fault, happly⟩ | ⟨hpush, _, happly⟩ | ⟨x, rest, _, hxs, happly⟩ | ⟨x, rest, _, hxs, happly⟩
  · rw [happly]
    exact hle
  · unfold Accounted at h
    rw [hf] at h
    rw [Program.depth_succ (Program.cell_of_inst? hi), hpush, ← h.1] at hdepth
    simp only [if_true, reduceCtorEq, if_false] at hdepth
    rw [happly, hinsert]
    omega
  · rw [happly]
    rw [hxs] at hle
    exact Nat.le_of_succ_le hle
  · rw [happly, ← hxs]
    exact hle

/-- An engine never stores more elements than the program is deep. -/
theorem Reachable.length_le {b : Nat} (hdepth : ∀ k ≤ p.length, p.depth k ≤ b)
    (h : Reachable (boundedJob p config kind c) [] d) : d.contents.length ≤ b := by
  refine h.induction (P := fun e : Dispatcher (List UInt32) => e.contents.length ≤ b) ?_
    fun e he ih => ?_
  · exact Nat.zero_le b
  · rcases step_cases (boundedJob p config kind c) e with ⟨_, hs⟩ | ⟨_, _, hs⟩ | ⟨inst, hf, hi, hs⟩
    · exact hs.symm ▸ ih
    · exact hs.symm ▸ ih
    · rw [hs]
      exact he.accounted.length_executed_le hf hi ih (hdepth _ (Program.lt_length_of_inst? hi))

/-! ## 4. The end of a run -/

/-- The stopping law: a run on a fresh engine of either kind ends right behind the first
    instruction at which a limit bites, with the fault of that limit, and where there is none it
    stops at the end of the program. -/
theorem run_stops (p : Program) (config : Config) (kind : EngineKind) (c : Nat) :
    let last := (run (boundedJob p config kind c) (start [])).1
    (∀ k, p.FirstBad config c k →
      last.report.instructionsExecuted.toNat = k + 1 ∧
        last.status = .error (p.stopFault config c k) ∧
        last.report.fault = some (p.stopFault config c k)) ∧
    ((∀ k < p.length, ¬ p.Bad config c k) →
      last.report.fault = none ∧ last.status = .stopped ∧
        last.report.instructionsExecuted.toNat = p.length) := by
  intro last
  have hreach : Reachable (boundedJob p config kind c) [] last := .run .start
  have hcoh := hreach.coherent
  have hacc := hreach.accounted
  unfold Accounted at hacc
  unfold report
  cases hf : last.flag.fault with
  | none =>
    rw [hf] at hacc
    have hstop : last.status = .stopped :=
      (settled_run _ _).resolve_left fun hne => hne hf
    have hend : last.i.toNat = p.length := (hcoh.stopped hstop).1
    refine ⟨fun k hk => ?_, fun _ => ⟨rfl, hstop, hend⟩⟩
    exact absurd hk.2.1 (hacc.2 k (hend ▸ hk.1))
  | some fault =>
    rw [hf] at hacc
    obtain ⟨k, hk, hi, rfl⟩ := hacc
    refine ⟨fun l hl => ?_, fun hgood => absurd hk.2.1 (hgood k hk.1)⟩
    have hkl : l = k := hl.unique hk
    subst hkl
    exact ⟨hi, (hcoh.status_error _).mpr hf, rfl⟩

/-- All three limits bite at once, and none. -/
theorem run_stops_pushPopPop :
    let stopped := (run (boundedJob pushPopPop tight .fifo 1) (start [])).1
    let pushPop : Program := ⟨[(.push, 5), (.pop, 0)], by decide⟩
    let ended := (run (boundedJob pushPop {} .lifo 1) (start [])).1
    (pushPopPop.FirstBad tight 1 2 ∧ stopped.report.fault = some (.engine .underflow)) ∧
      (∀ k < pushPop.length, ¬ pushPop.Bad {} 1 k) ∧ ended.status = .stopped := by
  intro stopped pushPop ended
  have hbad : pushPopPop.FirstBad tight 1 2 := by decide
  have hgood : ∀ k < pushPop.length, ¬ pushPop.Bad {} 1 k := by decide
  have hstop := (run_stops pushPopPop tight .fifo 1).1 2 hbad
  have hend := (run_stops pushPop {} .lifo 1).2 hgood
  exact ⟨⟨hbad, hstop.2.2⟩, hgood, hend.2.1⟩

end Dispatcher

end CommandTape
