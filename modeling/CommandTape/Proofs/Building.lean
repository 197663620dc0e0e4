import CommandTape.Proofs.Prefix
import CommandTape.Proofs.Replay

/-!
# Programs of data files

Five things can keep a data file from being a program, and several of them at once. What a file is
built into is said here without its builder: the first reason against it, in a fixed order, or else
the program that holds its memories cell by cell.

* `Command.exists_code_eq_iff`: the numbers that are codes.
* `Program.decode_valid`, `Program.decode_invalid`: a tape of codes is decoded as a whole, or its
  first bad cell is named.
* `DataFile.toProgram_iff`: what a data file is built into, for every file and every ceiling.
-/

namespace CommandTape

/-! ## 1. Codes -/

namespace Command

theorem code_le_two (cmd : Command) : cmd.code ≤ 2 := by cases cmd <;> decide

theorem exists_code_eq_iff {code : UInt32} : (∃ cmd : Command, cmd.code = code) ↔ code ≤ 2 := by
  constructor
  · rintro ⟨cmd, rfl⟩
    exact cmd.code_le_two
  · intro h
    have hrange : code = 0 ∨ code = 1 ∨ code = 2 := by
      have hle : code.toNat ≤ 2 := h
      simp only [← UInt32.toNat_inj]
      show code.toNat = 0 ∨ code.toNat = 1 ∨ code.toNat = 2
      omega
    rcases hrange with rfl | rfl | rfl
    · exact ⟨.pop, rfl⟩
    · exact ⟨.peek, rfl⟩
    · exact ⟨.push, rfl⟩

theorem ofCode?_eq_some_iff {code : UInt32} {cmd : Command} :
    ofCode? code = some cmd ↔ cmd.code = code := by
  constructor
  · intro h
    unfold ofCode? at h
    split at h
    next hpop => cases h; exact hpop.symm
    split at h
    next hpeek => cases h; exact hpeek.symm
    split at h
    next hpush => cases h; exact hpush.symm
    cases h
  · rintro rfl
    exact ofCode?_code cmd

theorem ofCode?_of_lt {code : UInt32} (h : 2 < code) : ofCode? code = none := by
  cases hcode : ofCode? code with
  | none => rfl
  | some cmd =>
    have hvalid : code ≤ 2 := exists_code_eq_iff.mp ⟨cmd, ofCode?_eq_some_iff.mp hcode⟩
    exact absurd h (UInt32.not_lt.mpr hvalid)

end Command

namespace Program

/-- A tape of codes is decoded as a whole. -/
theorem decode_valid {codes : Tape UInt32} (h : ∀ code ∈ codes, code ≤ 2) (index : Nat) :
    ∃ commands, decode index codes = .ok commands ∧ commands.map Command.code = codes := by
  obtain ⟨commands, rfl⟩ : ∃ commands : Tape Command, commands.map Command.code = codes := by
    induction codes with
    | nil => exact ⟨[], rfl⟩
    | cons code codes ih =>
      obtain ⟨hcode, hcodes⟩ := List.forall_mem_cons.mp h
      obtain ⟨cmd, rfl⟩ := Command.exists_code_eq_iff.mpr hcode
      obtain ⟨commands, rfl⟩ := ih hcodes
      exact ⟨cmd :: commands, rfl⟩
  exact ⟨commands, decode_map_code index commands, rfl⟩

/-- Of the cells that are no codes the first is named, whatever stands behind it. -/
theorem decode_invalid {before : Tape UInt32} (hbefore : ∀ code ∈ before, code ≤ 2)
    {code : UInt32} (hcode : 2 < code) (behind : Tape UInt32) (index : Nat) :
    decode index (before ++ code :: behind) =
      .error (.invalidCommand (index + before.length) code) := by
  induction before generalizing index with
  | nil =>
    rw [List.nil_append, decode, Command.ofCode?_of_lt hcode]
    rfl
  | cons first before ih =>
    obtain ⟨hfirst, hrest⟩ := List.forall_mem_cons.mp hbefore
    obtain ⟨cmd, rfl⟩ := Command.exists_code_eq_iff.mpr hfirst
    rw [List.cons_append, decode, Command.ofCode?_code, ih hrest, List.length_cons,
      Nat.add_assoc, Nat.add_comm 1]
    rfl

/-- Valid codes leave only the lengths to look at. -/
theorem ofCodes_valid {codes : Tape UInt32} (h : ∀ code ∈ codes, code ≤ 2)
    (operands : Tape UInt32) (ceiling : UInt32) :
    ∃ commands : Tape Command, commands.length = codes.length ∧
      ofCodes codes operands ceiling = ofTapes commands operands ceiling := by
  obtain ⟨commands, hdecode, hmap⟩ := decode_valid h 0
  refine ⟨commands, ?_, ?_⟩
  · rw [← hmap, List.length_map]
  · rw [ofCodes, hdecode]

theorem ofTapes_tooMany {commands : Tape Command} {operands : Tape UInt32} {ceiling : UInt32}
    (hlen : commands.length = operands.length) (h : ceiling.toNat < commands.length) :
    ofTapes commands operands ceiling =
      .error (.tooManyInstructions commands.length ceiling) := by
  have hzip : (commands.zip operands).length = commands.length := by
    rw [List.length_zip, ← hlen, Nat.min_self]
  rw [ofTapes, if_pos hlen, ofCells, dif_neg (hzip ▸ Nat.not_le.mpr h), hzip]

/-! ## 2. Programs cell by cell -/

/-- The program is that of these codes and operands, and its instructions are found by address. -/
structure Holds (codes operands : Tape UInt32) (p : Program) : Prop where
  codes_eq : p.codes = codes
  operands_eq : p.operands = operands
  inst : ∀ (address code operand : UInt32), codes[address.toNat]? = some code →
    operands[address.toNat]? = some operand →
      ∃ cmd, cmd.code = code ∧ p.inst? address = some ⟨address, cmd, operand⟩
  beyond : ∀ address : UInt32, codes.length ≤ address.toNat → p.inst? address = none

theorem length_codes (p : Program) : p.codes.length = p.length := by
  rw [codes, commands, List.length_map, List.length_map, length]

/-- Every program is that of its own codes and operands. -/
theorem holds_self (p : Program) : Holds p.codes p.operands p where
  codes_eq := rfl
  operands_eq := rfl
  inst := by
    intro address code operand hcode hoperand
    simp only [Program.codes, commands, Program.operands, List.getElem?_map,
      Option.map_eq_some_iff] at hcode hoperand
    obtain ⟨_, ⟨cell, hcell, rfl⟩, rfl⟩ := hcode
    obtain ⟨cell', hcell', rfl⟩ := hoperand
    obtain rfl : cell = cell' := Option.some.inj (hcell.symm.trans hcell')
    refine ⟨cell.1, rfl, ?_⟩
    rw [inst?, Tape.read, hcell]
    rfl
  beyond := by
    intro address h
    exact inst?_eq_none.mpr (p.length_codes ▸ h)

/-- Codes and operands of one length that a program can have make one. -/
theorem exists_holds {codes operands : Tape UInt32} (hcodes : ∀ code ∈ codes, code ≤ 2)
    (hlen : codes.length = operands.length) (hbound : codes.length < UInt32.size) :
    ∃ p, Holds codes operands p := by
  obtain ⟨commands, -, rfl⟩ := decode_valid hcodes 0
  rw [List.length_map] at hlen hbound
  have hzip : (commands.zip operands).length = commands.length := by
    rw [List.length_zip, hlen, Nat.min_self]
  let p : Program := ⟨commands.zip operands, hzip ▸ hbound⟩
  have hcommands : p.codes = commands.map Command.code :=
    congrArg (List.map Command.code) (List.map_fst_zip (Nat.le_of_eq hlen))
  have hoperands : p.operands = operands := List.map_snd_zip (Nat.le_of_eq hlen.symm)
  have hself := p.holds_self
  rw [hcommands, hoperands] at hself
  exact ⟨p, hself⟩

end Program

/-! ## 3. Data files -/

namespace DataFile

/-- What a data file is built into under a ceiling. A memory that is not there comes first, and the
    commands before the values; then the first number that is no code; then memories of different
    lengths; then too many instructions. Only a file without any of these is a program. -/
inductive Verdict (ceiling : UInt32) (file : DataFile) : Except DataFileError Program → Prop
  | noCommands (hcommands : file.commands = none) :
      Verdict ceiling file (.error (.missingMemory "commands"))
  | noValues {commands : Memory} (hcommands : file.commands = some commands)
      (hvalues : file.values = none) : Verdict ceiling file (.error (.missingMemory "values"))
  | badCode {commands values : Memory} (hcommands : file.commands = some commands)
      (hvalues : file.values = some values) {before behind : List UInt32} {code : UInt32}
      (hsplit : commands.data = before ++ code :: behind) (hbefore : ∀ c ∈ before, c ≤ 2)
      (hcode : 2 < code) :
      Verdict ceiling file (.error (.program (.invalidCommand before.length code)))
  | lengths {commands values : Memory} (hcommands : file.commands = some commands)
      (hvalues : file.values = some values) (hcodes : ∀ code ∈ commands.data, code ≤ 2)
      (hlen : commands.data.length ≠ values.data.length) :
      Verdict ceiling file
        (.error (.program (.lengthMismatch commands.data.length values.data.length)))
  | tooMany {commands values : Memory} (hcommands : file.commands = some commands)
      (hvalues : file.values = some values) (hcodes : ∀ code ∈ commands.data, code ≤ 2)
      (hlen : commands.data.length = values.data.length)
      (hceiling : ceiling.toNat < commands.data.length) :
      Verdict ceiling file (.error (.program (.tooManyInstructions commands.data.length ceiling)))
  | program {commands values : Memory} (hcommands : file.commands = some commands)
      (hvalues : file.values = some values) (hcodes : ∀ code ∈ commands.data, code ≤ 2)
      (hlen : commands.data.length = values.data.length)
      (hceiling : commands.data.length ≤ ceiling.toNat) {p : Program}
      (hholds : p.Holds commands.data values.data) : Verdict ceiling file (.ok p)

variable {ceiling : UInt32} {file : DataFile} {result : Except DataFileError Program}

/-- With both memories there, the program is made of what they hold. -/
theorem toProgram_of_memories {commands values : Memory} (hcommands : file.commands = some commands)
    (hvalues : file.values = some values) :
    file.toProgram ceiling =
      (Program.ofCodes commands.data values.data ceiling).mapError .program := by
  rw [toProgram, hcommands, hvalues]

theorem Verdict.toProgram_eq (h : Verdict ceiling file result) :
    file.toProgram ceiling = result := by
  cases h with
  | noCommands hcommands => rw [toProgram, hcommands]
  | noValues hcommands hvalues => rw [toProgram, hcommands, hvalues]
  | badCode hcommands hvalues hsplit hbefore hcode =>
    rw [toProgram_of_memories hcommands hvalues, Program.ofCodes, hsplit,
      Program.decode_invalid hbefore hcode, Nat.zero_add]
    rfl
  | @lengths commands values hcommands hvalues hcodes hlen =>
    obtain ⟨decoded, hdecoded, hofCodes⟩ := Program.ofCodes_valid hcodes values.data ceiling
    rw [toProgram_of_memories hcommands hvalues, hofCodes, ← hdecoded, Program.ofTapes,
      if_neg (hdecoded ▸ hlen)]
    rfl
  | @tooMany commands values hcommands hvalues hcodes hlen hceiling =>
    obtain ⟨decoded, hdecoded, hofCodes⟩ := Program.ofCodes_valid hcodes values.data ceiling
    rw [← hdecoded] at hlen hceiling ⊢
    rw [toProgram_of_memories hcommands hvalues, hofCodes, Program.ofTapes_tooMany hlen hceiling]
    rfl
  | @program commands values hcommands hvalues _ _ hceiling p hholds =>
    have hlength : p.length ≤ ceiling.toNat := by
      rw [← p.length_codes, hholds.codes_eq]
      exact hceiling
    rw [toProgram_of_memories hcommands hvalues, ← hholds.codes_eq, ← hholds.operands_eq,
      Program.ofCodes_codes p hlength]
    rfl

/-- There is a verdict on every file. -/
theorem exists_verdict (ceiling : UInt32) (file : DataFile) :
    ∃ result, Verdict ceiling file result := by
  cases hcommands : file.commands with
  | none => exact ⟨_, .noCommands hcommands⟩
  | some commands =>
    cases hvalues : file.values with
    | none => exact ⟨_, .noValues hcommands hvalues⟩
    | some values =>
      cases hfind : commands.data.find? (2 < ·) with
      | some code =>
        obtain ⟨hcode, before, behind, hsplit, hbefore⟩ := List.find?_eq_some_iff_append.mp hfind
        simp only [decide_eq_true_eq, Bool.not_eq_true', decide_eq_false_iff_not,
          UInt32.not_lt] at hcode hbefore
        exact ⟨_, .badCode hcommands hvalues hsplit hbefore hcode⟩
      | none =>
        have hcodes : ∀ code ∈ commands.data, code ≤ 2 := by
          simpa only [List.find?_eq_none, decide_eq_true_eq, UInt32.not_lt] using hfind
        by_cases hlen : commands.data.length = values.data.length
        · rcases Nat.lt_or_ge ceiling.toNat commands.data.length with hceiling | hceiling
          · exact ⟨_, .tooMany hcommands hvalues hcodes hlen hceiling⟩
          · have hbound : commands.data.length < UInt32.size :=
              Nat.lt_of_le_of_lt hceiling ceiling.toNat_lt
            obtain ⟨p, hholds⟩ := Program.exists_holds hcodes hlen hbound
            exact ⟨_, .program hcommands hvalues hcodes hlen hceiling hholds⟩
        · exact ⟨_, .lengths hcommands hvalues hcodes hlen⟩

/-- What a data file is built into: one verdict, for every file and every ceiling. Where several
    things are wrong the first of them is told, and a program that is built holds both memories
    exactly, with an instruction at each address below its length and none at any other. -/
theorem toProgram_iff (ceiling : UInt32) (file : DataFile)
    (result : Except DataFileError Program) :
    file.toProgram ceiling = result ↔ Verdict ceiling file result := by
  constructor
  · rintro rfl
    obtain ⟨result, hverdict⟩ := exists_verdict ceiling file
    exact hverdict.toProgram_eq ▸ hverdict
  · exact Verdict.toProgram_eq

/-- A bad code is told before memories of different lengths, and these before the ceiling. -/
example : (DataFile.mk (some ⟨[2, 7, 9], .bitnum 2⟩) (some ⟨[], .bitnum 32⟩) none).toProgram 0 =
    .error (.program (.invalidCommand 1 7)) := by rfl

end DataFile

end CommandTape
