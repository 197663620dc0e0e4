import CommandTape.Proofs.Growth
import CommandTape.Proofs.Replay
import CommandTape.Proofs.Settings
import CommandTape.Session

/-!
# How a configuration is settled

A configuration comes from the command line, a file and the defaults, field by field. Only what has
been settled is looked at, so a value that no run accepts may stand in the file if the command line
overrides it. What is accepted lets every program that is loaded under it run.

* `FileSets`, `loadConfig_eq_ok_iff`: what the file sets that a command line names.
* `executes_within`: how many instructions a run executes of a program that is not empty.
* `resolve_settles`: what a command line and a file are settled to.
-/

namespace CommandTape

open CommandLine (Invocation)

/-! ## 1. The file -/

/-- A file with the bytes of a text is read as that text. -/
theorem FileReader.text_toUTF8 {read : FileReader} {path text : String}
    (h : read path = .ok text.toUTF8) : read.text path = .ok text.toList := by
  have hbytes : String.fromUTF8? text.toUTF8 = some text := by
    simp only [String.fromUTF8?, String.toUTF8_eq_toByteArray, dif_pos text.isValidUTF8]
    rfl
  unfold FileReader.text
  simp only [h, hbytes]

namespace Config

variable {read : FileReader} {path : String} {file : Overrides} {config : Config}

/-- What the named file sets, if one is named. It is there, it is a table, and each field that it
    sets is set to something that the field can be. -/
inductive FileSets (read : FileReader) : Option String → Overrides → Prop
  | unnamed : FileSets read none {}
  | named {path : String} {text : List Char} {entries : Toml.Entries} {file : Overrides}
      (htext : read.text path = .ok text) (hentries : Toml.read? text = some entries)
      (hsets : Sets entries file) : FileSets read (some path) file

theorem loadConfig_eq_ok_iff :
    loadConfig read path = .ok config ↔
      ∃ file, FileSets read (some path) file ∧ merged {} file = config := by
  constructor
  · intro h
    unfold loadConfig ofToml? at h
    split at h
    · cases h
    · next text htext =>
      split at h
      · next config' hread =>
        cases h
        obtain ⟨entries, hentries, hconfig⟩ := Option.bind_eq_some_iff.mp hread
        obtain ⟨file, hsets, hmerged⟩ := ofEntries?_eq_some_iff.mp hconfig
        exact ⟨file, .named htext hentries hsets, hmerged⟩
      · cases h
  · rintro ⟨file, hfile, rfl⟩
    cases hfile with
    | named htext hentries hsets =>
      have hconfig := ofEntries?_eq_some_iff.mpr ⟨file, hsets, rfl⟩
      have hread := Option.bind_eq_some_iff.mpr ⟨_, hentries, hconfig⟩
      simp only [loadConfig, htext, ofToml?, hread]

/-- A file that sets nothing rightly is not there, or else it is malformed. -/
theorem loadConfig_of_not_fileSets (h : ¬ ∃ file, FileSets read (some path) file) :
    loadConfig read path =
      match read.text path with
      | .error error => .error (.file error)
      | .ok _ => .error .toml := by
  unfold loadConfig
  cases htext : read.text path with
  | error error => rfl
  | ok text =>
    cases hread : ofToml? text with
    | none => simp only [hread]
    | some config =>
      have hload : loadConfig read path = .ok config := by simp only [loadConfig, htext, hread]
      obtain ⟨file, hfile, -⟩ := loadConfig_eq_ok_iff.mp hload
      exact absurd ⟨file, hfile⟩ h

end Config

/-! ## 2. Runs under what has been settled -/

namespace Dispatcher

variable {σ : Type} {job : Job σ}

/-- Of a program that is not empty a run executes an instruction, and under a ceiling other than
    zero no more than the ceiling allows. -/
theorem executes_within (s : σ) (hprogram : job.program.isEmpty = false)
    (hceiling : job.config.maxInstructions ≠ 0) :
    let report := (run job (start s)).1.report
    1 ≤ report.instructionsExecuted.toNat ∧
      report.instructionsExecuted.toNat ≤ job.config.maxInstructions.toNat := by
  intro report
  have hlength : 0 < job.program.length := by
    unfold Program.isEmpty at hprogram
    exact List.length_pos_iff.mpr fun hnil => by simp [hnil] at hprogram
  have hstart : Reachable job s (start s) := .start
  have hpositive : 1 ≤ job.config.maxInstructions.toNat :=
    Nat.one_le_iff_ne_zero.mpr fun hzero => hceiling (UInt32.toNat_inj.mp hzero)
  constructor
  · -- The first step takes the cursor to one, and later ones do not take it back.
    have hfirst : (step job (start s)).state.i = 1 := by
      rcases step_cases job (start s) with ⟨hd, -⟩ | ⟨-, hi, -⟩ | ⟨inst, -, -, hstate⟩
      · exact absurd hd (not_settled.mpr ⟨rfl, nofun⟩)
      · exact absurd (Program.inst?_eq_none.mp hi) (Nat.not_le.mpr hlength)
      · rw [hstate]
        rfl
    have hgrows := (grows_steps hstart.step job.program.length).i
    rw [hfirst] at hgrows
    show 1 ≤ (run job (start s)).1.i.toNat
    rw [run_start, steps]
    exact hgrows
  · exact (hstart.run.coherent.ceiling hpositive).1

end Dispatcher

/-! ## 3. What is settled -/

namespace Session

open Config (FileSets merged)

variable {read : FileReader} {invocation : Invocation} {file : Overrides} {config : Config}

/-- The outcome of settling on a configuration. The ceiling is looked at first. -/
def settled (config : Config) : Except Failure Config :=
  if config.maxInstructions = 0 then .error (.invalidConfig .zeroInstructionCeiling)
  else if config.engineCapacity = 0 then .error (.invalidConfig .zeroEngineCapacity)
  else .ok config

theorem settled_eq_ok (hmax : config.maxInstructions ≠ 0) (hcapacity : config.engineCapacity ≠ 0) :
    settled config = .ok config := by
  rw [settled, if_neg hmax, if_neg hcapacity]

theorem maxInstructions_ne_zero {other : Config} (h : settled config = .ok other) :
    other.maxInstructions ≠ 0 := by
  unfold settled at h
  split at h
  · cases h
  · next hmax =>
    split at h
    · cases h
    · cases h
      exact hmax

/-- Overriding what a file gives settles on what both give together. -/
theorem mapError_resolve (flags file : Overrides) :
    (flags.resolve (merged {} file)).mapError .invalidConfig = settled (merged flags file) := by
  unfold Overrides.resolve Config.invalid? settled
  rw [Config.apply_merged]
  by_cases hmax : (merged flags file).maxInstructions = 0
  · simp only [if_pos hmax]
    rfl
  · by_cases hcapacity : (merged flags file).engineCapacity = 0
    · simp only [if_neg hmax, if_pos hcapacity]
      rfl
    · simp only [if_neg hmax, if_neg hcapacity]
      rfl

theorem resolve_of_fileSets (h : FileSets read invocation.config file) :
    (resolve read invocation).1 = settled (merged invocation.overrides file) := by
  unfold resolve
  cases hnamed : invocation.config with
  | none =>
    rw [hnamed] at h
    cases h
    exact mapError_resolve invocation.overrides {}
  | some path =>
    rw [hnamed] at h
    have hload : loadConfig read path = .ok (merged {} file) :=
      Config.loadConfig_eq_ok_iff.mpr ⟨file, h, rfl⟩
    simp only [hload]
    exact mapError_resolve invocation.overrides file

theorem resolve_of_not_fileSets {path : String} (hnamed : invocation.config = some path)
    (h : ¬ ∃ file, FileSets read (some path) file) :
    (resolve read invocation).1 =
      match read.text path with
      | .error error => .error (.loadingConfig path (.file error))
      | .ok _ => .error (.loadingConfig path .toml) := by
  have hload := Config.loadConfig_of_not_fileSets h
  unfold resolve
  rw [hnamed]
  cases htext : read.text path with
  | error error =>
    rw [htext] at hload
    simp only [hload]
  | ok text =>
    rw [htext] at hload
    simp only [hload]

/-- What has been settled comes from a file that could be read, if one is named. -/
theorem exists_fileSets (h : (resolve read invocation).1 = .ok config) :
    ∃ file, FileSets read invocation.config file := by
  by_contra hnot
  cases hnamed : invocation.config with
  | none => exact hnot ⟨{}, hnamed ▸ .unnamed⟩
  | some path =>
    rw [hnamed] at hnot
    rw [resolve_of_not_fileSets hnamed hnot] at h
    cases htext : read.text path <;> simp [htext] at h

/-- A field is not zero if the flag is not and a zero in the file is overridden. -/
theorem getD_or_ne {α : Type} {flag inFile : Option α} {default zero : α}
    (hdefault : default ≠ zero) (hflag : flag ≠ some zero)
    (hfile : inFile = some zero → flag ≠ none) :
    (flag.or inFile).getD default ≠ zero := by
  rintro rfl
  cases flag with
  | some a => exact hflag rfl
  | none =>
    cases inFile with
    | none => exact hdefault rfl
    | some a => exact hfile rfl rfl

/-- Whatever the command line says, a file that it names has to be there and to be read. Otherwise
    each field is the one that the command line gives, or else the one that the file sets, or else
    the default, and only then the two limits are looked at; zeros in the file do not count where
    they are overridden. Under what has been settled, a run of any program that is loaded and not
    empty executes an instruction, and no more than the ceiling allows. -/
theorem resolve_settles (read : FileReader) (invocation : Invocation) :
    let outcome := (resolve read invocation).1
    let flags := invocation.overrides
    (∀ path, invocation.config = some path →
      (∀ error, read.text path = .error error →
        outcome = .error (.loadingConfig path (.file error))) ∧
      ∀ text, read.text path = .ok text → (¬ ∃ file, FileSets read (some path) file) →
        outcome = .error (.loadingConfig path .toml)) ∧
    (∀ file, FileSets read invocation.config file →
      let config := merged flags file
      (outcome =
        if config.maxInstructions = 0 then .error (.invalidConfig .zeroInstructionCeiling)
        else if config.engineCapacity = 0 then .error (.invalidConfig .zeroEngineCapacity)
        else .ok config) ∧
      (flags.maxInstructions ≠ some 0 → flags.engineCapacity ≠ some 0 →
        (file.maxInstructions = some 0 → flags.maxInstructions ≠ none) →
        (file.engineCapacity = some 0 → flags.engineCapacity ≠ none) → outcome = .ok config)) ∧
    ∀ config, outcome = .ok config →
      ∀ (from' : FileReader) path program,
        loadProgram from' path config.maxInstructions = .ok program → program.isEmpty = false →
        ∀ (σ : Type) (engine : Engine σ) (s : σ),
          let report := (Dispatcher.run ⟨program, engine, config⟩ (Dispatcher.start s)).1.report
          program.length ≤ config.maxInstructions.toNat ∧
            1 ≤ report.instructionsExecuted.toNat ∧
            report.instructionsExecuted.toNat ≤ config.maxInstructions.toNat := by
  intro outcome flags
  refine ⟨fun path hnamed => ⟨fun error herror => ?missing, fun text htext hwrong => ?malformed⟩,
    fun file hfile => ?settled, fun config hconfig => ?executes⟩
  case missing =>
    have hnot : ¬ ∃ file, FileSets read (some path) file := by
      rintro ⟨file, hfile⟩
      cases hfile with
      | named htext => cases herror.symm.trans htext
    have houtcome := resolve_of_not_fileSets hnamed hnot
    rw [herror] at houtcome
    exact houtcome
  case malformed =>
    have houtcome := resolve_of_not_fileSets hnamed hwrong
    rw [htext] at houtcome
    exact houtcome
  case settled =>
    have houtcome : outcome = settled (merged flags file) := resolve_of_fileSets hfile
    refine ⟨houtcome, fun hmax hcapacity hmax' hcapacity' => ?_⟩
    rw [houtcome]
    exact settled_eq_ok (getD_or_ne (by decide) hmax hmax')
      (getD_or_ne (by decide) hcapacity hcapacity')
  case executes =>
    intro from' path program hload hempty σ engine s report
    obtain ⟨file, hfile⟩ := exists_fileSets hconfig
    have hceiling : config.maxInstructions ≠ 0 :=
      maxInstructions_ne_zero ((resolve_of_fileSets hfile).symm.trans hconfig)
    exact ⟨length_le_of_loadProgram hload, Dispatcher.executes_within s hempty hceiling⟩

/-- A file with a zero that the command line overrides, and a listing that is loaded under what is
    settled. -/
theorem resolve_settles_overriddenZero :
    let read : FileReader := fun path =>
      if path = "c.toml" then .ok "max_instructions = 0\nengine = 'lifo'\n".toUTF8
      else .ok "push 5\npop\n".toUTF8
    let invocation : Invocation :=
      ⟨.run, "p.txt", 0, some "c.toml", { maxInstructions := some 2 }, none⟩
    let file : Overrides := { maxInstructions := some 0, engine := some .lifo }
    let config : Config := { maxInstructions := 2, engine := .lifo }
    let program : Program := ⟨[(.push, 5), (.pop, 0)], by decide⟩
    FileSets read invocation.config file ∧
      (resolve read invocation).1 = .ok config ∧
      loadProgram read "p.txt" config.maxInstructions = .ok program ∧
      let report :=
        (Dispatcher.run ⟨program, Engine.lifo 16, config⟩ (Dispatcher.start [])).1.report
      1 ≤ report.instructionsExecuted.toNat ∧ report.instructionsExecuted.toNat ≤ 2 := by
  intro read invocation file config program
  have htext : read.text "c.toml" = .ok "max_instructions = 0\nengine = 'lifo'\n".toList :=
    FileReader.text_toUTF8 rfl
  have hentries : Toml.read? "max_instructions = 0\nengine = 'lifo'\n".toList =
      some [("max_instructions", .word (.integer 0)), ("engine", .text "lifo")] := by rfl
  have hfile : FileSets read invocation.config file :=
    .named htext hentries
      { maxInstructions := ⟨_, rfl, rfl⟩, resultCapacity := rfl, engine := ⟨_, rfl, rfl⟩,
        engineCapacity := rfl, recordPolicy := rfl, overflowPolicy := rfl }
  have hload : loadProgram read "p.txt" config.maxInstructions = .ok program := by
    have hlisting : read.text "p.txt" = .ok "push 5\npop\n".toList := FileReader.text_toUTF8 rfl
    rw [loadProgram, hlisting]
    rfl
  obtain ⟨_, hsettled, hexecutes⟩ := resolve_settles read invocation
  have hconfig : (resolve read invocation).1 = .ok config :=
    (hsettled file hfile).2 (by decide) (by decide) (by decide) (by decide)
  exact ⟨hfile, hconfig, hload,
    (hexecutes config hconfig read "p.txt" program hload rfl _ (Engine.lifo 16) []).2⟩

end Session

end CommandTape
