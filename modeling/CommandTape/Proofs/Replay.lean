import CommandTape.Proofs.Damage
import CommandTape.Proofs.Stopping
import CommandTape.Session

/-!
# Results that can be run again

The data file of a finished run holds the program that was run, next to its answers. Written and
read again, it gives back that program, whatever the run has recorded; so a run of what was read
ends as the first one did, and its results are written with the same text.

* `Program.ofCodes_codes`: a program is made again from its codes and operands.
* `DataFile.toProgram_withResults`: the data file of a finished run is its program.
* `DataFile.results_replay`: a run, its results written and read, and the same run again.
* `Session.perform_again`: a session on the file that a session has written.
-/

namespace CommandTape

/-! ## 1. Programs as codes and operands -/

namespace Program

theorem decode_map_code (index : Nat) (commands : Tape Command) :
    decode index (commands.map Command.code) = .ok commands := by
  induction commands generalizing index with
  | nil => rfl
  | cons c commands ih =>
    rw [List.map_cons, decode, Command.ofCode?_code, ih]
    rfl

theorem zip_commands_operands (p : Program) : p.commands.zip p.operands = p.cells := by
  rw [commands, operands, ← List.unzip_fst, ← List.unzip_snd, List.zip_unzip]

/-- A program is made again from its codes and operands, the operands of pops and peeks among
    them, under every ceiling that it fits under. -/
theorem ofCodes_codes (p : Program) {ceiling : UInt32} (h : p.length ≤ ceiling.toNat) :
    ofCodes p.codes p.operands ceiling = .ok p := by
  have hlengths : p.commands.length = p.operands.length := by
    rw [commands, operands, List.length_map, List.length_map]
  rw [ofCodes, codes, decode_map_code]
  simp only [ofTapes, if_pos hlengths, zip_commands_operands]
  exact dif_pos h

/-- What is reported of a program that is run on a fresh engine. -/
def reportUnder (p : Program) (config : Config) : Report :=
  (Dispatcher.run (Dispatcher.boundedJob p config config.engine config.engineCapacity)
    (Dispatcher.start [])).1.report

end Program

/-! ## 2. The data file of a finished run -/

namespace DataFile

open Dispatcher (pushPopPop)

theorem length_padded (length : Nat) (cells : List UInt32) :
    (padded length cells).length = max length cells.length := by
  rw [padded, List.length_append, List.length_replicate]
  omega

/-- The data file of a finished run is its program, whatever the run has recorded. -/
theorem toProgram_withResults (p : Program) (report : Report) (pad : UInt32) {ceiling : UInt32}
    (h : p.length ≤ ceiling.toNat) : (withResults p report pad).toProgram ceiling = .ok p := by
  rw [toProgram, withResults]
  simp only [Program.ofCodes_codes p h]
  rfl

theorem read_withResults (p : Program) (report : Report) (pad : UInt32) :
    read (withResults p report pad).write.toList = .ok (withResults p report pad) := by
  have hread := read_layout_append (withResults p report pad) Json.Reading.isGap_nil
  rwa [List.append_nil, ← toList_write] at hread

/-- Written results replay. The text of the data file of a finished run is read as a data file, and
    that is the program that was run, command by command and operand by operand, under every
    ceiling that the program fits under. Run again under the same configuration, it ends with the
    same report, and its results are written with the same text. The answers in the file are the
    results, none of them cut off, with zeros behind them that fill at least `pad` cells. -/
theorem results_replay (p : Program) (config : Config) (pad ceiling : UInt32)
    (h : p.length ≤ ceiling.toNat) :
    let report := p.reportUnder config
    let text := (withResults p report pad).write
    ∃ file q, read text.toList = .ok file ∧ file.toProgram ceiling = .ok q ∧ q = p ∧
      q.reportUnder config = report ∧
      (withResults q (q.reportUnder config) pad).write = text ∧
      ∃ answers, file.answers = some answers ∧
        answers.data = report.results ++ List.replicate (pad.toNat - report.results.length) 0 ∧
        answers.data.length = max pad.toNat report.results.length := by
  intro report text
  refine ⟨withResults p report pad, p, read_withResults p report pad,
    toProgram_withResults p report pad h, rfl, rfl, rfl, _, rfl, rfl, ?_⟩
  exact length_padded pad.toNat report.results

/-- A tape that has grown beyond the cells that are filled. -/
theorem results_replay_pushPopPop :
    let config : Config := { resultCapacity := 1, overflowPolicy := .grow }
    let text := (withResults pushPopPop (pushPopPop.reportUnder config) 1).write
    pushPopPop.length ≤ (3 : UInt32).toNat ∧
      ∃ file q, read text.toList = .ok file ∧ file.toProgram 3 = .ok q ∧ q = pushPopPop ∧
        ∃ answers, file.answers = some answers ∧ answers.data = [5, 5] := by
  intro config text
  have hlen : pushPopPop.length ≤ (3 : UInt32).toNat := by decide
  have hresults : (pushPopPop.reportUnder config).results = [5, 5] := by decide
  obtain ⟨file, q, hread, hprogram, hq, _, _, answers, hanswers, hdata, _⟩ :=
    results_replay pushPopPop config 1 3 hlen
  rw [hresults] at hdata
  exact ⟨hlen, file, q, hread, hprogram, hq, answers, hanswers, hdata⟩

end DataFile

/-! ## 3. Loaded programs -/

section Loaded

variable {p : Program} {ceiling : UInt32}

theorem ok_of_mapError {ε ε' α : Type} {made : Except ε α} {tell : ε → ε'} {a : α}
    (h : made.mapError tell = .ok a) : made = .ok a := by
  cases made with
  | error e => cases h
  | ok b => exact congrArg Except.ok (Except.ok.inj h)

theorem Program.length_le_of_ofCells {cells : Tape (Command × UInt32)}
    (h : ofCells cells ceiling = .ok p) : p.length ≤ ceiling.toNat := by
  unfold ofCells at h
  split at h
  · next hlen =>
    cases h
    exact hlen
  · cases h

theorem DataFile.length_le_of_toProgram {file : DataFile} (h : file.toProgram ceiling = .ok p) :
    p.length ≤ ceiling.toNat := by
  unfold toProgram at h
  split at h
  · cases h
  · cases h
  · have hcodes := ok_of_mapError h
    unfold Program.ofCodes Program.ofTapes at hcodes
    split at hcodes
    · cases hcodes
    · split at hcodes
      · exact Program.length_le_of_ofCells hcodes
      · cases hcodes

theorem Listing.length_le_of_read {text : List Char} (h : read text ceiling = .ok p) :
    p.length ≤ ceiling.toNat := by
  unfold read at h
  split at h
  · cases h
  · exact Program.length_le_of_ofCells (ok_of_mapError h)

variable {read : FileReader} {path : String}

/-- A program that was loaded under a ceiling fits under it, from whatever it was read. -/
theorem length_le_of_loadProgram (h : loadProgram read path ceiling = .ok p) :
    p.length ≤ ceiling.toNat := by
  unfold loadProgram at h
  split at h
  · cases h
  · split at h
    · split at h
      · cases h
      · exact DataFile.length_le_of_toProgram (ok_of_mapError h)
    · exact Listing.length_le_of_read (ok_of_mapError h)

/-- The file of a finished run is loaded as the program that was run. -/
theorem loadProgram_written {report : Report} {pad : UInt32}
    (hname : Path.extension? path = some "json")
    (htext : read.text path = .ok (DataFile.withResults p report pad).write.toList)
    (h : p.length ≤ ceiling.toNat) : loadProgram read path ceiling = .ok p := by
  rw [loadProgram, htext]
  simp only [if_pos hname, DataFile.read_withResults, DataFile.toProgram_withResults p report pad h]
  rfl

end Loaded

/-! ## 4. Sessions on written results -/

namespace Session

open CommandLine (Invocation)

variable {read read' : FileReader} {invocation : Invocation} {config : Config} {p : Program}

/-- What a session shows and has to write when it runs a program. -/
theorem perform_run (hconfig : (resolve read invocation).1 = .ok config)
    (hload : loadProgram read invocation.data config.maxInstructions = .ok p)
    (haction : invocation.action = .run) :
    (perform read invocation).stdout = summary (p.reportUnder config) ∧
      (perform read invocation).output = invocation.output.map fun target =>
        (target, (DataFile.withResults p (p.reportUnder config) config.resultCapacity).write) := by
  unfold perform
  simp only [hconfig, hload, haction]
  exact ⟨rfl, rfl⟩

/-- Only a session that runs a program has something to write. -/
theorem exists_of_output {written : String × String}
    (h : (perform read invocation).output = some written) :
    ∃ config p, (resolve read invocation).1 = .ok config ∧
      loadProgram read invocation.data config.maxInstructions = .ok p ∧
      invocation.action = .run := by
  unfold perform at h
  split at h
  next resolved events hresolve =>
    split at h
    · cases h
    · next config =>
      split at h
      · cases h
      · next p hload =>
        split at h
        · cases h
        · next haction => exact ⟨config, p, congrArg Prod.fst hresolve, hload, haction⟩

/-- A session on the file that a session has written prints what that one printed, and has the same
    text to write, as long as the configuration is the same. -/
theorem perform_again {target text : String}
    (h : (perform read invocation).output = some (target, text))
    (hname : Path.extension? target = some "json")
    (htext : read'.text target = .ok text.toList)
    (hconfig : (resolve read' invocation).1 = (resolve read invocation).1) :
    let again : Invocation := { invocation with data := target }
    (perform read' again).stdout = (perform read invocation).stdout ∧
      (perform read' again).output = some (target, text) := by
  intro again
  obtain ⟨config, p, hresolved, hload, haction⟩ := exists_of_output h
  obtain ⟨hstdout, houtput⟩ := perform_run hresolved hload haction
  have hwritten : text =
      (DataFile.withResults p (p.reportUnder config) config.resultCapacity).write := by
    obtain ⟨_, _, hpair⟩ := Option.map_eq_some_iff.mp (houtput.symm.trans h)
    exact (congrArg Prod.snd hpair).symm
  have hreload : loadProgram read' target config.maxInstructions = .ok p :=
    loadProgram_written hname (hwritten ▸ htext) (length_le_of_loadProgram hload)
  have hresolved' : (resolve read' again).1 = .ok config := hconfig.trans hresolved
  obtain ⟨hstdout', houtput'⟩ := perform_run hresolved' hreload haction
  exact ⟨hstdout'.trans hstdout.symm, (houtput'.trans houtput.symm).trans h⟩

end Session

end CommandTape
