import CommandTape.CommandLine.Reading
import CommandTape.Event.Filter
import CommandTape.Failure

/-!
# Sessions

What an invocation of the program does: settle the configuration, load the program, then list it
or run it and report. All of it is a function of what can be read. Only the output of a run is
left to be written when all else is done.
-/

namespace CommandTape

open CommandLine (Action Invocation)

/-- What a session has to show. -/
structure Session where
  stdout : String := ""
  /-- What it logs, before a filter. -/
  events : List Event := []
  failure : Option Failure := none
  /-- A file that is still to be written. -/
  output : Option (String × String) := none

namespace Session

/-- Settles the configuration. A file that is named must be there and be read. -/
def resolve (read : FileReader) (invocation : Invocation) :
    Except Failure Config × List Event :=
  match invocation.config with
  | none => ((invocation.overrides.resolve {}).mapError .invalidConfig, [])
  | some path =>
    match loadConfig read path with
    | .error error => (.error (.loadingConfig path error), [])
    | .ok config =>
      ((invocation.overrides.resolve config).mapError .invalidConfig, [.configLoaded path config])

/-- What is printed of a report. -/
def summary (report : Report) : String :=
  let results := ", ".intercalate (report.results.map toString)
  s!"results: [{results}]\n" ++
  s!"instructions: {report.instructionsExecuted}\n" ++
  s!"err: {report.err}\n" ++
  (match report.fault with
    | none => ""
    | some fault => s!"fault: {fault.message}\n") ++
  if 0 < report.discarded then s!"discarded: {report.discarded}\n" else ""

/-- Runs a program. -/
def run (path : String) (config : Config) (program : Program) (output : Option String) :
    Session :=
  let engine := config.engine.engine config.engineCapacity
  let (last, log) := Dispatcher.run ⟨program, engine, config⟩ (Dispatcher.start [])
  let report := last.report
  { stdout := summary report
    events :=
      (if program.isEmpty then [.programEmpty path] else []) ++
      .programLoaded program.length (Program.countRecording program.commands) config.engine ::
      log ++ [.dispatcherFinished last.status (engine.size last.contents)]
    output := output.map fun target =>
      (target, (DataFile.withResults program report config.resultCapacity).write) }

/-- Does what is asked for, up to the writing of the output. -/
def perform (read : FileReader) (invocation : Invocation) : Session :=
  let (config, events) := resolve read invocation
  match config with
  | .error failure => { events, failure := some failure }
  | .ok config =>
    match loadProgram read invocation.data config.maxInstructions with
    | .error error => { events, failure := some (.loadingProgram invocation.data error) }
    | .ok program =>
      match invocation.action with
      | .list => { stdout := program.listing, events }
      | .run =>
        let session := run invocation.data config program invocation.output
        { session with events := events ++ session.events }

/-- The session after its output has been written to a path, or could not be. -/
def concluded (session : Session) (path : String) (written : Except FileError Unit) : Session :=
  match written with
  | .ok () => { session with events := session.events ++ [.resultsWritten path], output := none }
  | .error error => { session with failure := some (.writing path error), output := none }

/-- A whole session in a folder, and the folder after it. -/
def performIn (folder : Folder) (invocation : Invocation) : Session × Folder :=
  let session := perform folder.read invocation
  match session.output with
  | none => (session, folder)
  | some (path, text) =>
    match folder.write path text.toUTF8 with
    | .ok after => (session.concluded path (.ok ()), after)
    | .error error => (session.concluded path (.error error), folder)

/-- The lines that a filter lets through. -/
def logLines (filter : LogFilter) (session : Session) : List String :=
  (session.events.filter filter.allows).map Event.line

def exitCode (session : Session) : UInt32 := if session.failure.isSome then 1 else 0

end Session

end CommandTape
