import CommandTape.Config
import CommandTape.Command

/-!
# Events

What is logged is a value: an event knows its level, the part of the program that it comes from,
and the line it is written as.
-/

namespace CommandTape

/-- How detailed a log line is. -/
inductive Level
  | error
  | warn
  | info
  | debug
  | trace
  deriving DecidableEq, Repr

namespace Level

/-- A larger rank is more detailed. -/
def rank : Level → Nat
  | error => 1
  | warn => 2
  | info => 3
  | debug => 4
  | trace => 5

/-- The level's name, to the right in five columns. -/
def column : Level → String
  | error => "ERROR"
  | warn => " WARN"
  | info => " INFO"
  | debug => "DEBUG"
  | trace => "TRACE"

end Level

/-- The parts of the program that log. -/
inductive Source
  | main
  | config
  | dispatcher
  deriving DecidableEq, Repr

/-- The path of a part, by which a filter selects it. -/
def Source.path : Source → String
  | .main => "qdispatch"
  | .config => "qdispatch::config"
  | .dispatcher => "qdispatch::dispatcher"

inductive Event
  /-- An instruction was executed without a fault; the cursors are those after it. -/
  | stepped (inst : Inst) (recorded : Option UInt32) (i j : UInt32)
  /-- The flag went up; the cursors are those of that moment. -/
  | flagRaised (i j : UInt32) (fault : Fault)
  /-- A fault came after the first. -/
  | flagKept (i : UInt32) (fault : Fault)
  | runFinished (instructions results : UInt32) (fault : Option Fault)
  | configLoaded (path : String) (config : Config)
  | programEmpty (path : String)
  | programLoaded (instructions answers : Nat) (engine : EngineKind)
  | dispatcherFinished (status : Status) (engineSize : Nat)
  | resultsWritten (path : String)
  deriving DecidableEq, Repr

namespace Event

def level : Event → Level
  | stepped .. => .trace
  | flagRaised .. | flagKept .. | configLoaded .. | dispatcherFinished .. => .debug
  | runFinished .. | programLoaded .. | resultsWritten .. => .info
  | programEmpty .. => .warn

def source : Event → Source
  | stepped .. | flagRaised .. | flagKept .. | runFinished .. => .dispatcher
  | configLoaded .. => .config
  | programEmpty .. | programLoaded .. | dispatcherFinished .. | resultsWritten .. => .main

/-- What happened, in words. -/
def message : Event → String
  | stepped .. => "step"
  | flagRaised .. => "error flag raised"
  | flagKept .. => "error flag already raised, keeping first fault"
  | runFinished .. => "run finished"
  | configLoaded .. => "loaded configuration"
  | programEmpty .. => "program has no instructions"
  | programLoaded .. => "loaded program"
  | dispatcherFinished .. => "dispatcher finished"
  | resultsWritten .. => "wrote results"

/-- The details: names with their values as shown. -/
def fields : Event → List (String × String)
  | stepped inst recorded i j =>
    [("inst", inst.line), ("recorded", shownOption toString recorded),
      ("i", toString i), ("j", toString j)]
  | flagRaised i j fault =>
    [("i", toString i), ("j", toString j), ("fault", fault.message),
      ("engine", toString fault.isEngine)]
  | flagKept i fault => [("i", toString i), ("fault", fault.message)]
  | runFinished instructions results fault =>
    [("instructions", toString instructions), ("results", toString results),
      ("fault", shownOption Fault.shown fault)]
  | configLoaded path config => [("path", path), ("config", config.shown)]
  | programEmpty path | resultsWritten path => [("path", path)]
  | programLoaded instructions answers engine =>
    [("instructions", toString instructions), ("answers", toString answers),
      ("engine", engine.name)]
  | dispatcherFinished status engineSize =>
    [("status", status.shown), ("engine_len", toString engineSize)]

/-- The names that a filter can ask for: those of the fields, and the message's. -/
def fieldNames (event : Event) : List String := "message" :: event.fields.map (·.1)

/-- The message with its fields. -/
def text (event : Event) : String :=
  event.fields.foldl (fun text (name, value) => s!"{text} {name}={value}") event.message

def line (event : Event) : String := s!"{event.level.column} {event.text}"

end Event

end CommandTape
