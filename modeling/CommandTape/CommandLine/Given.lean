import CommandTape.Config.Overrides

/-!
# What a command line gives

The actions of the program, the slots that words can fill, and the values of the slots. A slot is
filled once, and that it is taken is seen before the word for it is read.
-/

namespace CommandTape.CommandLine

/-- What the program is asked to do. -/
inductive Action
  | run
  | list
  deriving DecidableEq, Repr

def Action.name : Action → String
  | .run => "run"
  | .list => "list"

def Action.ofName? : String → Option Action
  | "run" => some .run
  | "list" => some .list
  | _ => none

/-- Why words ask for nothing that can be done. -/
inductive UsageError
  /-- A value cannot be read. -/
  | badValue
  /-- An option has no value, or a path is empty. -/
  | noValue
  /-- An option has a value but takes none. -/
  | unneededValue
  | unknownArgument
  /-- An option is given twice. -/
  | repeated
  | noData
  | unknownAction
  | noAction
  /-- There are no words. -/
  | nothing
  /-- Help is asked for. -/
  | help
  deriving DecidableEq, Repr

def UsageError.message : UsageError → String
  | .badValue => "a value cannot be read"
  | .noValue => "a value is missing"
  | .unneededValue => "an option takes no value"
  | .unknownArgument => "unexpected argument"
  | .repeated => "an option is given twice"
  | .noData => "the data file is missing"
  | .unknownAction => "unknown command"
  | .noAction => "a command is missing"
  | .nothing | .help =>
    "usage: run|list DATA [-v] [-c FILE] [--engine fifo|lifo] [--max-instructions N]\n" ++
    "  [--result-capacity N] [--engine-capacity N] [--record-policy always|skip-on-fault]\n" ++
    "  [--overflow fault|discard|grow] [-o FILE]"

/-- Asking for help is no error. -/
def UsageError.exitCode (error : UsageError) : UInt32 := if error = .help then 0 else 2

/-- What a word can be the value of. -/
inductive Slot
  | data
  | config
  | engine
  | maxInstructions
  | resultCapacity
  | engineCapacity
  | recordPolicy
  | overflow
  | output
  deriving DecidableEq, Repr

namespace Slot

/-- An option by its long name. Only a run has an output. -/
def ofLong? (action : Action) : String → Option Slot
  | "config" => some config
  | "engine" => some engine
  | "max-instructions" => some maxInstructions
  | "result-capacity" => some resultCapacity
  | "engine-capacity" => some engineCapacity
  | "record-policy" => some recordPolicy
  | "overflow" => some overflow
  | "output" => if action = .run then some output else none
  | _ => none

/-- An option by its letter. -/
def ofLetter? (action : Action) : Char → Option Slot
  | 'c' => some config
  | 'o' => if action = .run then some output else none
  | _ => none

end Slot

/-! ## Values -/

/-- Reads a word of 32 bits. A minus sign is no error before a zero. -/
def readWord (text : String) : Except UsageError UInt32 :=
  let value : Except Numeral.Reason Nat := match text.toList with
    | '-' :: [] => .error .empty
    | '-' :: digits => Numeral.accumulate 10 1 0 digits
    | digits => Numeral.read 10 UInt32.size digits
  match value with
  | .ok n => .ok (UInt32.ofNat n)
  | .error _ => .error .badValue

/-- Reads a capacity, which fits 64 bits. -/
def readCapacity (text : String) : Except UsageError Nat :=
  (Numeral.read 10 UInt64.size text.toList).mapError fun _ => .badValue

def readPath (text : String) : Except UsageError String :=
  if text.isEmpty then .error .noValue else .ok text

/-- The values that have been given. -/
structure Given where
  data : Option String := none
  config : Option String := none
  overrides : Overrides := {}
  output : Option String := none
  deriving DecidableEq, Repr

/-- Reads the value of a slot that is still empty. -/
def fill (old : Option α) (read : String → Except UsageError α) (text : String) :
    Except UsageError (Option α) :=
  if old.isSome then .error .repeated else (read text).map some

def unread (_ : ConfigError) : UsageError := .badValue

/-- Puts a value into its slot. That the slot is taken is seen before the value is read. -/
def Given.put (given : Given) (slot : Slot) (text : String) : Except UsageError Given :=
  let o := given.overrides
  match slot with
  | .data => (fill given.data readPath text).map fun data => { given with data }
  | .config => (fill given.config readPath text).map fun config => { given with config }
  | .output => (fill given.output readPath text).map fun output => { given with output }
  | .engine =>
    (fill o.engine (fun t => (EngineKind.read t).mapError unread) text).map fun engine =>
      { given with overrides := { o with engine } }
  | .maxInstructions =>
    (fill o.maxInstructions readWord text).map fun maxInstructions =>
      { given with overrides := { o with maxInstructions } }
  | .resultCapacity =>
    (fill o.resultCapacity readWord text).map fun resultCapacity =>
      { given with overrides := { o with resultCapacity } }
  | .engineCapacity =>
    (fill o.engineCapacity readCapacity text).map fun engineCapacity =>
      { given with overrides := { o with engineCapacity } }
  | .recordPolicy =>
    (fill o.recordPolicy (fun t => (RecordPolicy.read t).mapError unread) text).map
      fun recordPolicy => { given with overrides := { o with recordPolicy } }
  | .overflow =>
    (fill o.overflowPolicy (fun t => (OverflowPolicy.read t).mapError unread) text).map
      fun overflowPolicy => { given with overrides := { o with overflowPolicy } }

end CommandTape.CommandLine
