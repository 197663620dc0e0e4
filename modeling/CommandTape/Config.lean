import CommandTape.Engine
import CommandTape.Tape

/-!
# Configurations

The limits and policies of a run, their defaults, and the two values that no run accepts. The
ceiling is looked at before the engine's capacity.
-/

namespace CommandTape

/-- What is recorded when the engine faults on a pop or peek: the answer register, which still
    holds the last good answer, or nothing. -/
inductive RecordPolicy
  | always
  | skipOnFault
  deriving DecidableEq, Repr

namespace RecordPolicy

def name : RecordPolicy → String
  | always => "always"
  | skipOnFault => "skip-on-fault"

def label : RecordPolicy → String
  | always => "Always"
  | skipOnFault => "SkipOnFault"

def ofName? : String → Option RecordPolicy
  | "always" => some always
  | "skip-on-fault" => some skipOnFault
  | _ => none

theorem ofName?_name (p : RecordPolicy) : ofName? p.name = some p := by cases p <;> rfl

end RecordPolicy

structure Config where
  /-- A run ends once this many instructions have been executed. -/
  maxInstructions : UInt32 := 15
  resultCapacity : UInt32 := 10
  engine : EngineKind := .fifo
  engineCapacity : Nat := 16
  recordPolicy : RecordPolicy := .always
  overflowPolicy : OverflowPolicy := .fault
  deriving DecidableEq, Repr

inductive ConfigError
  | zeroInstructionCeiling
  | zeroEngineCapacity
  | unknownEngine (word : String)
  | unknownPolicy (word : String)
  deriving DecidableEq, Repr

def ConfigError.message : ConfigError → String
  | .zeroInstructionCeiling => "max_instructions must be at least 1"
  | .zeroEngineCapacity => "engine_capacity must be at least 1"
  | .unknownEngine word => s!"unknown engine: {word}"
  | .unknownPolicy word => s!"unknown policy: {word}"

/-- Reads an engine's name or common name in any letter case. The error holds the word in lower
    case. -/
def EngineKind.read (word : String) : Except ConfigError EngineKind :=
  match EngineKind.ofAlias? (Command.lowered word) with
  | some kind => .ok kind
  | none => .error (.unknownEngine (Command.lowered word))

/-- Reads a policy's name, letter case and all. -/
def RecordPolicy.read (word : String) : Except ConfigError RecordPolicy :=
  match RecordPolicy.ofName? word with
  | some policy => .ok policy
  | none => .error (.unknownPolicy word)

def OverflowPolicy.read (word : String) : Except ConfigError OverflowPolicy :=
  match OverflowPolicy.ofName? word with
  | some policy => .ok policy
  | none => .error (.unknownPolicy word)

namespace Config

/-- The reason why no run may use this configuration, if there is one. -/
def invalid? (config : Config) : Option ConfigError :=
  if config.maxInstructions = 0 then some .zeroInstructionCeiling
  else if config.engineCapacity = 0 then some .zeroEngineCapacity
  else none

def resultLimit (config : Config) : ResultLimit := ⟨config.resultCapacity, config.overflowPolicy⟩

/-- The configuration as a value, as logs show it. -/
def shown (config : Config) : String :=
  braced "DispatchConfig" (
    s!"max_instructions: {config.maxInstructions}, result_capacity: {config.resultCapacity}, " ++
    s!"engine: {config.engine.label}, engine_capacity: {config.engineCapacity}, " ++
    s!"record_policy: {config.recordPolicy.label}, " ++
    s!"overflow_policy: {config.overflowPolicy.label}")

end Config

end CommandTape
