/-!
# Faults, the error flag and the status

An engine, the result tape and the instruction ceiling can each end a run. The first fault that
is raised stays on the error flag for the rest of the run.
-/

namespace CommandTape

/-- A fault of an engine itself. -/
inductive EngineFault
  | underflow
  | overflow (capacity : Nat)
  deriving DecidableEq, Repr

/-- Why a run ended in error. -/
inductive Fault
  | engine (fault : EngineFault)
  | resultCapacity (capacity : UInt32)
  | instructionCeiling (ceiling : UInt32)
  deriving DecidableEq, Repr

def EngineFault.message : EngineFault → String
  | .underflow => "engine underflow: pop or peek on an empty structure"
  | .overflow capacity => s!"engine overflow: push at capacity {capacity}"

def Fault.message : Fault → String
  | .engine fault => fault.message
  | .resultCapacity capacity => s!"result tape capacity of {capacity} exceeded"
  | .instructionCeiling ceiling => s!"instruction ceiling of {ceiling} reached"

def Fault.isEngine : Fault → Bool
  | .engine _ => true
  | .resultCapacity _ | .instructionCeiling _ => false

/-- A field list in braces, as values are shown in logs. -/
def braced (label body : String) : String := label ++ " \x7b " ++ body ++ " \x7d"

/-- The fault as a value, as logs and the dispatcher's state show it. -/
def Fault.shown : Fault → String
  | .engine .underflow => "Engine(Underflow)"
  | .engine (.overflow capacity) => "Engine(" ++ braced "Overflow" s!"capacity: {capacity}" ++ ")"
  | .resultCapacity capacity => braced "ResultCapacityExceeded" s!"capacity: {capacity}"
  | .instructionCeiling ceiling =>
    braced "InstructionCeilingReached" s!"max_instructions: {ceiling}"

/-- An optional value as logs show it. -/
def shownOption (shown : α → String) : Option α → String
  | none => "None"
  | some a => s!"Some({shown a})"

/-- The sticky error flag: up once it holds a fault. -/
structure ErrorFlag where
  fault : Option Fault := none
  deriving DecidableEq, Repr

namespace ErrorFlag

/-- Raising a flag that is up keeps the fault it has. -/
def raise (fault : Fault) (flag : ErrorFlag) : ErrorFlag :=
  ⟨flag.fault.orElse fun _ => some fault⟩

/-- Whether a raise would put the flag up. -/
def isDown (flag : ErrorFlag) : Bool := flag.fault.isNone

end ErrorFlag

/-- What a dispatcher is doing. It stops when the program runs out before a fault is raised. -/
inductive Status
  | idle
  | running
  | stopped
  | error (fault : Fault)
  deriving DecidableEq, Repr

def Status.shown : Status → String
  | .idle => "Idle"
  | .running => "Running"
  | .stopped => "Stopped"
  | .error fault => s!"Error({fault.shown})"

end CommandTape
