import CommandTape.Config

/-!
# Overrides

What the command line says about a run's configuration. A field that is given there wins over the
file's, and the configuration is looked at only after all fields are settled, so that a value that
no run accepts may stand in a file if it is overridden.
-/

namespace CommandTape

structure Overrides where
  engine : Option EngineKind := none
  maxInstructions : Option UInt32 := none
  resultCapacity : Option UInt32 := none
  engineCapacity : Option Nat := none
  recordPolicy : Option RecordPolicy := none
  overflowPolicy : Option OverflowPolicy := none
  deriving DecidableEq, Repr

namespace Overrides

/-- The configuration with the given fields replaced. -/
def apply (overrides : Overrides) (config : Config) : Config where
  maxInstructions := overrides.maxInstructions.getD config.maxInstructions
  resultCapacity := overrides.resultCapacity.getD config.resultCapacity
  engine := overrides.engine.getD config.engine
  engineCapacity := overrides.engineCapacity.getD config.engineCapacity
  recordPolicy := overrides.recordPolicy.getD config.recordPolicy
  overflowPolicy := overrides.overflowPolicy.getD config.overflowPolicy

/-- The configuration of a run, or the reason why there is none. -/
def resolve (overrides : Overrides) (config : Config) : Except ConfigError Config :=
  match (overrides.apply config).invalid? with
  | some error => .error error
  | none => .ok (overrides.apply config)

end Overrides

end CommandTape
