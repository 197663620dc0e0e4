import CommandTape.Config
import CommandTape.Toml.Reading

/-!
# Configuration files

A configuration file is a TOML table whose top level may set any of the six fields. A field that
is not set keeps its default, and all other keys are ignored. The values are not looked at any
further here: a configuration that no run accepts can still be read.
-/

namespace CommandTape

namespace Config

/-- The names of the fields in a file. -/
inductive FieldName
  | maxInstructions
  | resultCapacity
  | engine
  | engineCapacity
  | recordPolicy
  | overflowPolicy
  deriving DecidableEq, Repr

def FieldName.name : FieldName → String
  | maxInstructions => "max_instructions"
  | resultCapacity => "result_capacity"
  | engine => "engine"
  | engineCapacity => "engine_capacity"
  | recordPolicy => "record_policy"
  | overflowPolicy => "overflow_policy"

theorem FieldName.name_injective {field field' : FieldName} (h : field.name = field'.name) :
    field = field' := by
  cases field <;> cases field' <;> first | rfl | exact absurd h (by decide)

/-- A word from a file. -/
def wordOf? : Toml.Node → Option UInt32
  | .word (.integer n) => if 0 ≤ n ∧ n < UInt32.size then some (UInt32.ofNat n.toNat) else none
  | _ => none

/-- A capacity from a file. -/
def capacityOf? : Toml.Node → Option Nat
  | .word (.integer n) => if 0 ≤ n then some n.toNat else none
  | _ => none

/-- Whether a node stands for a choice without anything further. -/
def isEmpty : Toml.Node → Bool
  | .array [] | .table _ [] => true
  | _ => false

/-- The name of a choice: a text, or the key of a table with this one key and nothing under it. -/
def choiceOf? : Toml.Node → Option String
  | .text name => some name
  | .table _ [(name, rest)] => if isEmpty rest then some name else none
  | _ => none

/-- A field of a table, or its default if it is not set; nothing if it is set wrongly. -/
def field? (entries : Toml.Entries) (field : FieldName) (read : Toml.Node → Option α)
    (default : α) : Option α :=
  match entries.find? field.name with
  | none => some default
  | some node => read node

def ofEntries? (entries : Toml.Entries) : Option Config := do
  let d : Config := {}
  some {
    maxInstructions := ← field? entries .maxInstructions wordOf? d.maxInstructions
    resultCapacity := ← field? entries .resultCapacity wordOf? d.resultCapacity
    engine := ← field? entries .engine (choiceOf? · >>= EngineKind.ofName?) d.engine
    engineCapacity := ← field? entries .engineCapacity capacityOf? d.engineCapacity
    recordPolicy := ← field? entries .recordPolicy (choiceOf? · >>= RecordPolicy.ofName?)
      d.recordPolicy
    overflowPolicy := ← field? entries .overflowPolicy (choiceOf? · >>= OverflowPolicy.ofName?)
      d.overflowPolicy }

/-- Reads the text of a configuration file. -/
def ofToml? (text : List Char) : Option Config := (Toml.read? text).bind ofEntries?

end Config

end CommandTape
