import CommandTape.Config.File
import CommandTape.Config.Overrides

/-!
# What a configuration file sets

A file sets each field or leaves it out. What it sets is said apart from the defaults that stand in
for the rest, so that it can be set against what a command line gives.

* `Sets`, `ofEntries?_eq_some_iff`: a configuration is read exactly if all that is set is set to
  what it can be.
* `merged`: the configuration that command line, file and defaults give together.
* `apply_merged`: overriding what a file gives is merging with what it sets.
-/

namespace CommandTape.Config

variable {α : Type} {entries : Toml.Entries} {field : FieldName} {read : Toml.Node → Option α}
  {default a : α} {config : Config}

/-! ## 1. One field -/

/-- What a table sets a field to, or that it does not set it. -/
def Setting (entries : Toml.Entries) (field : FieldName) (read : Toml.Node → Option α) :
    Option α → Prop
  | none => entries.find? field.name = none
  | some a => ∃ node, entries.find? field.name = some node ∧ read node = some a

theorem field?_eq_some_iff :
    field? entries field read default = some a ↔
      ∃ setting, Setting entries field read setting ∧ setting.getD default = a := by
  unfold field?
  cases hfind : entries.find? field.name with
  | none =>
    constructor
    · intro h
      exact ⟨none, hfind, Option.some.inj h⟩
    · rintro ⟨setting, hsetting, rfl⟩
      cases setting with
      | none => rfl
      | some b =>
        obtain ⟨node, hnode, -⟩ := hsetting
        cases hfind.symm.trans hnode
  | some node =>
    constructor
    · intro h
      exact ⟨some a, ⟨node, hfind, h⟩, rfl⟩
    · rintro ⟨setting, hsetting, rfl⟩
      cases setting with
      | none => cases hfind.symm.trans hsetting
      | some b =>
        obtain ⟨node', hnode, hread⟩ := hsetting
        cases hfind.symm.trans hnode
        exact hread

/-! ## 2. All fields -/

/-- What a table sets the six fields to. -/
structure Sets (entries : Toml.Entries) (file : Overrides) : Prop where
  maxInstructions : Setting entries .maxInstructions wordOf? file.maxInstructions
  resultCapacity : Setting entries .resultCapacity wordOf? file.resultCapacity
  engine : Setting entries .engine (choiceOf? · >>= EngineKind.ofName?) file.engine
  engineCapacity : Setting entries .engineCapacity capacityOf? file.engineCapacity
  recordPolicy :
    Setting entries .recordPolicy (choiceOf? · >>= RecordPolicy.ofName?) file.recordPolicy
  overflowPolicy :
    Setting entries .overflowPolicy (choiceOf? · >>= OverflowPolicy.ofName?) file.overflowPolicy

/-- The configuration in which each field is the one that the flags give, or else the one that the
    file sets, or else the default. -/
def merged (flags file : Overrides) : Config :=
  let default : Config := {}
  { maxInstructions := (flags.maxInstructions.or file.maxInstructions).getD default.maxInstructions
    resultCapacity := (flags.resultCapacity.or file.resultCapacity).getD default.resultCapacity
    engine := (flags.engine.or file.engine).getD default.engine
    engineCapacity := (flags.engineCapacity.or file.engineCapacity).getD default.engineCapacity
    recordPolicy := (flags.recordPolicy.or file.recordPolicy).getD default.recordPolicy
    overflowPolicy := (flags.overflowPolicy.or file.overflowPolicy).getD default.overflowPolicy }

/-- A table is read as a configuration exactly if each field that it sets is set to something that
    the field can be. -/
theorem ofEntries?_eq_some_iff :
    ofEntries? entries = some config ↔ ∃ file, Sets entries file ∧ merged {} file = config := by
  unfold ofEntries?
  simp only [Option.bind_eq_bind, Option.bind_eq_some_iff, field?_eq_some_iff]
  constructor
  · rintro ⟨_, ⟨max, hmax, rfl⟩, _, ⟨result, hresult, rfl⟩, _, ⟨engine, hengine, rfl⟩,
      _, ⟨capacity, hcapacity, rfl⟩, _, ⟨record, hrecord, rfl⟩, _, ⟨overflow, hoverflow, rfl⟩,
      hconfig⟩
    exact ⟨⟨engine, max, result, capacity, record, overflow⟩,
      ⟨hmax, hresult, hengine, hcapacity, hrecord, hoverflow⟩, Option.some.inj hconfig⟩
  · rintro ⟨file, h, rfl⟩
    exact ⟨_, ⟨_, h.maxInstructions, rfl⟩, _, ⟨_, h.resultCapacity, rfl⟩, _, ⟨_, h.engine, rfl⟩,
      _, ⟨_, h.engineCapacity, rfl⟩, _, ⟨_, h.recordPolicy, rfl⟩, _, ⟨_, h.overflowPolicy, rfl⟩,
      rfl⟩

/-! ## 3. Overrides -/

/-- Replacing what the flags give in what a file gives is merging the two. -/
theorem apply_merged (flags file : Overrides) :
    flags.apply (merged {} file) = merged flags file := by
  unfold Overrides.apply merged
  simp only [Option.getD_or, Option.none_or]

end CommandTape.Config
