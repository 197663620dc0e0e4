import CommandTape.Proofs.Settings
import CommandTape.Proofs.Toml.Lines

/-!
# Configuration files are read back as written

A configuration can be written to a file field by field: one line for each field that is to be
set, in any order, with blank lines, comments and integers under other keys anywhere among them.
Reading gives the values of the fields that were written and the defaults of the others. An
integer that its field cannot hold is refused, whatever the other lines are.

* `Line`, `Written`: the lines of such a file, and the values that they write.
* `Line.WellFormed.adds`: what each line adds to the table of the file.
* `find?_flatten`: the table sets the fields that were written and no others.
* `ofToml?_written`: what the file is read as.
-/

namespace CommandTape.Config

open Text (LinesOf)
open Toml (Node Entries Word)
open Toml.Reading (Adds Gives IsKey IsPlain Parts assigned gives_integer gives_text)

/-! ## 1. Lines -/

/-- The values that a file writes. The integers are of any size, be it that their fields hold them
    or not. -/
structure Written where
  maxInstructions : Int
  resultCapacity : Int
  engine : EngineKind
  engineCapacity : Int
  recordPolicy : RecordPolicy
  overflowPolicy : OverflowPolicy

/-- The values of a configuration. -/
def Written.of (c : Config) : Written where
  maxInstructions := c.maxInstructions.toNat
  resultCapacity := c.resultCapacity.toNat
  engine := c.engine
  engineCapacity := c.engineCapacity
  recordPolicy := c.recordPolicy
  overflowPolicy := c.overflowPolicy

/-- The value of one field. -/
inductive Value
  | integer (n : Int)
  | name (s : String)

/-- Integers are written in decimal digits, names between quotation marks. -/
def Value.text : Value → List Char
  | integer n => Word.decimal n
  | name s => '"' :: (s.toList ++ ['"'])

def Written.value (w : Written) : FieldName → Value
  | .maxInstructions => .integer w.maxInstructions
  | .resultCapacity => .integer w.resultCapacity
  | .engine => .name w.engine.name
  | .engineCapacity => .integer w.engineCapacity
  | .recordPolicy => .name w.recordPolicy.name
  | .overflowPolicy => .name w.overflowPolicy.name

/-- A line of a file. -/
inductive Line
  | blank (gap : List Char)
  | comment (gap words : List Char)
  | sets (field : FieldName)
  /-- An integer under the key of no field; `word` is the integer `n` in one of its spellings. -/
  | other (key word : List Char) (n : Int)
  deriving DecidableEq

namespace Line

/-- The characters of the line. -/
def text (w : Written) : Line → List Char
  | blank gap => gap
  | comment gap words => gap ++ '#' :: words
  | sets field => assigned field.name.toList (w.value field).text
  | other key word _ => assigned key word

/-- What the line may hold: blanks, printable characters behind them, a bare key that is not the
    name of a field, and an integer of 64 bits. -/
def WellFormed : Line → Prop
  | blank gap => ∀ c ∈ gap, c = ' ' ∨ c = '\t'
  | comment gap words => (∀ c ∈ gap, c = ' ' ∨ c = '\t') ∧ ∀ c ∈ words, ' ' ≤ c ∧ c ≤ '~'
  | sets _ => True
  | other key word n =>
    (key ≠ [] ∧ ∀ c ∈ key, c.isAlphanum = true ∨ c = '-' ∨ c = '_') ∧
      (∀ field : FieldName, key ≠ field.name.toList) ∧
      Word.Writes word n ∧ -2 ^ 63 ≤ n ∧ n < 2 ^ 63

/-- The key of the line, if it has one. -/
def keys : Line → List String
  | blank _ | comment _ _ => []
  | sets field => [field.name]
  | other key _ _ => [String.ofList key]

end Line

/-- The lines are what they may be, and no key comes twice. -/
structure WellFormed (lines : List Line) : Prop where
  each : ∀ line ∈ lines, line.WellFormed
  nodup : (lines.flatMap Line.keys).Nodup

/-- The configuration with the values of `c` in the fields that the lines write, and with the
    defaults in the others. -/
def restricted (c : Config) (lines : List Line) : Config :=
  let default : Config := {}
  { maxInstructions :=
      if .sets .maxInstructions ∈ lines then c.maxInstructions else default.maxInstructions
    resultCapacity :=
      if .sets .resultCapacity ∈ lines then c.resultCapacity else default.resultCapacity
    engine := if .sets .engine ∈ lines then c.engine else default.engine
    engineCapacity :=
      if .sets .engineCapacity ∈ lines then c.engineCapacity else default.engineCapacity
    recordPolicy := if .sets .recordPolicy ∈ lines then c.recordPolicy else default.recordPolicy
    overflowPolicy :=
      if .sets .overflowPolicy ∈ lines then c.overflowPolicy else default.overflowPolicy }

/-- The integer is not one that its field can hold. -/
def Written.Misfits (w : Written) : FieldName → Prop
  | .maxInstructions => w.maxInstructions < 0 ∨ 2 ^ 32 ≤ w.maxInstructions
  | .resultCapacity => w.resultCapacity < 0 ∨ 2 ^ 32 ≤ w.resultCapacity
  | .engineCapacity => w.engineCapacity < 0 ∨ 2 ^ 63 ≤ w.engineCapacity
  | .engine | .recordPolicy | .overflowPolicy => False

/-! ## 2. What a line adds -/

variable {w : Written} {line : Line} {lines : List Line} {text : List Char}

/-- What a value is read as. -/
def Value.node? : Value → Option Node
  | integer n => if Word.fits64 n then some (.word (.integer n)) else none
  | name s => some (.text s)

theorem gives_value (w : Written) (field : FieldName) :
    Gives (w.value field).text (w.value field).node? := by
  have hname (s : String) (hs : IsPlain s.toList) :
      Gives (Value.name s).text (Value.name s).node? := by
    have h := gives_text hs
    rw [String.ofList_toList] at h
    exact h
  have hinteger (n : Int) : Gives (Value.integer n).text (Value.integer n).node? :=
    gives_integer (Word.writes_decimal n)
  cases field with
  | maxInstructions => exact hinteger _
  | resultCapacity => exact hinteger _
  | engine =>
    exact hname _ (by cases w.engine <;> exact ⟨by decide, List.all_eq_true.mp rfl⟩)
  | engineCapacity => exact hinteger _
  | recordPolicy =>
    exact hname _ (by cases w.recordPolicy <;> exact ⟨by decide, List.all_eq_true.mp rfl⟩)
  | overflowPolicy =>
    exact hname _ (by cases w.overflowPolicy <;> exact ⟨by decide, List.all_eq_true.mp rfl⟩)

/-- What a line adds to the table, or that it is refused. -/
def Line.added? (w : Written) : Line → Option Entries
  | blank _ | comment _ _ => some []
  | sets field => (w.value field).node?.map fun node => [(field.name, node)]
  | other key _ n => some [(String.ofList key, .word (.integer n))]

theorem fits64_iff {n : Int} : Word.fits64 n = true ↔ -2 ^ 63 ≤ n ∧ n < 2 ^ 63 := by
  have hmin : Int64.minValue.toInt = -2 ^ 63 := by decide
  have hmax : Int64.maxValue.toInt = 2 ^ 63 - 1 := by decide
  rw [Word.fits64, Bool.and_eq_true, decide_eq_true_iff, decide_eq_true_iff, hmin, hmax]
  exact and_congr_right fun _ => Int.le_sub_one_iff

theorem isBlank_of_gap {c : Char} (hc : c = ' ' ∨ c = '\t') : Toml.isBlank c = true := by
  rcases hc with rfl | rfl <;> rfl

theorem isPrintable_of_range {c : Char} (hc : ' ' ≤ c ∧ c ≤ '~') : Toml.isPrintable c = true := by
  have hne : c ≠ '\x7f' := by
    rintro rfl
    exact absurd hc.2 (by decide)
  simp [Toml.isPrintable, hc.1, hne]

theorem isKey_of_bare {key : List Char} (hne : key ≠ [])
    (hkey : ∀ c ∈ key, c.isAlphanum = true ∨ c = '-' ∨ c = '_') : IsKey key := by
  refine ⟨hne, fun c hc => ?_⟩
  rcases hkey c hc with hc | rfl | rfl
  · simp [Toml.isBareKey, hc]
  · rfl
  · rfl

theorem isKey_name (field : FieldName) : IsKey field.name.toList := by
  cases field <;> exact ⟨by decide, List.all_eq_true.mp rfl⟩

theorem Line.WellFormed.adds (h : line.WellFormed) : Adds (line.text w) (line.added? w) := by
  cases line with
  | blank gap => exact Toml.Reading.adds_blank fun c hc => isBlank_of_gap (h c hc)
  | comment gap words =>
    exact Toml.Reading.adds_comment (fun c hc => isBlank_of_gap (h.1 c hc))
      fun c hc => isPrintable_of_range (h.2 c hc)
  | sets field =>
    have hadds := (gives_value w field).adds (isKey_name field)
    rw [String.ofList_toList] at hadds
    exact hadds
  | other key word n =>
    obtain ⟨⟨hne, hkey⟩, -, hword, hfits⟩ := h
    have hadds := (gives_integer hword).adds (isKey_of_bare hne hkey)
    rw [if_pos (fits64_iff.mpr hfits)] at hadds
    exact hadds

theorem Line.keys_of_added? (line : Line) {part : Entries} (h : line.added? w = some part) :
    part.map Prod.fst = line.keys := by
  cases line with
  | blank gap => cases h; rfl
  | comment gap words => cases h; rfl
  | sets field =>
    obtain ⟨node, -, rfl⟩ := Option.map_eq_some_iff.mp h
    rfl
  | other key word n => cases h; rfl

/-! ## 3. What the table sets -/

/-- An entry under the name of a field comes from the line that sets the field. -/
theorem mem_added?_iff (hline : line.WellFormed) {part : Entries}
    (hpart : line.added? w = some part) (field : FieldName) (node : Node) :
    (field.name, node) ∈ part ↔ .sets field = line ∧ (w.value field).node? = some node := by
  cases line with
  | blank gap =>
    cases hpart
    exact ⟨nofun, nofun⟩
  | comment gap words =>
    cases hpart
    exact ⟨nofun, nofun⟩
  | sets field' =>
    obtain ⟨node', hnode', rfl⟩ := Option.map_eq_some_iff.mp hpart
    rw [List.mem_singleton]
    constructor
    · intro h
      obtain ⟨hname, rfl⟩ := Prod.mk.inj h
      cases FieldName.name_injective hname
      exact ⟨rfl, hnode'⟩
    · rintro ⟨heq, hnode⟩
      cases heq
      rw [Option.some.inj (hnode'.symm.trans hnode)]
  | other key word n =>
    cases hpart
    rw [List.mem_singleton]
    constructor
    · intro h
      have hkey : key = field.name.toList := by rw [(Prod.mk.inj h).1, String.toList_ofList]
      exact absurd hkey (hline.2.1 field)
    · rintro ⟨heq, -⟩
      cases heq

/-- The parts of a table that the lines add. -/
def Added (w : Written) : List Line → List Entries → Prop := Parts (Line.added? w)

variable {parts : List Entries}

theorem mem_flatten_iff (hlines : ∀ line ∈ lines, line.WellFormed) (hparts : Added w lines parts)
    (field : FieldName) (node : Node) :
    (field.name, node) ∈ parts.flatten ↔
      .sets field ∈ lines ∧ (w.value field).node? = some node := by
  induction hparts with
  | nil => exact ⟨nofun, nofun⟩
  | cons hpart _ ih =>
    obtain ⟨hline, hothers⟩ := List.forall_mem_cons.mp hlines
    rw [List.flatten_cons, List.mem_append, mem_added?_iff hline hpart, ih hothers, List.mem_cons,
      or_and_right]

/-- The table sets the fields that the lines set, and no others. -/
theorem find?_flatten (hlines : WellFormed lines) (hparts : Added w lines parts)
    (field : FieldName) :
    Entries.find? field.name parts.flatten =
      if .sets field ∈ lines then (w.value field).node? else none := by
  have hkeys : (parts.flatten.map Prod.fst).Nodup := by
    rw [Parts.keys_flatten hparts fun line _ _ => line.keys_of_added?]
    exact hlines.nodup
  refine Option.ext fun node => ?_
  rw [Toml.Reading.find?_eq_some_iff hkeys, mem_flatten_iff hlines.each hparts]
  split
  · next h => exact and_iff_right h
  · next h => exact ⟨fun hmem => absurd hmem.1 h, nofun⟩

theorem read?_eq_some_iff (hlines : WellFormed lines)
    (htext : LinesOf text (lines.map (Line.text w))) (entries : Entries) :
    Toml.read? text = some entries ↔ ∃ parts, Added w lines parts ∧ parts.flatten = entries :=
  Toml.Reading.read?_eq_some_iff htext (fun line hline => (hlines.each line hline).adds)
    (fun line _ _ => line.keys_of_added?) hlines.nodup entries

/-! ## 4. What the file is read as -/

/-- A field that is set to something of its kind, or that is not set. -/
theorem setting_of {α : Type} {entries : Entries} {field : FieldName} {read : Node → Option α}
    {a : α} {node : Node}
    (hfind : Entries.find? field.name entries = if .sets field ∈ lines then some node else none)
    (hread : read node = some a) :
    Setting entries field read (if .sets field ∈ lines then some a else none) := by
  split
  · next h =>
    rw [if_pos h] at hfind
    exact ⟨node, hfind, hread⟩
  · next h =>
    rw [if_neg h] at hfind
    exact hfind

theorem wordOf?_integer (n : UInt32) : wordOf? (.word (.integer n.toNat)) = some n := by
  have hn : (0 : Int) ≤ n.toNat ∧ (n.toNat : Int) < UInt32.size :=
    ⟨Int.natCast_nonneg _, Int.ofNat_lt.mpr n.toNat_lt_size⟩
  rw [wordOf?, if_pos hn, Int.toNat_natCast, UInt32.ofNat_toNat]

theorem wordOf?_misfit {n : Int} (h : n < 0 ∨ 2 ^ 32 ≤ n) :
    wordOf? (.word (.integer n)) = none := by
  have hsize : (UInt32.size : Int) = 2 ^ 32 := rfl
  exact if_neg (by omega)

theorem capacityOf?_integer (n : Nat) : capacityOf? (.word (.integer n)) = some n := by
  rw [capacityOf?, if_pos (Int.natCast_nonneg n), Int.toNat_natCast]

/-- What a file sets that writes the values of `c` in the fields that the lines set. -/
def setBy (c : Config) (lines : List Line) : Overrides where
  maxInstructions := if .sets .maxInstructions ∈ lines then some c.maxInstructions else none
  resultCapacity := if .sets .resultCapacity ∈ lines then some c.resultCapacity else none
  engine := if .sets .engine ∈ lines then some c.engine else none
  engineCapacity := if .sets .engineCapacity ∈ lines then some c.engineCapacity else none
  recordPolicy := if .sets .recordPolicy ∈ lines then some c.recordPolicy else none
  overflowPolicy := if .sets .overflowPolicy ∈ lines then some c.overflowPolicy else none

theorem merged_setBy (c : Config) (lines : List Line) :
    merged {} (c.setBy lines) = c.restricted lines := by
  have hpick {α : Type} (p : Prop) [Decidable p] (a default : α) :
      (if p then some a else none).getD default = if p then a else default :=
    apply_ite (·.getD default) p (some a) none
  simp only [merged, setBy, restricted, Option.none_or, hpick]

/-- The node of a field as a configuration writes it. -/
def nodeOf (c : Config) : FieldName → Node
  | .maxInstructions => .word (.integer c.maxInstructions.toNat)
  | .resultCapacity => .word (.integer c.resultCapacity.toNat)
  | .engine => .text c.engine.name
  | .engineCapacity => .word (.integer c.engineCapacity)
  | .recordPolicy => .text c.recordPolicy.name
  | .overflowPolicy => .text c.overflowPolicy.name

theorem node?_of {c : Config} (hc : c.engineCapacity < 2 ^ 63) (field : FieldName) :
    ((Written.of c).value field).node? = some (c.nodeOf field) := by
  have hfits {n : Nat} (hn : n < 2 ^ 63) :
      (Value.integer n).node? = some (.word (.integer n)) :=
    if_pos (fits64_iff.mpr (by omega))
  have hword (n : UInt32) : n.toNat < 2 ^ 63 := Nat.lt_trans n.toNat_lt (by decide)
  cases field with
  | maxInstructions => exact hfits (hword _)
  | resultCapacity => exact hfits (hword _)
  | engine => rfl
  | engineCapacity => exact hfits hc
  | recordPolicy => rfl
  | overflowPolicy => rfl

/-- None of the lines is refused exactly if each field that they set is set to something that a
    text can hold. -/
theorem exists_added_iff :
    (∃ parts, Added w lines parts) ↔
      ∀ field, .sets field ∈ lines → ∃ node, (w.value field).node? = some node := by
  constructor
  · rintro ⟨parts, hparts⟩ field hfield
    induction hparts with
    | nil => cases hfield
    | cons hpart _ ih =>
      rcases List.mem_cons.mp hfield with rfl | hfield
      · obtain ⟨node, hnode, -⟩ := Option.map_eq_some_iff.mp hpart
        exact ⟨node, hnode⟩
      · exact ih hfield
  · intro h
    induction lines with
    | nil => exact ⟨[], .nil⟩
    | cons line lines ih =>
      obtain ⟨parts, hparts⟩ := ih fun field hfield => h field (List.mem_cons_of_mem _ hfield)
      have hline : ∃ part, line.added? w = some part := by
        cases line with
        | blank gap => exact ⟨_, rfl⟩
        | comment gap words => exact ⟨_, rfl⟩
        | sets field =>
          obtain ⟨node, hnode⟩ := h field List.mem_cons_self
          exact ⟨_, congrArg (Option.map _) hnode⟩
        | other key word n => exact ⟨_, rfl⟩
      obtain ⟨part, hpart⟩ := hline
      exact ⟨part :: parts, .cons hpart hparts⟩

theorem sets_setBy {c : Config} (hc : c.engineCapacity < 2 ^ 63) (hlines : WellFormed lines)
    (hparts : Added (.of c) lines parts) : Sets parts.flatten (c.setBy lines) := by
  have hfind (field : FieldName) : Entries.find? field.name parts.flatten =
      if .sets field ∈ lines then some (c.nodeOf field) else none := by
    rw [find?_flatten hlines hparts, node?_of hc]
  exact {
    maxInstructions := setting_of (hfind .maxInstructions) (wordOf?_integer _)
    resultCapacity := setting_of (hfind .resultCapacity) (wordOf?_integer _)
    engine := setting_of (hfind .engine) (EngineKind.ofName?_name c.engine)
    engineCapacity := setting_of (hfind .engineCapacity) (capacityOf?_integer _)
    recordPolicy := setting_of (hfind .recordPolicy) (RecordPolicy.ofName?_name c.recordPolicy)
    overflowPolicy :=
      setting_of (hfind .overflowPolicy) (OverflowPolicy.ofName?_name c.overflowPolicy) }

theorem not_setting {α : Type} {entries : Entries} {field : FieldName} {read : Node → Option α}
    {node : Node} (hfind : Entries.find? field.name entries = some node) (hread : read node = none)
    (setting : Option α) : ¬ Setting entries field read setting := by
  intro h
  cases setting with
  | none => cases hfind.symm.trans h
  | some a =>
    obtain ⟨node', hfind', hread'⟩ := h
    cases hfind.symm.trans hfind'
    cases hread.symm.trans hread'

theorem node?_integer {n : Int} {node : Node} (h : (Value.integer n).node? = some node) :
    node = .word (.integer n) ∧ n < 2 ^ 63 := by
  obtain ⟨hfits, hnode⟩ := Option.ite_none_right_eq_some.mp h
  exact ⟨(Option.some.inj hnode).symm, (fits64_iff.mp hfits).2⟩

/-- No table sets a field to an integer that the field cannot hold. -/
theorem not_sets_of_misfits {entries : Entries} {field : FieldName} {node : Node}
    (hmisfits : w.Misfits field) (hnode : (w.value field).node? = some node)
    (hfind : Entries.find? field.name entries = some node) (file : Overrides) :
    ¬ Sets entries file := by
  intro hsets
  cases field with
  | maxInstructions =>
    obtain ⟨rfl, -⟩ := node?_integer hnode
    exact not_setting hfind (wordOf?_misfit hmisfits) _ hsets.maxInstructions
  | resultCapacity =>
    obtain ⟨rfl, -⟩ := node?_integer hnode
    exact not_setting hfind (wordOf?_misfit hmisfits) _ hsets.resultCapacity
  | engineCapacity =>
    obtain ⟨rfl, hlarge⟩ := node?_integer hnode
    have hnegative : ¬ 0 ≤ w.engineCapacity := by
      rcases hmisfits with hmisfits | hmisfits <;> omega
    exact not_setting hfind (if_neg hnegative) _ hsets.engineCapacity
  | engine => exact hmisfits
  | recordPolicy => exact hmisfits
  | overflowPolicy => exact hmisfits

theorem ofToml?_eq_some_iff (hlines : WellFormed lines)
    (htext : LinesOf text (lines.map (Line.text w))) (config : Config) :
    ofToml? text = some config ↔
      ∃ parts, Added w lines parts ∧ ∃ file, Sets parts.flatten file ∧ merged {} file = config := by
  rw [ofToml?, Option.bind_eq_some_iff]
  constructor
  · rintro ⟨entries, hentries, hconfig⟩
    obtain ⟨parts, hparts, rfl⟩ := (read?_eq_some_iff hlines htext entries).mp hentries
    exact ⟨parts, hparts, ofEntries?_eq_some_iff.mp hconfig⟩
  · rintro ⟨parts, hparts, hconfig⟩
    exact ⟨_, (read?_eq_some_iff hlines htext _).mpr ⟨parts, hparts, rfl⟩,
      ofEntries?_eq_some_iff.mpr hconfig⟩

/-- A file with the values of a configuration is read as the configuration in the fields that it
    sets, and as the defaults in the others. A file that sets a field to an integer that the field
    cannot hold is not read at all. -/
theorem ofToml?_written (hlines : WellFormed lines) :
    (∀ (c : Config) text, c.engineCapacity < 2 ^ 63 →
      LinesOf text (lines.map (Line.text (.of c))) → ofToml? text = some (c.restricted lines)) ∧
    ∀ (w : Written) text, LinesOf text (lines.map (Line.text w)) →
      (∃ field, .sets field ∈ lines ∧ w.Misfits field) → ofToml? text = none := by
  constructor
  · intro c text hc htext
    obtain ⟨parts, hparts⟩ := exists_added_iff.mpr fun field _ => ⟨_, node?_of hc field⟩
    exact (ofToml?_eq_some_iff hlines htext _).mpr
      ⟨parts, hparts, c.setBy lines, sets_setBy hc hlines hparts, merged_setBy c lines⟩
  · rintro w text htext ⟨field, hfield, hmisfits⟩
    refine Option.eq_none_iff_forall_ne_some.mpr fun config hconfig => ?_
    obtain ⟨parts, hparts, file, hsets, -⟩ := (ofToml?_eq_some_iff hlines htext config).mp hconfig
    obtain ⟨node, hnode⟩ := exists_added_iff.mp ⟨parts, hparts⟩ field hfield
    have hfind := find?_flatten hlines hparts field
    rw [if_pos hfield, hnode] at hfind
    exact not_sets_of_misfits hmisfits hnode hfind file hsets

/-- All six fields, with integers at their bounds, among other lines and under both line ends; the
    same file with an integer beyond its bound; and a file that sets one field. -/
theorem ofToml?_written_atBounds :
    let lines : List Line := [.comment [] " limits".toList, .sets .overflowPolicy,
      .other "note-1".toList "0xF_f".toList 255, .sets .resultCapacity, .blank ['\t'],
      .sets .engineCapacity, .sets .recordPolicy, .sets .engine, .sets .maxInstructions]
    let c : Config := ⟨4294967295, 0, .lifo, 9223372036854775807, .skipOnFault, .grow⟩
    let w : Written := { Written.of c with maxInstructions := 4294967296 }
    let shared := "# limits\noverflow_policy = \"grow\"\r\nnote-1 = 0xF_f\n".toList ++
      "result_capacity = 0\n\t\nengine_capacity = 9223372036854775807\n".toList ++
      "record_policy = \"skip-on-fault\"\r\nengine = \"lifo\"\n".toList
    let text := shared ++ "max_instructions = 4294967295".toList
    let beyond := shared ++ "max_instructions = 4294967296".toList
    let single := "overflow_policy = \"grow\"\n".toList
    WellFormed lines ∧ c.engineCapacity < 2 ^ 63 ∧
      LinesOf text (lines.map (Line.text (.of c))) ∧ ofToml? text = some c ∧
      LinesOf beyond (lines.map (Line.text w)) ∧
      (∃ field, .sets field ∈ lines ∧ w.Misfits field) ∧ ofToml? beyond = none ∧
      WellFormed [.sets .overflowPolicy] ∧
      LinesOf single ([.sets .overflowPolicy].map (Line.text (.of c))) ∧
      ofToml? single = some ⟨15, 10, .fifo, 16, .always, .grow⟩ := by
  intro lines c w shared text beyond single
  have hword : Word.Writes "0xF_f".toList 255 :=
    .marked .hexadecimal (.apart 'F' (.single 'f'))
      ⟨[15, 15], .cons ⟨by decide, by decide⟩ (.cons ⟨by decide, by decide⟩ .nil), by decide⟩
  have hcomment : (Line.comment [] " limits".toList).WellFormed :=
    ⟨List.forall_mem_nil _, by simp⟩
  have hother : (Line.other "note-1".toList "0xF_f".toList 255).WellFormed :=
    ⟨⟨by decide, by simp⟩, by intro field; cases field <;> decide, hword, by decide⟩
  have hblank : (Line.blank ['\t']).WellFormed := List.forall_mem_singleton.mpr (.inr rfl)
  have hlines : WellFormed lines := by
    refine ⟨?_, by decide⟩
    intro line hline
    simp only [lines, List.mem_cons, List.not_mem_nil, or_false] at hline
    rcases hline with rfl | rfl | rfl | rfl | rfl | rfl | rfl | rfl | rfl <;>
      first | exact hcomment | exact hother | exact hblank | trivial
  have hsingle : WellFormed [.sets .overflowPolicy] :=
    ⟨List.forall_mem_singleton.mpr trivial, by decide⟩
  have hcapacity : c.engineCapacity < 2 ^ 63 := by decide
  have htext : LinesOf text (lines.map (Line.text (.of c))) :=
    Text.linesOf_iff.mpr (by decide +kernel)
  have hbeyond : LinesOf beyond (lines.map (Line.text w)) :=
    Text.linesOf_iff.mpr (by decide +kernel)
  have hone : LinesOf single ([.sets .overflowPolicy].map (Line.text (.of c))) :=
    Text.linesOf_iff.mpr (by decide +kernel)
  have hmisfits : ∃ field, .sets field ∈ lines ∧ w.Misfits field :=
    ⟨.maxInstructions, by decide, .inr (by decide)⟩
  exact ⟨hlines, hcapacity, htext, (ofToml?_written hlines).1 c text hcapacity htext, hbeyond,
    hmisfits, (ofToml?_written hlines).2 w beyond hbeyond hmisfits, hsingle, hone,
    (ofToml?_written hsingle).1 c single hcapacity hone⟩

end CommandTape.Config
