import CommandTape.DataFile.Text
import CommandTape.Proofs.Json.Containers

/-!
# Data files are read as they were written

Each part of a data file has the value that its text is read as, and that value gives the part
back. A memory that is absent is written in two ways: the memories of the program as null, and the
answers by leaving them out.

* `Memory.readsWhole_layout`: the text of a memory is read as its value, at any level.
* `DataFile.leads_layout`: the text of a data file leads a reading from its start to its end.
* `DataFile.read_write`: reading undoes writing.
-/

namespace CommandTape

open Json

variable {needed : Bool}

/-! ## 1. Memories -/

namespace Format

/-- The value that the text of a format is read as. -/
def value (format : Format) : Value :=
  .record [some (.text format.numericType), some (.flag format.isSigned), some (.word format.width)]

theorem ofValue?_value (format : Format) : ofValue? format.value = some format := rfl

theorem readsWhole_layout (format : Format) (level : Nat) (nullable : Bool) :
    ReadsWhole needed (.shape shape nullable) (format.layout level) format.value := by
  have hnumericType : ReadsWhole needed _ _ _ := readsWhole_text format.numericType false
  have hisSigned : ReadsWhole needed _ _ _ := readsWhole_flag format.isSigned false
  have hwidth : Reads needed _ _ _ := reads_natural format.width false
  -- That a member names a field, and one whose place is free, is seen by looking it up.
  exact readsWhole_record level nullable
    (.cons (takes_member rfl rfl rfl hnumericType.reads)
      (.cons (takes_member rfl rfl rfl hisSigned.reads)
        (.cons (takes_member rfl rfl rfl hwidth) (.nil _)))) rfl

end Format

namespace Memory

/-- The value that the text of a memory is read as. -/
def value (memory : Memory) : Value := .record [some (.words memory.data), some memory.format.value]

theorem ofValue?_value (memory : Memory) : ofValue? memory.value = some memory := by
  rw [value, ofValue?, Format.ofValue?_value]
  rfl

theorem readsWhole_layout (memory : Memory) (level : Nat) (nullable : Bool) :
    ReadsWhole needed (.shape shape nullable) (memory.layout level) memory.value := by
  have hdata : ReadsWhole needed _ _ _ := readsWhole_words memory.data false (level + 1)
  have hformat : ReadsWhole needed _ _ _ := memory.format.readsWhole_layout (level + 1) false
  exact readsWhole_record level nullable
    (.cons (takes_member rfl rfl rfl hdata.reads)
      (.cons (takes_member rfl rfl rfl hformat.reads) (.nil _))) rfl

/-- The value of a memory that may be absent, where absence is null. -/
def valueOrNull : Option Memory → Value
  | none => .null
  | some memory => memory.value

theorem ofPart?_value (memory : Memory) : ofPart? (some memory.value) = some (some memory) := by
  have hvalue := memory.ofValue?_value
  unfold value at hvalue ⊢
  rw [ofPart?, hvalue]
  · rfl
  · nofun

theorem ofPart?_valueOrNull (memory? : Option Memory) :
    ofPart? (some (valueOrNull memory?)) = some memory? := by
  cases memory? with
  | none => rfl
  | some memory => exact memory.ofPart?_value

/-- The answers are a part of the file only if they are there. -/
theorem ofPart?_map_value (memory? : Option Memory) :
    ofPart? (memory?.map value) = some memory? := by
  cases memory? with
  | none => rfl
  | some memory => exact memory.ofPart?_value

theorem readsWhole_memoryLayout (memory? : Option Memory) :
    ReadsWhole needed (.shape shape true) (DataFile.memoryLayout memory?)
      (valueOrNull memory?) := by
  cases memory? with
  | none => exact readsWhole_null _
  | some memory => exact memory.readsWhole_layout 1 true

end Memory

/-! ## 2. Files -/

namespace DataFile

/-- The value that the text of a data file is read as. -/
def value (file : DataFile) : Value :=
  .record [some (Memory.valueOrNull file.commands), some (Memory.valueOrNull file.values),
    file.answers.map Memory.value]

theorem ofValue?_value (file : DataFile) : ofValue? file.value = some file := by
  simp [ofValue?, value, Memory.ofPart?_valueOrNull, Memory.ofPart?_map_value]

theorem readsWhole_layout (file : DataFile) :
    ReadsWhole needed (.shape shape false) file.layout file.value := by
  obtain ⟨commands, values, answers⟩ := file
  have hcommands : ReadsWhole needed _ _ _ := Memory.readsWhole_memoryLayout commands
  have hvalues : ReadsWhole needed _ _ _ := Memory.readsWhole_memoryLayout values
  cases answers with
  | none =>
    exact readsWhole_record 0 false
      (.cons (takes_member rfl rfl rfl hcommands.reads)
        (.cons (takes_member rfl rfl rfl hvalues.reads) (.nil _))) rfl
  | some memory =>
    have hanswers : ReadsWhole needed _ _ _ := memory.readsWhole_layout 1 true
    exact readsWhole_record 0 false
      (.cons (takes_member rfl rfl rfl hcommands.reads)
        (.cons (takes_member rfl rfl rfl hvalues.reads)
          (.cons (takes_member rfl rfl rfl hanswers.reads) (.nil _)))) rfl

/-- The text of a data file leads from the start to the end, and no part of it can be missing. -/
theorem leads_layout (file : DataFile) :
    Reading.Leads needed (.start shape) file.layout (.finished file.value) :=
  file.readsWhole_layout (.inl rfl) []

/-- Reading undoes writing, whatever memories are there and whatever they hold. -/
theorem read_write (file : DataFile) : read file.write.toList = .ok file := by
  have hread : Json.read shape file.layout = .ok file.value := by
    have hlayout : Reading.Leads false (.start shape) file.layout (.finished file.value) :=
      leads_layout file
    rw [Json.read, hlayout.foldlM_next]
    rfl
  have hwrite : file.write.toList = file.layout := String.toList_ofList
  rw [hwrite, read, hread]
  simp only [Except.bind, ofValue?_value]

end DataFile

end CommandTape
