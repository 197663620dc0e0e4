import CommandTape.DataFile
import CommandTape.Json.Layout
import CommandTape.Json.Reading

/-!
# The text of a data file

A data file is an object of memories in JSON. A memory that is absent may be null or left out, and
unknown members are passed over. Writing names the two memories of a program in any case and
leaves absent answers out, so reading gives back what was written.
-/

namespace CommandTape

/-! ## Reading -/

namespace Format

def shape : Json.Shape := .record [
  ⟨"numeric_type", .required, .text⟩, ⟨"is_signed", .required, .flag⟩, ⟨"width", .required, .word⟩]

def ofValue? : Json.Value → Option Format
  | .record [some (.text numericType), some (.flag isSigned), some (.word width)] =>
    some ⟨numericType, isSigned, width⟩
  | _ => none

end Format

namespace Memory

def shape : Json.Shape := .record [
  ⟨"data", .required, .words⟩, ⟨"format", .required, Format.shape⟩]

def ofValue? : Json.Value → Option Memory
  | .record [some (.words data), some format] => (Format.ofValue? format).map (⟨data, ·⟩)
  | _ => none

/-- A memory that may be absent, or null. -/
def ofPart? : Option Json.Value → Option (Option Memory)
  | none | some .null => some none
  | some value => (ofValue? value).map some

end Memory

namespace DataFile

def shape : Json.Shape := .record [
  ⟨"commands", .nullable, Memory.shape⟩, ⟨"values", .nullable, Memory.shape⟩,
  ⟨"ans_mem", .optional, Memory.shape⟩]

def ofValue? : Json.Value → Option DataFile
  | .record [commands, values, answers] => do
    some ⟨← Memory.ofPart? commands, ← Memory.ofPart? values, ← Memory.ofPart? answers⟩
  | _ => none

/-- Reads the text of a data file. -/
def read (text : List Char) : Except Json.Trouble DataFile :=
  (Json.read shape text).bind fun value =>
    match ofValue? value with
    | some file => .ok file
    | none => .error .content

end DataFile

/-! ## Writing -/

open Json.Layout in
def Format.layout (level : Nat) (format : Format) : List Char :=
  object level [
    member "numeric_type" (text format.numericType.toList),
    member "is_signed" (flag format.isSigned),
    member "width" (natural format.width.toNat)]

open Json.Layout in
def Memory.layout (level : Nat) (memory : Memory) : List Char :=
  object level [
    member "data" (array (level + 1) (memory.data.map fun n => natural n.toNat)),
    member "format" (memory.format.layout (level + 1))]

namespace DataFile

open Json.Layout

/-- A memory, or null for one that is absent. -/
def memoryLayout : Option Memory → List Char
  | none => null
  | some memory => memory.layout 1

/-- The text of a data file. Absent answers are left out; the other two memories are always
    named. -/
def layout (file : DataFile) : List Char :=
  object 0 ([member "commands" (memoryLayout file.commands),
    member "values" (memoryLayout file.values)] ++
    match file.answers with
    | none => []
    | some memory => [member "ans_mem" (memory.layout 1)])

/-- The text of a data file, as a string. -/
def write (file : DataFile) : String := String.ofList file.layout

end DataFile

end CommandTape
