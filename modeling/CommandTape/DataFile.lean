import CommandTape.Dispatcher

/-!
# Data files

A data file holds named memories: the commands and values of a program and, after a run, its
answers. A memory is a list of words and a note on how they are to be read, which is kept but not
acted on.
-/

namespace CommandTape

/-- How the words of a memory are meant. -/
structure Format where
  numericType : String
  isSigned : Bool
  width : UInt32
  deriving DecidableEq, Repr

/-- Plain binary numbers of a width. -/
def Format.bitnum (width : UInt32) : Format := ⟨"bitnum", false, width⟩

structure Memory where
  data : List UInt32
  format : Format
  deriving DecidableEq, Repr

structure DataFile where
  commands : Option Memory
  values : Option Memory
  answers : Option Memory
  deriving DecidableEq, Repr

/-- Why a data file is no program. -/
inductive DataFileError
  | missingMemory (name : String)
  | program (error : ProgramError)
  deriving DecidableEq, Repr

def DataFileError.message : DataFileError → String
  | .missingMemory name => "data file has no \x60" ++ name ++ "\x60 memory"
  | .program error => error.message

namespace DataFile

/-- The program of a data file. The memories are looked at in the order of their names in the
    file, and both before what they hold. -/
def toProgram (file : DataFile) (ceiling : UInt32) : Except DataFileError Program :=
  match file.commands, file.values with
  | none, _ => .error (.missingMemory "commands")
  | some _, none => .error (.missingMemory "values")
  | some commands, some values =>
    (Program.ofCodes commands.data values.data ceiling).mapError .program

/-- A list with zeros behind it up to a length. -/
def padded (length : Nat) (cells : List UInt32) : List UInt32 :=
  cells ++ List.replicate (length - cells.length) 0

/-- The data file of a finished run: the program's tapes and the answers, which fill at least
    `pad` cells. -/
def withResults (program : Program) (report : Report) (pad : UInt32) : DataFile where
  commands := some ⟨program.codes, .bitnum 2⟩
  values := some ⟨program.operands, .bitnum 32⟩
  answers := some ⟨padded pad.toNat report.results, .bitnum 32⟩

end DataFile

end CommandTape
