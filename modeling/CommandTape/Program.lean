import CommandTape.Command
import CommandTape.Tape

/-!
# Programs

A program is a tape of commands with their operands. It is built under a ceiling on its length,
so its length fits the word that addresses it. Three things can be wrong with the parts it is
built from, and they are looked at in a fixed order: a number that is no command code, tapes of
different lengths, too many instructions.
-/

namespace CommandTape

structure Program where
  cells : Tape (Command × UInt32)
  length_lt : cells.length < UInt32.size

instance : DecidableEq Program := fun p q =>
  if h : p.cells = q.cells then .isTrue (by cases p; cases q; simp_all)
  else .isFalse fun e => h (e ▸ rfl)

inductive ProgramError
  | invalidCommand (index : Nat) (code : UInt32)
  | lengthMismatch (commands operands : Nat)
  | tooManyInstructions (length : Nat) (ceiling : UInt32)
  deriving DecidableEq, Repr

def ProgramError.message : ProgramError → String
  | .invalidCommand index code =>
    s!"instruction {index}: {Command.invalidCodeMessage code}"
  | .lengthMismatch commands operands =>
    s!"instruction tape has {commands} entries but operand tape has {operands}"
  | .tooManyInstructions length ceiling =>
    s!"program has {length} instructions, more than the ceiling of {ceiling}"

namespace Program

/-- A program of at most `ceiling` cells. -/
def ofCells (cells : Tape (Command × UInt32)) (ceiling : UInt32) : Except ProgramError Program :=
  if h : cells.length ≤ ceiling.toNat then
    .ok ⟨cells, Nat.lt_of_le_of_lt h ceiling.toNat_lt⟩
  else .error (.tooManyInstructions cells.length ceiling)

/-- A program of two tapes, which must have one length. -/
def ofTapes (commands : Tape Command) (operands : Tape UInt32) (ceiling : UInt32) :
    Except ProgramError Program :=
  if commands.length = operands.length then ofCells (commands.zip operands) ceiling
  else .error (.lengthMismatch commands.length operands.length)

/-- Decodes a tape of codes whose first cell has the given index; the first bad code is named. -/
def decode : Nat → Tape UInt32 → Except ProgramError (Tape Command)
  | _, [] => .ok []
  | index, code :: codes =>
    match Command.ofCode? code with
    | none => .error (.invalidCommand index code)
    | some c => (decode (index + 1) codes).map (c :: ·)

def ofCodes (codes operands : Tape UInt32) (ceiling : UInt32) : Except ProgramError Program :=
  match decode 0 codes with
  | .error e => .error e
  | .ok commands => ofTapes commands operands ceiling

def length (p : Program) : Nat := p.cells.length
def isEmpty (p : Program) : Bool := p.cells.isEmpty
def commands (p : Program) : Tape Command := p.cells.map (·.1)
def operands (p : Program) : Tape UInt32 := p.cells.map (·.2)
def codes (p : Program) : Tape UInt32 := p.commands.map Command.code

/-- How many commands of a tape answer. -/
def countRecording (commands : Tape Command) : Nat := commands.countP Command.records

/-- The instruction at an address. -/
def inst? (p : Program) (address : UInt32) : Option Inst :=
  (Tape.read p.cells address).map fun (cmd, value) => ⟨address, cmd, value⟩

/-- All instructions in order. -/
def insts (p : Program) : List Inst :=
  p.cells.zipIdx.map fun ((cmd, value), index) => ⟨UInt32.ofNat index, cmd, value⟩

/-- The listing has a line for each instruction, and each line ends. -/
def listing (p : Program) : String :=
  String.join (p.insts.map fun inst => inst.line ++ "\n")

end Program

end CommandTape
