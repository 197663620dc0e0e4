import CommandTape.Program
import CommandTape.Text.Line
import CommandTape.Text.Quoted

/-!
# Text listings

A program as text: one instruction a line, a command word and, for a push, its operand. A `;` or
`#` starts a comment, and blank lines are skipped. The first line that is wrong is reported with
its number, before the length of the program is looked at.
-/

namespace CommandTape.Listing

/-- What can be wrong with a line. -/
inductive LineError
  | unknownCommand (word : String)
  | operandCount (cmd : Command) (given : Nat)
  | operand (word : String) (reason : Numeral.Reason)
  deriving DecidableEq, Repr

def LineError.message : LineError → String
  | .unknownCommand word => Command.unknownMessage word
  | .operandCount cmd given =>
    if cmd.takesOperand then s!"{cmd.name} takes exactly one operand, got {given}"
    else s!"{cmd.name} takes no operand, got {given}"
  | .operand word reason => s!"invalid operand {Text.quoted word.toList}: {reason.message}"

inductive Error
  | line (number : Nat) (error : LineError)
  | program (error : ProgramError)
  deriving DecidableEq, Repr

/-- Reads an operand: decimal, or hexadecimal after `0x`, below `2 ^ 32`. -/
def readOperand : List Char → Except Numeral.Reason UInt32
  | '0' :: 'x' :: digits => (Numeral.read 16 UInt32.size digits).map UInt32.ofNat
  | digits => (Numeral.read 10 UInt32.size digits).map UInt32.ofNat

/-- The part of a line before its comment. -/
def beforeComment (line : List Char) : List Char :=
  line.takeWhile fun c => c ≠ ';' && c ≠ '#'

/-- Reads the words of a line. The command word is looked at before the number of operands, and
    that before the operand itself. A pop or peek stands on the tape with operand zero. -/
def readWords : List (List Char) → Except LineError (Option (Command × UInt32))
  | [] => .ok none
  | verb :: args =>
    match Command.read? (String.ofList verb) with
    | none => .error (.unknownCommand (String.ofList verb))
    | some cmd =>
      match cmd.takesOperand, args with
      | true, [word] =>
        match readOperand word with
        | .ok value => .ok (some (cmd, value))
        | .error reason => .error (.operand (String.ofList word) reason)
      | false, [] => .ok (some (cmd, 0))
      | _, _ => .error (.operandCount cmd args.length)

/-- Reads a line; a line without words holds no instruction. -/
def readLine (line : List Char) : Except LineError (Option (Command × UInt32)) :=
  readWords (Text.words (beforeComment line))

/-- Reads the lines from a line number on, up to the first that is wrong. -/
def readLines : Nat → List (List Char) → Except Error (Tape (Command × UInt32))
  | _, [] => .ok []
  | number, line :: rest =>
    match readLine line with
    | .error error => .error (.line number error)
    | .ok none => readLines (number + 1) rest
    | .ok (some cell) => (readLines (number + 1) rest).map (cell :: ·)

/-- Reads a program of at most `ceiling` instructions. -/
def read (text : List Char) (ceiling : UInt32) : Except Error Program :=
  match readLines 1 (Text.lines text) with
  | .error error => .error error
  | .ok cells => (Program.ofCells cells ceiling).mapError .program

end CommandTape.Listing
