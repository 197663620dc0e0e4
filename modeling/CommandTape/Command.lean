import CommandTape.Numeral

/-!
# Commands and instructions

A command is what a queue is asked to do. On a tape it stands as a two-bit code, in a listing
as a word. An instruction is a command with its operand and its place on the tape.
-/

namespace CommandTape

inductive Command
  | pop
  | peek
  | push
  deriving DecidableEq, Repr

namespace Command

def code : Command → UInt32
  | pop => 0
  | peek => 1
  | push => 2

def ofCode? (code : UInt32) : Option Command :=
  if code = 0 then some pop else if code = 1 then some peek
  else if code = 2 then some push else none

/-- What is said of a number that is no code. -/
def invalidCodeMessage (code : UInt32) : String :=
  s!"invalid command code {code} (expected 0=pop, 1=peek, 2=push)"

def name : Command → String
  | pop => "pop"
  | peek => "peek"
  | push => "push"

/-- The constructor as the dispatcher's state shows it. -/
def label : Command → String
  | pop => "Pop"
  | peek => "Peek"
  | push => "Push"

/-- Pop and peek hand an answer back, and that answer goes onto the result tape. -/
def records : Command → Bool
  | pop | peek => true
  | push => false

def takesOperand : Command → Bool
  | push => true
  | pop | peek => false

/-- A command by its name; the caller has put the word into lower case. -/
def ofName? : String → Option Command
  | "pop" => some pop
  | "peek" => some peek
  | "push" => some push
  | _ => none

/-- A word with its ASCII capitals put into lower case and all other characters kept. -/
def lowered (word : String) : String := String.ofList (word.toList.map Char.toLower)

/-- Reads a command word in any letter case. -/
def read? (word : String) : Option Command := ofName? (lowered word)

/-- What is said of a word that is no command: it is shown in lower case. -/
def unknownMessage (word : String) : String := s!"unknown command: {lowered word}"

theorem ofCode?_code (c : Command) : ofCode? c.code = some c := by cases c <;> rfl

theorem ofName?_name (c : Command) : ofName? c.name = some c := by cases c <;> rfl

end Command

/-- A command with its operand, at an index of a tape. -/
structure Inst where
  index : UInt32
  cmd : Command
  value : UInt32
  deriving DecidableEq, Repr

/-- The command with its operand, if it takes one. -/
def Inst.body (inst : Inst) : String :=
  if inst.cmd.takesOperand then s!"{inst.cmd.name} {inst.value}" else inst.cmd.name

/-- A line of a listing: the index in at least four digits, then the command. -/
def Inst.line (inst : Inst) : String :=
  String.ofList (Numeral.padded 4 inst.index.toNat) ++ ": " ++ inst.body

end CommandTape
