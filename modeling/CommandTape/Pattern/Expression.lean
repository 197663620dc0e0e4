import CommandTape.Pattern.Set
import CommandTape.Text.Alphanumeric

/-!
# Regular expressions

Which texts are regular expressions is decided in one reading from left to right. An expression is
a choice between sequences of atoms, sets and groups, which may be repeated. It may be nested up
to a limit, and no two groups have one name. Counted repetitions do not exist: the text is that of
a value in a directive, where a closing brace cannot stand.
-/

namespace CommandTape.Pattern

/-- A choice that is not complete yet: that of the whole expression, or in a group. -/
structure Choice where
  /-- The sequences that are complete. -/
  before : Row := {}
  /-- The sequence being read. -/
  row : Row := {}
  deriving DecidableEq, Repr

namespace Choice

/-- The choice after a bar. -/
def other (choice : Choice) : Choice := ⟨choice.before.add choice.row.depth, {}⟩

def add (choice : Choice) (depth : Nat) : Choice :=
  { choice with row := choice.row.add depth }

/-- The depth of a choice; one sequence alone is no choice. -/
def depth (choice : Choice) : Nat := (choice.before.add choice.row.depth).depth

end Choice

structure Reading where
  mode : Mode := {}
  choice : Choice := {}
  /-- What is around the open groups, each with the mode that holds again there, innermost
      first. -/
  outer : List (Mode × Choice) := []
  /-- The names of the groups so far. -/
  names : List (List Char) := []
  deriving DecidableEq, Repr

/-- Whether the name of a group can have this character, or begin with it. -/
def isNameChar (c : Char) : Bool :=
  c = '_' || c = '.' || c = '[' || c = ']' || Text.Alphanumeric.isAlphanumeric c

def isNameStart (c : Char) : Bool := c = '_' || Text.Alphabetic.isAlphabetic c

def isName (word : List Char) : Bool := word.head?.any isNameStart && word.all isNameChar

namespace Reading

/-- The reading in a group that it opens. -/
def enter (reading : Reading) (mode : Mode) : Reading :=
  { reading with mode, choice := {}, outer := (reading.mode, reading.choice) :: reading.outer }

/-- The reading after a closing parenthesis. -/
def leave? (reading : Reading) : Option Reading :=
  match reading.outer with
  | [] => none
  | (mode, choice) :: outer =>
    some { reading with mode, choice := choice.add (reading.choice.depth + 1), outer }

def addAtom? (reading : Reading) (atom : Atom) : Option Reading :=
  if atom.isAllowed reading.mode then some { reading with choice := reading.choice.add 0 }
  else none

/-- The reading with its last item repeated. -/
def repeatLast? (reading : Reading) : Option Reading :=
  reading.choice.row.repeatLast?.map fun row => { reading with choice.row := row }

/-- The reading after flags of the group that is open. -/
def turn (reading : Reading) (word : List Char) : Reading :=
  { reading with
    mode := reading.mode.turn word
    choice.row := reading.choice.row.addFixed }

/-- Reads the name of a group. -/
def named? (reading : Reading) (text : List Char) : Option (Reading × List Char) :=
  let name := text.takeWhile (· ≠ '>')
  match text.drop name.length with
  | _ :: text =>
    if isName name && !reading.names.contains name then
      some ({ reading.enter reading.mode with names := name :: reading.names }, text)
    else none
  | [] => none

/-- Reads flags that are those of a group or stand for themselves. -/
def flagged? (reading : Reading) (text : List Char) : Option (Reading × List Char) :=
  let word := text.takeWhile fun c => c ≠ ':' && c ≠ ')'
  if !isFlags word then none
  else match text.drop word.length with
    | ':' :: text => some (reading.enter (reading.mode.turn word), text)
    | ')' :: text => if word.isEmpty then none else some (reading.turn word, text)
    | _ => none

/-- Reads what comes after an opening parenthesis. -/
def group? (reading : Reading) (text : List Char) : Option (Reading × List Char) :=
  match reading.mode.skip text with
  | '?' :: 'P' :: '<' :: text | '?' :: '<' :: text => reading.named? text
  | '?' :: text => reading.flagged? text
  | text => some (reading.enter reading.mode, text)

/-- Reads an item or a mark. A question mark right after a repetition belongs to it. -/
def next? (reading : Reading) (c : Char) (text : List Char) : Option (Reading × List Char) :=
  match c with
  | '(' => reading.group? text
  | ')' => reading.leave?.map (·, text)
  | '|' => some ({ reading with choice := reading.choice.other }, text)
  | '?' | '*' | '+' =>
    reading.repeatLast?.map (·, if text.head? = some '?' then text.tail else text)
  | '\x7b' => none
  | '[' => do
    let (depth, text) ← set? reading.mode text
    return ({ reading with choice := reading.choice.add depth }, text)
  | '\\' => do
    let (atom, text) ← escape? reading.mode text
    return (← reading.addAtom? atom, text)
  | '.' => (reading.addAtom? .any).map (·, text)
  | '^' | '$' => (reading.addAtom? .edge).map (·, text)
  | c => (reading.addAtom? (.char c false)).map (·, text)

/-- Reads to the end of the text. Each step takes at least one character, so as many steps as
    characters are enough. -/
def finish? : Nat → Reading → List Char → Option Reading
  | 0, _, _ => none
  | steps + 1, reading, text =>
    match reading.mode.skip text with
    | [] => some reading
    | c :: text => do
      let (reading, text) ← reading.next? c text
      finish? steps reading text

end Reading

/-- Whether a text is a regular expression. -/
def isExpression (text : List Char) : Bool :=
  match Reading.finish? (text.length + 1) {} text with
  | some reading => reading.outer.isEmpty && reading.choice.depth ≤ depthLimit
  | none => false

end CommandTape.Pattern
