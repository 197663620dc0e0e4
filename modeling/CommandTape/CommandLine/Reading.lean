import CommandTape.CommandLine.Given

/-!
# The command line

Words after the program's name: `run` or `list` with a data file and options. An option may have
its value in the same word or in the next one, options of one letter may stand together, and after
`--` every word is a data file.

Words are taken in from left to right. The value of an option, or the data file, is looked at only
when the next option or data file is met or the words are over; a word that cannot be placed is an
error before that.
-/

namespace CommandTape.CommandLine

/-! ## Words after the action -/

/-- What has been taken in after the action. -/
structure Taken where
  action : Action
  given : Given := {}
  /-- How often more log output was asked for. -/
  verbose : Nat := 0
  /-- The slot that was met last, and its value once that is there. -/
  pending : Option (Slot × Option String) := none
  hasData : Bool := false
  /-- Whether `--` has been met. -/
  onlyData : Bool := false
  deriving DecidableEq, Repr

/-- An invocation of the program. -/
structure Invocation where
  action : Action
  data : String
  verbose : Nat
  config : Option String
  overrides : Overrides
  output : Option String
  deriving DecidableEq, Repr

/-- A long option's name, and its value if that is in the same word. -/
def splitAtEquals (word : List Char) : String × Option String :=
  match word.dropWhile (· ≠ '=') with
  | [] => (String.ofList word, none)
  | _ :: value => (String.ofList (word.takeWhile (· ≠ '=')), some (String.ofList value))

namespace Taken

/-- Puts the pending value into its slot. -/
def settle (taken : Taken) : Except UsageError Taken :=
  match taken.pending with
  | none => .ok taken
  | some (_, none) => .error .noValue
  | some (slot, some text) =>
    (taken.given.put slot text).map fun given => { taken with given, pending := none }

/-- Takes in a data file. -/
def nextData (taken : Taken) (word : String) : Except UsageError Taken :=
  if taken.hasData then .error .unknownArgument
  else taken.settle.map fun taken =>
    { taken with pending := some (.data, some word), hasData := true }

def nextVerbose (taken : Taken) : Except UsageError Taken :=
  taken.settle.map fun taken => { taken with verbose := taken.verbose + 1 }

def nextHelp (taken : Taken) : Except UsageError Taken := taken.settle.bind fun _ => .error .help

/-- Takes in an option, whose value is due in the next word unless it is given. -/
def nextOption (taken : Taken) (slot : Slot) (value : Option String) : Except UsageError Taken :=
  taken.settle.bind fun taken =>
    match value with
    | none => .ok { taken with pending := some (slot, none) }
    | some text => (taken.given.put slot text).map fun given => { taken with given }

def nextLong (taken : Taken) (word : List Char) : Except UsageError Taken :=
  match splitAtEquals word with
  | ("verbose", none) => taken.nextVerbose
  | ("help", none) => taken.nextHelp
  | ("verbose", some _) | ("help", some _) => .error .unneededValue
  | (name, value) =>
    match Slot.ofLong? taken.action name with
    | some slot => taken.nextOption slot value
    | none => .error .unknownArgument

/-- Takes in the letters of a word. The letters after an option's are its value, with or without
    an equals sign. -/
def nextLetters (taken : Taken) : List Char → Except UsageError Taken
  | [] => .ok taken
  | 'v' :: rest => taken.nextVerbose.bind (nextLetters · rest)
  | 'h' :: _ => taken.nextHelp
  | c :: rest =>
    match Slot.ofLetter? taken.action c with
    | none => .error .unknownArgument
    | some slot =>
      match rest with
      | [] => taken.nextOption slot none
      | '=' :: value | value => taken.nextOption slot (some (String.ofList value))

/-- Takes in a word. -/
def next (taken : Taken) (word : String) : Except UsageError Taken :=
  if taken.onlyData then taken.nextData word
  else match word.toList with
    | ['-', '-'] => .ok { taken with onlyData := true }
    | '-' :: '-' :: long => taken.nextLong long
    | '-' :: c :: letters => taken.nextLetters (c :: letters)
    | _ =>
      match taken.pending with
      | some (slot, none) => .ok { taken with pending := some (slot, some word) }
      | _ => taken.nextData word

/-- The invocation once the words are over. A count of log requests after the action replaces the
    one before it, and counts end at 255. -/
def finish (verboseBefore : Nat) (taken : Taken) : Except UsageError Invocation :=
  taken.settle.bind fun taken =>
    match taken.given.data with
    | none => .error .noData
    | some data => .ok {
        action := taken.action
        data
        verbose := min 255 (if taken.verbose = 0 then verboseBefore else taken.verbose)
        config := taken.given.config
        overrides := taken.given.overrides
        output := taken.given.output }

end Taken

/-! ## Words before the action -/

def helpNames : List String := ["run", "list", "help"]

/-- Words after `help`: the name of an action may follow. -/
def readHelp : List String → UsageError
  | [] => .help
  | [word] => if word ∈ helpNames then .help else .unknownAction
  | _ => .unknownAction

/-- The letters of a word before the action. -/
def readLetters (verbose : Nat) : List Char → Except UsageError Nat
  | [] => .ok verbose
  | 'v' :: rest => readLetters (verbose + 1) rest
  | 'h' :: _ => .error .help
  | _ => .error .unknownArgument

def readLong (verbose : Nat) (word : List Char) : Except UsageError Nat :=
  match splitAtEquals word with
  | ("verbose", none) => .ok (verbose + 1)
  | ("help", none) => .error .help
  | ("verbose", some _) | ("help", some _) => .error .unneededValue
  | _ => .error .unknownArgument

/-- What is missing when the words are over before an action. -/
def missing (verbose : Nat) : UsageError := if verbose = 0 then .nothing else .noAction

/-- Reads words before the action, after a number of requests for more log output. -/
def readFrom (verbose : Nat) : List String → Except UsageError Invocation
  | [] => .error (missing verbose)
  | word :: rest =>
    match Action.ofName? word with
    | some action => (rest.foldlM Taken.next { action }).bind (Taken.finish verbose)
    | none =>
      if word = "help" then .error (readHelp rest)
      else match word.toList with
        | ['-', '-'] =>
          match rest with
          | [] => .error (missing verbose)
          | next :: _ =>
            if next ∈ helpNames then .error .unknownArgument else .error .unknownAction
        | '-' :: '-' :: long => (readLong verbose long).bind (readFrom · rest)
        | '-' :: c :: letters => (readLetters verbose (c :: letters)).bind (readFrom · rest)
        | _ => .error .unknownAction

/-- Reads the words of a command line. -/
def read (words : List String) : Except UsageError Invocation := readFrom 0 words

end CommandTape.CommandLine
