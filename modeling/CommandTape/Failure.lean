import CommandTape.Loading

/-!
# Failures

What ends the program's work with an error, and how that is reported: a headline and under it the
chain of its causes. A single cause stands alone and several are numbered.
-/

namespace CommandTape

/-- What ended the program's work. -/
inductive Failure
  | invalidConfig (error : ConfigError)
  | loadingConfig (path : String) (error : LoadError)
  | loadingProgram (path : String) (error : LoadError)
  | writing (path : String) (error : FileError)
  deriving Repr

namespace Failure

def headline : Failure → String
  | invalidConfig error => error.message
  | loadingConfig path _ => s!"loading config {path}"
  | loadingProgram path _ => s!"loading {path}"
  | writing path _ => s!"writing {path}"

def causes? : Failure → Option Causes
  | invalidConfig _ => none
  | loadingConfig _ error | loadingProgram _ error => some error.causes
  | writing _ error => some (.chain error.message [])

/-- A cause on a line of its own with its number. -/
def numbered (number : Nat) (cause : String) : String := s!"\n    {number}: {cause}"

/-- The failure as it is reported: a single cause stands alone, several are numbered. -/
def report (failure : Failure) : String :=
  s!"Error: {failure.headline}" ++
  match failure.causes? with
  | none => "\n"
  | some (.chain cause []) => s!"\n\nCaused by:\n    {cause}\n"
  | some (.chain first rest) =>
    "\n\nCaused by:" ++
    String.join ((first :: rest).zipIdx.map fun (cause, number) => numbered number cause) ++ "\n"
  | some (.brokenOff first) => "\n\nCaused by:" ++ numbered 0 first

/-- The failure on one line. -/
def line (failure : Failure) : String :=
  match failure.causes? with
  | none => failure.headline
  | some (.chain first rest) => ": ".intercalate (failure.headline :: first :: rest)
  | some (.brokenOff first) => s!"{failure.headline}: {first}"

end Failure

end CommandTape
