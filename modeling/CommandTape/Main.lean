import CommandTape.Event.Filter.Reading
import CommandTape.Session

/-!
# The program

Reads and writes files, prints, and leaves everything else to the session.
-/

namespace CommandTape.Main

/-- Whether a system call failed for a reason; some calls give its number negated. -/
def isReason (number code : UInt32) : Bool := code = number || code = 0 - number

/-- A failure of the system in the words of the library. -/
def fileError : IO.Error → FileError
  | .noFileOrDirectory .. => .missing
  | .inappropriateType path code details =>
    if isReason 20 code then .notDirectory
    else if isReason 21 code then .isDirectory
    else .other (toString (IO.Error.inappropriateType path code details))
  | .invalidArgument path code details =>
    if isReason 36 code then .nameTooLong
    else .other (toString (IO.Error.invalidArgument path code details))
  | error => .other (toString error)

/-- Carries out an action on the file system. -/
def attempt (action : IO α) : IO (Except FileError α) := do
  try return .ok (← action) catch error => return .error (fileError error)

/-- Reads the files that an invocation names. -/
def readNamed (invocation : CommandLine.Invocation) : IO FileReader := do
  let data ← attempt (IO.FS.readBinFile invocation.data)
  let config ← match invocation.config with
    | none => pure (.error .missing)
    | some path => attempt (IO.FS.readBinFile path)
  return fun path =>
    if path = invocation.data then data
    else if some path = invocation.config then config
    else .error .missing

/-- Writes the output of a session, if there is one. -/
def conclude (session : Session) : IO Session := do
  match session.output with
  | none => return session
  | some (path, text) =>
    let written ← attempt (IO.FS.writeFile path text)
    return session.concluded path written

/-- Carries out an invocation. -/
def carryOut (invocation : CommandLine.Invocation) : IO UInt32 := do
  let filter := LogFilter.choose (← IO.getEnv "RUST_LOG") invocation.verbose
  let session := Session.perform (← readNamed invocation) invocation
  IO.print session.stdout
  let session ← conclude session
  for line in session.logLines filter do
    IO.eprintln line
  if let some failure := session.failure then
    IO.eprint failure.report
  return session.exitCode

end CommandTape.Main

open CommandTape in
def main (words : List String) : IO UInt32 := do
  match CommandLine.read words with
  | .error error =>
    IO.eprintln error.message
    return error.exitCode
  | .ok invocation => Main.carryOut invocation
