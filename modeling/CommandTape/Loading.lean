import CommandTape.Config.File
import CommandTape.DataFile.Text
import CommandTape.Folder
import CommandTape.Listing

/-!
# Loading programs and configurations

A program is read from a data file if the path's extension says so, and from a listing otherwise.
What went wrong is told as a chain of causes, each the cause of the one before it.
-/

namespace CommandTape

/-- Why a file gives no program or no configuration. -/
inductive LoadError
  | file (error : FileError)
  | json (trouble : Json.Trouble)
  | dataFile (error : DataFileError)
  | listing (error : Listing.Error)
  | toml
  deriving Repr

/-- A chain of messages, the outermost first. One that tells of a malformed file breaks off before
    the words of the format's own reader. -/
inductive Causes
  | chain (first : String) (rest : List String)
  | brokenOff (first : String)
  deriving DecidableEq, Repr

def ProgramError.causes (error : ProgramError) : Causes :=
  match error with
  | .invalidCommand _ code => .chain error.message [Command.invalidCodeMessage code]
  | .lengthMismatch .. | .tooManyInstructions .. => .chain error.message []

def LoadError.causes : LoadError → Causes
  | .file error => .chain s!"I/O error: {error.message}" [error.message]
  | .json _ => .brokenOff "malformed data file:"
  | .toml => .brokenOff "malformed config file:"
  | .dataFile (.program error) | .listing (.program error) => error.causes
  | .dataFile error => .chain error.message []
  | .listing (.line number error) => .chain s!"line {number}: {error.message}" []

/-- Loads a program of at most `ceiling` instructions. -/
def loadProgram (read : FileReader) (path : String) (ceiling : UInt32) :
    Except LoadError Program :=
  match read.text path with
  | .error error => .error (.file error)
  | .ok text =>
    if Path.extension? path = some "json" then
      match DataFile.read text with
      | .error trouble => .error (.json trouble)
      | .ok file => (file.toProgram ceiling).mapError .dataFile
    else (Listing.read text ceiling).mapError .listing

def loadConfig (read : FileReader) (path : String) : Except LoadError Config :=
  match read.text path with
  | .error error => .error (.file error)
  | .ok text =>
    match Config.ofToml? text with
    | some config => .ok config
    | none => .error .toml

end CommandTape
