import CommandTape.Text.Line

/-!
# Folders

A folder is a tree of files, and a path leads through it. Outside of the folder there are only the
directories that every system has at its root and two devices; every other directory counts as one
without files of its own. Reading and writing fail for the reasons that a file system gives.
-/

namespace CommandTape

/-- Why a file cannot be read or written. -/
inductive FileError
  | missing
  | notDirectory
  | isDirectory
  /-- The path or a part of it is longer than the file system allows. -/
  | nameTooLong
  /-- The path holds the character that ends paths. -/
  | zeroInPath
  | full
  /-- The file is there, but it is no text. -/
  | notText
  /-- Any other reason, as the system words it. -/
  | other (message : String)
  deriving DecidableEq, Repr

def FileError.message : FileError → String
  | .missing => "No such file or directory (os error 2)"
  | .notDirectory => "Not a directory (os error 20)"
  | .isDirectory => "Is a directory (os error 21)"
  | .nameTooLong => "File name too long (os error 36)"
  | .zeroInPath => "file name contained an unexpected NUL byte"
  | .full => "No space left on device (os error 28)"
  | .notText => "stream did not contain valid UTF-8"
  | .other message => message

/-- What can be asked of a file system: the bytes at a path. -/
abbrev FileReader := String → Except FileError ByteArray

/-- Reads a file as text. -/
def FileReader.text (read : FileReader) (path : String) : Except FileError (List Char) :=
  match read path with
  | .error e => .error e
  | .ok bytes =>
    match String.fromUTF8? bytes with
    | some text => .ok text.toList
    | none => .error .notText

namespace Path

/-- The parts of a path between slashes; empty ones and single dots lead nowhere else. -/
def parts (path : String) : List String := (Text.fields '/' path.toList).map String.ofList

/-- What stands after the last dot of a name, unless the name begins with that dot. -/
def nameExtension? (name : List Char) : Option (List Char) :=
  let extension := (name.reverse.takeWhile (· ≠ '.')).reverse
  if name.length ≤ extension.length + 1 then none else some extension

/-- Why a path cannot lead anywhere, whatever the files. A path is not empty, ends where its text
    does, and takes less than 4096 bytes. -/
def defect? (path : String) : Option FileError :=
  if path.toList.any (· = '\x00') then some .zeroInPath
  else if path.isEmpty then some .missing
  else if 4096 ≤ path.utf8ByteSize then some .nameTooLong
  else none

/-- Whether a part of a path is too long to name a file. -/
def isLong (part : String) : Bool := 255 < part.utf8ByteSize

/-- The extension of a path to a file. -/
def extension? (path : String) : Option String :=
  match ((parts path).filter fun part => part ≠ "" ∧ part ≠ ".").getLast? with
  | some ".." | none => none
  | some name => (nameExtension? name.toList).map String.ofList

end Path

/-- The files of a folder, each with the parts of its path. -/
structure Folder where
  files : List (List String × ByteArray)

namespace Folder

/-- Where a path leads. -/
inductive Place
  | directory (parts : List String)
  | file (bytes : ByteArray)
  /-- A file outside of the folder that is empty and stays so; writing to it may fail. -/
  | device (isFull : Bool)
  | absent
  /-- A directory outside of the folder, with the parts of its path if it is known where it is. -/
  | outside (parts : Option (List String))

/-- The directories at the root of every system. -/
def systemParts : List String := [
  "bin", "boot", "dev", "etc", "home", "lib", "media", "mnt", "opt", "proc", "root", "run", "sbin",
  "srv", "sys", "tmp", "usr", "var"]

/-- Where a name in a directory outside of the folder leads. -/
def placeOutside (parts : Option (List String)) (name : String) : Place :=
  match parts with
  | some [] => if name ∈ systemParts then .outside (some [name]) else .absent
  | some ["dev"] =>
    if name = "null" then .device false else if name = "full" then .device true else .absent
  | _ => .absent

def place (folder : Folder) (parts : List String) : Place :=
  match folder.files.lookup parts with
  | some bytes => .file bytes
  | none =>
    if parts.isEmpty ∨ folder.files.any (fun file => parts.isPrefixOf file.1) then .directory parts
    else .absent

/-- Follows one part of a path. Only a directory can be gone through. -/
def follow (folder : Folder) (part : String) : Place → Except FileError Place
  | .file _ | .device _ => .error .notDirectory
  | .absent => .error .missing
  | .outside parts =>
    if part ∈ ["", "."] then .ok (.outside parts)
    else if part = ".." then .ok (.outside (parts.map List.dropLast))
    else if Path.isLong part then .error .nameTooLong
    else .ok (placeOutside parts part)
  | .directory parts =>
    if part ∈ ["", "."] then .ok (.directory parts)
    else if part = ".." then
      .ok (if parts.isEmpty then .outside none else .directory parts.dropLast)
    else if Path.isLong part then .error .nameTooLong
    else .ok (folder.place (parts ++ [part]))

/-- Follows parts one after the other. -/
def followAll (folder : Folder) (parts : List String) (place : Place) : Except FileError Place :=
  parts.foldlM (fun place part => folder.follow part place) place

/-- The place where a path begins: a slash leaves the folder. -/
def origin (path : String) : Place :=
  if path.toList.head? = some '/' then .outside (some []) else .directory []

/-- The bytes at a path. -/
def read (folder : Folder) : FileReader := fun path =>
  match Path.defect? path with
  | some e => .error e
  | none =>
    match folder.followAll (Path.parts path) (origin path) with
    | .error e => .error e
    | .ok (.file bytes) => .ok bytes
    | .ok (.device _) => .ok .empty
    | .ok .absent => .error .missing
    | .ok (.directory _) | .ok (.outside _) => .error .isDirectory

/-- The folder with other bytes in a file. -/
def put (folder : Folder) (parts : List String) (bytes : ByteArray) : Folder :=
  ⟨folder.files.filter (fun file => file.1 ≠ parts) ++ [(parts, bytes)]⟩

/-- Writes a file in a directory that is there. A name that a slash follows is a directory's, even
    if there is none. -/
def write (folder : Folder) (path : String) (bytes : ByteArray) : Except FileError Folder :=
  let parts := Path.parts path
  let named := (parts.reverse.dropWhile (· = "")).reverse
  match Path.defect? path, folder.followAll named.dropLast (origin path), named.getLast? with
  | some e, _, _ | none, .error e, _ => .error e
  | none, .ok (.file _), _ | none, .ok (.device _), _ => .error .notDirectory
  | none, .ok .absent, _ => .error .missing
  | none, .ok _, none => .error .isDirectory
  | none, .ok around, some name =>
    if named.length < parts.length ∨ name = "." ∨ name = ".." then .error .isDirectory
    else match folder.follow name around, around with
      | .error e, _ => .error e
      | .ok (.directory _), _ | .ok (.outside _), _ => .error .isDirectory
      | .ok (.device isFull), _ => if isFull then .error .full else .ok folder
      | .ok _, .directory within => .ok (folder.put (within ++ [name]) bytes)
      | .ok _, _ => .ok folder

end Folder

end CommandTape
