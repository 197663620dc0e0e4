import CommandTape.Text.Trim

/-!
# Modes of reading an expression

Flags change how the text after them is read: whether the case of letters counts, whether what is
matched are characters or bytes, and whether white space and comments may stand between the items.
The other flags only change what an expression matches.
-/

namespace CommandTape.Pattern

structure Mode where
  ignoresCase : Bool := false
  /-- Whether characters are matched and not bytes. -/
  isUnicode : Bool := true
  /-- Whether white space and comments count for nothing. -/
  isVerbose : Bool := false
  deriving DecidableEq, Repr

/-- Whether a word turns flags on and, after a hyphen, others off. No flag comes twice. -/
def isFlags (word : List Char) : Bool :=
  word.all (fun c => "imsUuxR-".toList.contains c) && decide word.Nodup &&
    word.getLast? ≠ some '-'

/-- What a flag is after these flags. -/
def isOn (word : List Char) (flag : Char) (before : Bool) : Bool :=
  (word.takeWhile (· ≠ '-')).contains flag || before && !word.contains flag

namespace Mode

/-- The mode after flags. -/
def turn (mode : Mode) (word : List Char) : Mode where
  ignoresCase := isOn word 'i' mode.ignoresCase
  isUnicode := isOn word 'u' mode.isUnicode
  isVerbose := isOn word 'x' mode.isVerbose

/-- The text from its first character on that is neither white space nor in a comment. A comment
    goes from a number sign to the end of its line. -/
def skipBlanks (isComment : Bool) : List Char → List Char
  | [] => []
  | c :: text =>
    if isComment then skipBlanks (c ≠ '\n') text
    else if Text.isSpace c then skipBlanks false text
    else if c = '#' then skipBlanks true text
    else c :: text

/-- The text without what counts for nothing at its beginning. -/
def skip (mode : Mode) (text : List Char) : List Char :=
  if mode.isVerbose then skipBlanks false text else text

/-- The character that seems to come next. A comment loses only its number sign here, so its first
    character counts; a text of nothing but white space has its first character come next. -/
def glance (mode : Mode) (text : List Char) : Option Char :=
  if mode.isVerbose then
    let shown := text.dropWhile Text.isSpace
    let shown := if shown.head? = some '#' then shown.tail.dropWhile Text.isSpace else shown
    shown.head?.or text.head?
  else text.head?

end Mode

end CommandTape.Pattern
