import CommandTape.Pattern.Atom
import CommandTape.Pattern.Nesting

/-!
# Bracketed sets

A set stands between brackets. It holds characters, ranges of them, classes and other sets, and
marks of two characters between its items take the intersection, the difference or the symmetric
difference of what is before and after them. A circumflex at the beginning turns a set into its
opposite; hyphens at the beginning, and otherwise a closing bracket there, stand for themselves.
-/

namespace CommandTape.Pattern

/-- A set that is not closed yet. -/
structure OpenSet where
  /-- The items since the last mark. -/
  row : Row := {}
  /-- The depth of what is before the last mark. -/
  left : Option Nat := none
  /-- Whether there are only hyphens so far. -/
  isFresh : Bool := true
  deriving DecidableEq, Repr

namespace OpenSet

def add (set : OpenSet) (depth : Nat) : OpenSet :=
  { set with row := set.row.add depth, isFresh := false }

/-- The depth of what a set holds. -/
def depth (set : OpenSet) : Nat :=
  match set.left with
  | none => set.row.depth
  | some left => max left set.row.depth + 1

/-- The set after a mark. -/
def mark (set : OpenSet) : OpenSet := ⟨{}, some set.depth, false⟩

/-- Whether a character stands for itself because nothing but hyphens is before it. -/
def isPlain (set : OpenSet) (c : Char) : Bool :=
  set.isFresh && (c = '-' || c = ']' && set.row.count = 0)

/-- The set with such a character. -/
def addPlain (set : OpenSet) (c : Char) : OpenSet := { set.add 0 with isFresh := c = '-' }

end OpenSet

/-- The classes that have names. -/
def classNames : List String := [
  "alnum", "alpha", "ascii", "blank", "cntrl", "digit", "graph", "lower", "print", "punct",
  "space", "upper", "word", "xdigit"]

/-- Reads a class by its name after its opening bracket, and whether its opposite is meant. -/
def namedClass? : List Char → Option (Bool × List Char)
  | ':' :: text =>
    let isOpposite := text.head? = some '^'
    let text := if isOpposite then text.tail else text
    let name := text.takeWhile (· ≠ ':')
    match text.drop name.length with
    | ':' :: ']' :: rest =>
      if classNames.contains (String.ofList name) then some (isOpposite, rest) else none
    | _ => none
  | _ => none

/-- Whether a class by its name is at hand. -/
def isClassAllowed (mode : Mode) (isOpposite : Bool) : Bool :=
  if mode.isUnicode then !mode.ignoresCase else !isOpposite

/-- Reads the beginning of a set after its opening bracket. The opposite of a set of bytes would
    match bytes that are not in ASCII. -/
def openSet? (mode : Mode) (text : List Char) : Option (List Char) :=
  match mode.skip text with
  | '^' :: text => if mode.isUnicode then some text else none
  | text => some text

/-- Reads an atom of a set. -/
def setAtom? (mode : Mode) (text : List Char) : Option (Atom × List Char) := do
  let (atom, text) ← match text with
    | [] => none
    | '\\' :: text => escape? mode text
    | c :: text => some (.char c false, text)
  if atom.isAllowedInSet mode then some (atom, text) else none

/-- Reads an atom of a set or a range between two of them. A hyphen before another one or before
    a closing bracket makes no range. -/
def setItem? (mode : Mode) (text : List Char) : Option (List Char) := do
  let (low, text) ← setAtom? mode text
  match mode.skip text with
  | '-' :: after =>
    let next := mode.glance after
    if next = some ']' || next = some '-' then some ('-' :: after)
    else match low, ← setAtom? mode (mode.skip after) with
      | .char low _, (.char high _, rest) => if low ≤ high then some rest else none
      | _, _ => none
  | text => some text

/-- Reads a set that stands in others to the end of the outermost one, and gives its depth. Each
    step takes at least one character, so as many steps as characters are enough. -/
def closeSet? (mode : Mode) : Nat → OpenSet → List OpenSet → List Char → Option (Nat × List Char)
  | 0, _, _, _ => none
  | steps + 1, set, outer, text =>
    match mode.skip text with
    | [] => none
    | c :: text =>
      if set.isPlain c then
        if (Atom.char c false).isAllowedInSet mode then
          closeSet? mode steps (set.addPlain c) outer text
        else none
      else match c, text with
        | ']', text =>
          match outer with
          | [] => some (set.depth + 1, text)
          | around :: outer => closeSet? mode steps (around.add (set.depth + 1)) outer text
        | '[', text =>
          match namedClass? text with
          | some (isOpposite, rest) =>
            if isClassAllowed mode isOpposite then closeSet? mode steps (set.add 0) outer rest
            else none
          | none => do closeSet? mode steps {} (set :: outer) (← openSet? mode text)
        | '&', '&' :: text | '-', '-' :: text | '~', '~' :: text =>
          closeSet? mode steps set.mark outer text
        | c, text => do closeSet? mode steps (set.add 0) outer (← setItem? mode (c :: text))

/-- Reads a set after its opening bracket, and gives its depth. -/
def set? (mode : Mode) (text : List Char) : Option (Nat × List Char) := do
  closeSet? mode (text.length + 1) {} [] (← openSet? mode text)

end CommandTape.Pattern
