import CommandTape.Numeral
import CommandTape.Pattern.Mode
import CommandTape.Text.CodePoint

/-!
# Characters and places in an expression

What stands for one character or for a place between characters, how it is written after a
backslash, and where it is at hand.

Tables of characters are not at hand: none for letters in either case, for digits, for white space
and for the parts of words. So with characters the case of letters has to count, and there are
neither classes by a letter nor ends of words. With bytes all of these are those of ASCII, but
nothing may match a byte that is not in ASCII, because it would be only a part of a character.
-/

namespace CommandTape.Pattern

inductive Atom
  /-- A character, perhaps written by the number of its byte. -/
  | char (c : Char) (isByte : Bool)
  /-- Any character but a line feed. -/
  | any
  /-- The class of a letter, or what is outside of it. -/
  | letterClass (isOpposite : Bool)
  /-- An end of a line or of the text. -/
  | edge
  /-- An end of a word, or a place that is none. -/
  | wordEdge
  deriving DecidableEq, Repr

namespace Atom

/-- Whether an atom is at hand in a sequence. -/
def isAllowed (mode : Mode) : Atom → Bool
  | char c isByte => if mode.isUnicode then !mode.ignoresCase else c ≤ '\x7f' || !isByte
  | any => mode.isUnicode
  | letterClass isOpposite => !mode.isUnicode && !isOpposite
  | edge => true
  | wordEdge => !mode.isUnicode

/-- Whether an atom is at hand in a set. -/
def isAllowedInSet (mode : Mode) : Atom → Bool
  | char c _ => if mode.isUnicode then !mode.ignoresCase else c ≤ '\x7f'
  | letterClass isOpposite => !mode.isUnicode && !isOpposite
  | any | edge | wordEdge => false

end Atom

/-- The atom that one character after a backslash stands for. Punctuation stands for itself. -/
def escaped? (c : Char) : Option Atom :=
  match c with
  | 'a' => some (.char '\x07' false)
  | 'f' => some (.char '\x0c' false)
  | 'n' => some (.char '\n' false)
  | 'r' => some (.char '\r' false)
  | 't' => some (.char '\t' false)
  | 'v' => some (.char '\x0b' false)
  | 'd' | 's' | 'w' => some (.letterClass false)
  | 'D' | 'S' | 'W' => some (.letterClass true)
  | 'A' | 'z' => some .edge
  | 'b' | 'B' | '<' | '>' => some .wordEdge
  | _ => if c ≤ '\x7f' && !c.isAlphanum then some (.char c false) else none

/-- The number of digits in the number of a character after this letter. -/
def numberSize? : Char → Option Nat
  | 'x' => some 2
  | 'u' => some 4
  | 'U' => some 8
  | _ => none

/-- Reads as many hexadecimal digits as are due after a value. -/
def number? (mode : Mode) : Nat → Nat → List Char → Option (Nat × List Char)
  | 0, value, text => some (value, text)
  | due + 1, value, text =>
    match mode.skip text with
    | [] => none
    | c :: text => do number? mode due (value * 16 + (← Numeral.digit? 16 c)) text

/-- Reads what comes after a backslash. -/
def escape? (mode : Mode) : List Char → Option (Atom × List Char)
  | [] => none
  | c :: text =>
    match numberSize? c with
    | none => (escaped? c).map (·, text)
    | some size => do
      let (number, text) ← number? mode size 0 text
      return (.char (← Text.scalar? number) (c = 'x'), text)

end CommandTape.Pattern
