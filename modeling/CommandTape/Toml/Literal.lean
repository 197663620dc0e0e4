import CommandTape.Numeral
import CommandTape.Text.CodePoint

/-!
# Quoted texts in TOML

A text stands between quotation marks or apostrophes, on one line between single marks or on
several between triple ones. Between quotation marks a backslash begins an escape. A text is read
one character at a time, from the character after its first mark on; that it is over may show only
at the character after it.
-/

namespace CommandTape.Toml

inductive Quote
  /-- Quotation marks; escapes are read. -/
  | basic
  /-- Apostrophes; every character stands for itself. -/
  | literal
  deriving DecidableEq, Repr

def Quote.mark : Quote → Char
  | .basic => '"'
  | .literal => '\''

/-- The kind of text that a character opens. -/
def Quote.ofMark? (c : Char) : Option Quote :=
  if c = Quote.basic.mark then some .basic
  else if c = Quote.literal.mark then some .literal
  else none

/-- Where in a text the next character stands. -/
inductive Spot
  /-- After the first mark, and after the second one. -/
  | opened
  | openedTwice
  | line
  /-- In a text of several lines: at its start, where a line end is dropped, and later. -/
  | first
  | body
  /-- After a carriage return, whose line feed is due and is kept or dropped. -/
  | return (kept : Bool)
  /-- After some marks in a text of several lines. -/
  | marks (count : Nat)
  | escape
  /-- After a backslash and blanks, where only a line end makes sense. -/
  | escapeBlank
  /-- After an escaped line end, where white space is dropped. -/
  | trimming
  | trimmingReturn
  | unit (due value : Nat)
  deriving DecidableEq, Repr

structure Literal where
  quote : Quote
  /-- Whether triple marks may open the text. -/
  mayBeLong : Bool
  isLong : Bool := false
  /-- The characters, the last of them first. -/
  taken : List Char := []
  spot : Spot := .opened
  deriving DecidableEq, Repr

inductive LiteralNext
  | more (literal : Literal)
  /-- The character was the last mark. -/
  | over (text : List Char)
  /-- The text was over before the character. -/
  | overBefore (text : List Char)
  | broken

/-- The character that an escape of one letter stands for. -/
def escaped? : Char → Option Char
  | 'b' => some '\x08'
  | 't' => some '\t'
  | 'n' => some '\n'
  | 'f' => some '\x0c'
  | 'r' => some '\r'
  | '"' => some '"'
  | '\\' => some '\\'
  | _ => none

/-- Blanks within a line. -/
def isBlank (c : Char) : Bool := c = ' ' || c = '\t'

/-- Characters that may stand in a text or a comment: no control but the tab. -/
def isPrintable (c : Char) : Bool := c = '\t' || (' ' ≤ c && c ≠ '\x7f')

namespace Literal

/-- A text of which the first mark has been read. -/
def start (quote : Quote) (mayBeLong : Bool) : Literal := { quote, mayBeLong }

/-- The place of ordinary characters. -/
def inside (t : Literal) : Spot := if t.isLong then .body else .line

def push (t : Literal) (c : Char) : Literal := { t with taken := c :: t.taken, spot := t.inside }

/-- Takes in a character where ordinary ones stand. -/
def nextInside (t : Literal) (c : Char) : LiteralNext :=
  if c = t.quote.mark then
    if t.isLong then .more { t with spot := .marks 1 } else .over t.taken.reverse
  else if c = '\\' ∧ t.quote = .basic then .more { t with spot := .escape }
  else if t.isLong ∧ c = '\n' then .more (t.push c)
  else if t.isLong ∧ c = '\r' then .more { t with spot := .return true }
  else if isPrintable c then .more (t.push c)
  else .broken

/-- Takes in a character after some marks in a text of several lines. Three close it, and one or
    two more before those three belong to it. -/
def nextMarks (t : Literal) (count : Nat) (c : Char) : LiteralNext :=
  let withMarks := List.replicate count t.quote.mark ++ t.taken
  if c = t.quote.mark then
    if count < 4 then .more { t with spot := .marks (count + 1) }
    else .over (withMarks.drop 2).reverse
  else if count < 3 then nextInside { t with taken := withMarks, spot := .body } c
  else .overBefore (withMarks.drop 3).reverse

/-- Takes in a character of an escape. -/
def nextEscape (t : Literal) (c : Char) : LiteralNext :=
  match escaped? c with
  | some c => .more (t.push c)
  | none =>
    if c = 'u' then .more { t with spot := .unit 4 0 }
    else if c = 'U' then .more { t with spot := .unit 8 0 }
    else if !t.isLong then .broken
    else if isBlank c then .more { t with spot := .escapeBlank }
    else if c = '\n' then .more { t with spot := .trimming }
    else if c = '\r' then .more { t with spot := .trimmingReturn }
    else .broken

def nextUnit (t : Literal) (due value : Nat) (c : Char) : LiteralNext :=
  match Numeral.digit? 16 c with
  | none => .broken
  | some d =>
    let value := value * 16 + d
    if 1 < due then .more { t with spot := .unit (due - 1) value }
    else match Text.scalar? value with
      | some c => .more (t.push c)
      | none => .broken

/-- Takes in a character. -/
def next (t : Literal) (c : Char) : LiteralNext :=
  match t.spot with
  | .opened =>
    if c = t.quote.mark then
      if t.mayBeLong then .more { t with spot := .openedTwice } else .over []
    else nextInside { t with spot := .line } c
  | .openedTwice =>
    if c = t.quote.mark then .more { t with isLong := true, spot := .first } else .overBefore []
  | .line | .body => t.nextInside c
  | .first =>
    if c = '\n' then .more { t with spot := .body }
    else if c = '\r' then .more { t with spot := .return false }
    else nextInside { t with spot := .body } c
  | .return kept =>
    if c ≠ '\n' then .broken
    else if kept then .more (t.push '\n')
    else .more { t with spot := .body }
  | .marks count => t.nextMarks count c
  | .escape => t.nextEscape c
  | .escapeBlank =>
    if isBlank c then .more t
    else if c = '\n' then .more { t with spot := .trimming }
    else if c = '\r' then .more { t with spot := .trimmingReturn }
    else .broken
  | .trimming =>
    if isBlank c || c = '\n' then .more t
    else if c = '\r' then .more { t with spot := .trimmingReturn }
    else nextInside { t with spot := .body } c
  | .trimmingReturn => if c = '\n' then .more { t with spot := .trimming } else .broken
  | .unit due value => t.nextUnit due value c

end Literal

end CommandTape.Toml
