import CommandTape.Numeral

/-!
# Texts in JSON

A text literal is read one character at a time, from the character after its opening quote on. A
character may be written as itself, by an escape of one letter, or by one or two UTF-16 units in
hexadecimal.

A strict reader asks that surrogates come in pairs. A literal that is only passed over may hold
any unit.
-/

namespace CommandTape.Json

/-- Where in a literal the next character stands. -/
inductive LiteralSpot
  | plain
  /-- After a backslash. -/
  | escape
  /-- Among the four bytes of a unit's number: how many are behind, and their value unless one
      of them was no digit. -/
  | unit (bytes : Nat) (value : Option Nat)
  deriving DecidableEq, Repr

/-- The part of a literal that has been read. -/
structure Literal where
  /-- The characters, the last of them first. -/
  taken : List Char := []
  /-- A leading surrogate whose trailing one is due. -/
  lead : Option Nat := none
  spot : LiteralSpot := .plain
  deriving DecidableEq, Repr

inductive LiteralNext
  | more (literal : Literal)
  | over (text : List Char)
  | broken
  deriving DecidableEq, Repr

/-- The character that an escape of one letter stands for. -/
def escaped? : Char → Option Char
  | '"' => some '"'
  | '\\' => some '\\'
  | '/' => some '/'
  | 'b' => some '\x08'
  | 'f' => some '\x0c'
  | 'n' => some '\n'
  | 'r' => some '\r'
  | 't' => some '\t'
  | _ => none

def isLead (unit : Nat) : Bool := 0xd800 ≤ unit && unit ≤ 0xdbff
def isTrail (unit : Nat) : Bool := 0xdc00 ≤ unit && unit ≤ 0xdfff

/-- The code point of a surrogate pair. -/
def paired (lead trail : Nat) : Nat := 0x10000 + (lead - 0xd800) * 0x400 + (trail - 0xdc00)

namespace Literal

/-- The literal with one more character, and nothing pending. -/
def push (t : Literal) (c : Char) : Literal := ⟨c :: t.taken, none, .plain⟩

/-- Takes in a unit that is written by its number. -/
def nextUnit (strict : Bool) (t : Literal) (unit : Nat) : LiteralNext :=
  if !strict then .more ⟨t.taken, none, .plain⟩
  else match t.lead with
    | some lead =>
      if isTrail unit then .more (t.push (Char.ofNat (paired lead unit))) else .broken
    | none =>
      if isTrail unit then .broken
      else if isLead unit then .more ⟨t.taken, some unit, .plain⟩
      else .more (t.push (Char.ofNat unit))

/-- Takes in a character. The number of a unit is looked at once four bytes are there, so that a
    text that ends within them counts as one that ends too early. -/
def next (strict : Bool) (t : Literal) (c : Char) : LiteralNext :=
  match t.spot with
  | .plain =>
    if c = '\\' then .more { t with spot := .escape }
    else if t.lead.isSome then .broken
    else if c = '"' then .over t.taken.reverse
    else if c < ' ' then .broken
    else .more (t.push c)
  | .escape =>
    if c = 'u' then .more { t with spot := .unit 0 (some 0) }
    else if t.lead.isSome then .broken
    else match escaped? c with
      | some c => .more (t.push c)
      | none => .broken
  | .unit bytes value =>
    let bytes := bytes + c.utf8Size
    let value := value.bind fun v => (Numeral.digit? 16 c).map (v * 16 + ·)
    if bytes < 4 then .more { t with spot := .unit bytes value }
    else match value with
      | some unit => t.nextUnit strict unit
      | none => .broken

end Literal

end CommandTape.Json
