import CommandTape.Numeral

/-!
# Writing JSON

Values are written over several lines: two blanks of indentation a level, a line for each item or
member, and an empty array without a line of its own. Each part is the text of a value that stands
at a level, so the parts nest without looking into each other.
-/

namespace CommandTape.Json.Layout

/-- The two hexadecimal digits of a number below 256. -/
def hex2 (n : Nat) : List Char := [Nat.digitChar (n / 16), Nat.digitChar (n % 16)]

/-- A character as a text literal holds it. Only quotes, backslashes and controls are escaped. -/
def escape (c : Char) : List Char :=
  match c with
  | '"' => ['\\', '"']
  | '\\' => ['\\', '\\']
  | '\x08' => ['\\', 'b']
  | '\x0c' => ['\\', 'f']
  | '\n' => ['\\', 'n']
  | '\r' => ['\\', 'r']
  | '\t' => ['\\', 't']
  | c => if c < ' ' then "\\u00".toList ++ hex2 c.toNat else [c]

def text (s : List Char) : List Char := '"' :: s.flatMap escape ++ ['"']

def natural (n : Nat) : List Char := Numeral.decimal n

def flag (b : Bool) : List Char := if b then "true".toList else "false".toList

def null : List Char := "null".toList

/-- A new line at a level. -/
def newLine (level : Nat) : List Char := '\n' :: List.replicate (2 * level) ' '

/-- The items of a container, each on a line of its own, with commas between. -/
def items (level : Nat) : List (List Char) → List Char
  | [] => []
  | [item] => newLine level ++ item
  | item :: rest => newLine level ++ item ++ ',' :: items level rest

/-- A container whose brackets stand at a level and its items one further. -/
def container (opening closing : Char) (level : Nat) (parts : List (List Char)) : List Char :=
  if parts.isEmpty then [opening, closing]
  else opening :: items (level + 1) parts ++ newLine level ++ [closing]

def array (level : Nat) (parts : List (List Char)) : List Char := container '[' ']' level parts

def member (key : String) (value : List Char) : List Char :=
  text key.toList ++ ": ".toList ++ value

def object (level : Nat) (members : List (List Char)) : List Char :=
  container '{' '}' level members

end CommandTape.Json.Layout
