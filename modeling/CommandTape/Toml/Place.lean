import CommandTape.Toml.Literal
import CommandTape.Toml.Table

/-!
# Places in a TOML text

Where the next character of a text stands: in a key, in a value, in a comment or between them,
with all that is open there. Keys and values may nest only so deep.
-/

namespace CommandTape.Toml

/-- A container that is open within a value. -/
inductive Frame
  /-- The items so far, the last of them first. -/
  | array (items : List Node)
  /-- The assignments so far, the last of them first, and the key whose value is being read. -/
  | inline (assignments : List Assignment) (path : List String)

/-- What a value is for: the key at the start of its line, and the containers within. -/
structure Target where
  path : List String
  frames : List Frame

/-- What a key is for. -/
inductive KeyUse
  | line
  | header
  | element
  /-- A key of the table in braces with these assignments so far. -/
  | inline (assignments : List Assignment) (target : Target)

/-- The place of the next character. -/
inductive Place
  | lineStart
  /-- After an opening bracket at the start of a line. -/
  | bracket
  /-- Before a part of a key, after the parts of the path. -/
  | keyStart (use : KeyUse) (path : List String)
  | bareKey (use : KeyUse) (path : List String) (taken : List Char)
  | quotedKey (use : KeyUse) (path : List String) (literal : Literal)
  /-- After a part of a key. -/
  | keyEnd (use : KeyUse) (path : List String)
  /-- Between the closing brackets of the header of an element. -/
  | elementEnd
  | valueStart (target : Target)
  | literal (literal : Literal) (target : Target)
  | word (taken : List Char) (target : Target)
  /-- After a date and a blank, where a time may follow. -/
  | dateEnd (taken : List Char) (target : Target)
  /-- After a value within a container. -/
  | valueEnd (target : Target)
  /-- After an opening brace. -/
  | inlineStart (target : Target)
  | lineEnd
  /-- In a comment; the place is that after its line. -/
  | comment (after : Place)
  /-- After a carriage return, whose line feed is due. -/
  | return (after : Place)

/-- How many parts a key may have, and how many containers may be open in one value. -/
def depthLimit : Nat := 79

def isBareKey (c : Char) : Bool := c.isAlphanum || c = '-' || c = '_'

/-- The place after a line end or at the start of a comment, if the character is such a thing. -/
def lineBreak? (after : Place) (c : Char) : Option Place :=
  if c = '#' then some (.comment after)
  else if c = '\n' then some after
  else if c = '\r' then some (.return after)
  else none

namespace Target

/-- The target with other containers open. -/
def within (target : Target) (frames : List Frame) : Target := { target with frames }

/-- Whether line ends and comments may stand around the value. -/
def allowsBreaks (target : Target) : Bool :=
  match target.frames with
  | .array _ :: _ => true
  | _ => false

/-- The target of an item within one more container. -/
def enter? (frame : Frame) (target : Target) : Option Target :=
  if target.frames.length < depthLimit then some (target.within (frame :: target.frames)) else none

end Target

end CommandTape.Toml
