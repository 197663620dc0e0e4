import CommandTape.Json.Frame
import CommandTape.Json.Text

/-!
# Reading JSON against a shape

A reading takes a text in one character at a time, and the first trouble ends it. What is due
next and the containers that are open are its whole state, so reading a text is a fold: trouble in
the beginning of a text is the trouble of the whole text.

A record may be written as an object or as the array of its fields. Members of an object that no
field names are passed over: their values are held to the grammar of JSON and to nothing else.
-/

namespace CommandTape.Json

inductive Reading
  | between (due : Due) (frames : List Frame)
  | inKey (literal : Literal) (frames : List Frame)
  | inText (literal : Literal) (want : Want) (frames : List Frame)
  | inNumber (number : NumberText) (want : Want) (frames : List Frame)
  /-- Within `null`, `true` or `false`, with the letters that are still due. -/
  | inWord (letters : List Char) (scalar : Scalar) (want : Want) (frames : List Frame)
  | finished (value : Value)

/-- White space between tokens. -/
def isSpace (c : Char) : Bool := c = ' ' || c = '\t' || c = '\n' || c = '\r'

namespace Reading

/-- A reading that has met nothing yet. -/
def start (shape : Shape) : Reading := between (.value (.shape shape false)) []

/-- Hands a complete value to the innermost open container. -/
def give (value : Value) : List Frame → Reading
  | [] => finished value
  | frame :: outer =>
    let (frame, due) := frame.put value
    between due (frame :: outer)

def giveScalar (want : Want) (scalar : Scalar) (frames : List Frame) : Except Trouble Reading :=
  (want.take scalar).map (give · frames)

/-- Opens an object or an array where a value is due. -/
def openObject (frames : List Frame) : Want → Except Trouble Reading
  | .anything => .ok (between .firstKey (.object :: frames))
  | .shape (.record fields) _ =>
    .ok (between .firstKey (.keyed fields (fields.map fun _ => none) none :: frames))
  | .shape .. => .error .content

def openArray (frames : List Frame) : Want → Except Trouble Reading
  | .anything => .ok (between (.firstValue .anything) (.array :: frames))
  | .shape .words _ => .ok (between (.firstValue (.shape .word false)) (.words [] :: frames))
  | .shape (.record fields) _ =>
    .ok (between (match fields with | [] => .closing | f :: _ => .firstValue f.want)
      (.listed fields (fields.map fun _ => none) 0 :: frames))
  | .shape .. => .error .content

/-- The first character of a value. -/
def openValue (want : Want) (frames : List Frame) (c : Char) : Except Trouble Reading :=
  match c with
  | '"' => .ok (inText {} want frames)
  | '{' => openObject frames want
  | '[' => openArray frames want
  | 'n' => .ok (inWord ['u', 'l', 'l'] .null want frames)
  | 't' => .ok (inWord ['r', 'u', 'e'] (.flag true) want frames)
  | 'f' => .ok (inWord ['a', 'l', 's', 'e'] (.flag false) want frames)
  | c =>
    match NumberText.start? c with
    | some number => .ok (inNumber number want frames)
    | none => .error .grammar

/-- A closing bracket or brace: it must be that of the innermost container. -/
def closeWith (c : Char) : List Frame → Except Trouble Reading
  | [] => .error .grammar
  | frame :: outer =>
    if c = (if frame.isObject then '}' else ']') then frame.close.map (give · outer)
    else .error .grammar

/-- The first character of a token. -/
def openToken (due : Due) (frames : List Frame) (c : Char) : Except Trouble Reading :=
  match due with
  | .value want => openValue want frames c
  | .firstValue want => if c = ']' then closeWith c frames else openValue want frames c
  | .key => if c = '"' then .ok (inKey {} frames) else .error .grammar
  | .firstKey =>
    if c = '"' then .ok (inKey {} frames) else closeWith c frames
  | .colon want => if c = ':' then .ok (between (.value want) frames) else .error .grammar
  | .separator =>
    match c, frames with
    | ',', frame :: _ => .ok (between frame.afterComma frames)
    | c, frames => closeWith c frames
  | .closing => closeWith c frames

def nextBetween (due : Due) (frames : List Frame) (c : Char) : Except Trouble Reading :=
  if isSpace c then .ok (between due frames) else openToken due frames c

/-- Takes in a key that is complete. -/
def giveKey (key : String) : List Frame → Except Trouble Reading
  | [] => .error .grammar
  | frame :: outer => (frame.openKey key).map fun (frame, due) => between due (frame :: outer)

/-- Takes in a character that stands right after a complete token or between two tokens. -/
def nextToken : Reading → Char → Except Trouble Reading
  | between due frames, c => nextBetween due frames c
  | finished value, c => if isSpace c then .ok (finished value) else .error .grammar
  | _, _ => .error .grammar

/-- Takes in a character. -/
def next (reading : Reading) (c : Char) : Except Trouble Reading :=
  match reading with
  | inKey literal frames =>
    match literal.next ((frames.head?.map Frame.isStrict).getD true) c with
    | .more literal => .ok (inKey literal frames)
    | .over text => giveKey (String.ofList text) frames
    | .broken => .error .grammar
  | inText literal want frames =>
    match literal.next want.isStrict c with
    | .more literal => .ok (inText literal want frames)
    | .over text => giveScalar want (.text (String.ofList text)) frames
    | .broken => .error .grammar
  | inNumber number want frames =>
    match number.next c with
    | .more number => .ok (inNumber number want frames)
    | .over => (giveScalar want (.number number.value) frames).bind (nextToken · c)
    | .broken => .error .grammar
  | inWord letters scalar want frames =>
    match letters with
    | [letter] => if c = letter then giveScalar want scalar frames else .error .grammar
    | letter :: rest => if c = letter then .ok (inWord rest scalar want frames) else .error .grammar
    | [] => .error .grammar
  | reading => reading.nextToken c

/-- The end of the text. Only here does a number at the end of the text become complete; one that
    breaks off has ended too early, or is no number where it was to be passed over. -/
def finish : Reading → Except Trouble Value
  | finished value => .ok value
  | inNumber number want frames =>
    if number.isComplete then
      match giveScalar want (.number number.value) frames with
      | .ok (finished value) => .ok value
      | .ok _ => .error .ended
      | .error trouble => .error trouble
    else if want.isStrict then .error .ended else .error .grammar
  | between .. | inKey .. | inText .. | inWord .. => .error .ended

end Reading

/-- Reads a text of a value of a shape, with white space around it. -/
def read (shape : Shape) (text : List Char) : Except Trouble Value :=
  (text.foldlM Reading.next (Reading.start shape)).bind Reading.finish

end CommandTape.Json
