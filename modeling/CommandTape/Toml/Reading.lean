import CommandTape.Toml.Place

/-!
# Reading TOML

A reading takes a text in one character at a time. Its state is the place of the next character
with the keys, texts and containers that are open there, so reading a text is a fold. Arrays may
run over several lines; everything else ends with its line.
-/

namespace CommandTape.Toml

/-- A reading: the sections so far, the last of them first, and the place. -/
structure Reading where
  sections : List Section
  place : Place

namespace Reading

/-- A reading that has met nothing yet. -/
def start : Reading := ⟨[⟨.root, []⟩], .lineStart⟩

def moveTo (reading : Reading) (place : Place) : Reading := { reading with place }

/-- The reading with a further assignment in its last section. -/
def assign (reading : Reading) (assignment : Assignment) : Reading :=
  match reading.sections with
  | [] => reading
  | ⟨header, assignments⟩ :: before =>
    { reading with sections := ⟨header, assignment :: assignments⟩ :: before }

/-- Hands over a complete value. -/
def give (reading : Reading) (value : Node) (target : Target) : Reading :=
  match target.frames with
  | [] => (reading.assign ⟨target.path, value⟩).moveTo .lineEnd
  | .array items :: outer =>
    reading.moveTo (.valueEnd (target.within (.array (value :: items) :: outer)))
  | .inline assignments path :: outer =>
    let frame : Frame := .inline (⟨path, value⟩ :: assignments) []
    reading.moveTo (.valueEnd (target.within (frame :: outer)))

/-- Closes the innermost container with a bracket or a brace. -/
def close (reading : Reading) (target : Target) (c : Char) : Option Reading :=
  match target.frames with
  | .array items :: outer =>
    if c = ']' then some (reading.give (.array items.reverse) (target.within outer)) else none
  | .inline assignments _ :: outer =>
    if c = '}' then
      (Node.ofAssignments? assignments).map (reading.give · (target.within outer))
    else none
  | [] => none

/-- Takes in the first character of a part of a key. -/
def openKey (reading : Reading) (use : KeyUse) (path : List String) (c : Char) : Option Reading :=
  if isBlank c then some (reading.moveTo (.keyStart use path))
  else if isBareKey c then some (reading.moveTo (.bareKey use path [c]))
  else (Quote.ofMark? c).map fun quote =>
    reading.moveTo (.quotedKey use path (Literal.start quote false))

/-- Takes in what follows a part of a key: a dot, or the end of the key. -/
def endKey (reading : Reading) (use : KeyUse) (path : List String) (c : Char) : Option Reading :=
  if isBlank c then some (reading.moveTo (.keyEnd use path))
  else if c = '.' then some (reading.moveTo (.keyStart use path))
  else if depthLimit < path.length then none
  else match use with
    | .line => if c = '=' then some (reading.moveTo (.valueStart ⟨path, []⟩)) else none
    | .inline assignments target =>
      if c = '=' then
        let frames := .inline assignments path :: target.frames
        some (reading.moveTo (.valueStart (target.within frames)))
      else none
    | .header =>
      if c = ']' then some ⟨⟨.table path, []⟩ :: reading.sections, .lineEnd⟩ else none
    | .element =>
      if c = ']' then some ⟨⟨.element path, []⟩ :: reading.sections, .elementEnd⟩ else none

/-- Takes in the first character of a value. -/
def openValue (reading : Reading) (target : Target) (c : Char) : Option Reading :=
  if c = '[' then
    (target.enter? (.array [])).map fun target => reading.moveTo (.valueStart target)
  else if c = '{' then
    (target.enter? (.inline [] [])).map fun target => reading.moveTo (.inlineStart target)
  else if Word.isChar c then some (reading.moveTo (.word [c] target))
  else (Quote.ofMark? c).map fun quote =>
    reading.moveTo (.literal (Literal.start quote true) target)

/-- Takes in a character before a value. An array may end there. -/
def beforeValue (reading : Reading) (target : Target) (c : Char) : Option Reading :=
  if isBlank c then some (reading.moveTo (.valueStart target))
  else if target.allowsBreaks then
    match lineBreak? (.valueStart target) c with
    | some place => some (reading.moveTo place)
    | none => if c = ']' then reading.close target c else reading.openValue target c
  else reading.openValue target c

/-- Takes in a character after a value within a container. -/
def afterItem (reading : Reading) (target : Target) (c : Char) : Option Reading :=
  if isBlank c then some (reading.moveTo (.valueEnd target))
  else
    let ended : Option Reading :=
      if c = ',' then
        match target.frames with
        | .array _ :: _ => some (reading.moveTo (.valueStart target))
        | .inline assignments _ :: outer =>
          some (reading.moveTo (.keyStart (.inline assignments (target.within outer)) []))
        | [] => none
      else reading.close target c
    if target.allowsBreaks then
      match lineBreak? (.valueEnd target) c with
      | some place => some (reading.moveTo place)
      | none => ended
    else ended

/-- Takes in a character where a line must end. -/
def endLine (reading : Reading) (c : Char) : Option Reading :=
  if isBlank c then some (reading.moveTo .lineEnd) else (lineBreak? .lineStart c).map reading.moveTo

/-- Takes in a character after a value whose end shows only there. -/
def afterValue (reading : Reading) (c : Char) : Option Reading :=
  match reading.place with
  | .valueEnd target => reading.afterItem target c
  | _ => reading.endLine c

/-- Takes in a character after a word. -/
def endWord (reading : Reading) (taken : List Char) (target : Target) (c : Char) :
    Option Reading := do
  (reading.give (.word (← Word.read? taken.reverse)) target).afterValue c

/-- Takes in a character, or refuses the text. -/
def next (reading : Reading) (c : Char) : Option Reading :=
  match reading.place with
  | .lineStart =>
    if isBlank c then some reading
    else if c = '[' then some (reading.moveTo .bracket)
    else match lineBreak? .lineStart c with
      | some place => some (reading.moveTo place)
      | none => reading.openKey .line [] c
  | .bracket =>
    if c = '[' then some (reading.moveTo (.keyStart .element [])) else reading.openKey .header [] c
  | .keyStart use path => reading.openKey use path c
  | .bareKey use path taken =>
    if isBareKey c then some (reading.moveTo (.bareKey use path (c :: taken)))
    else reading.endKey use (path ++ [String.ofList taken.reverse]) c
  | .quotedKey use path literal =>
    match literal.next c with
    | .more literal => some (reading.moveTo (.quotedKey use path literal))
    | .over text => some (reading.moveTo (.keyEnd use (path ++ [String.ofList text])))
    | .overBefore text => reading.endKey use (path ++ [String.ofList text]) c
    | .broken => none
  | .keyEnd use path => reading.endKey use path c
  | .elementEnd => if c = ']' then some (reading.moveTo .lineEnd) else none
  | .valueStart target => reading.beforeValue target c
  | .literal literal target =>
    match literal.next c with
    | .more literal => some (reading.moveTo (.literal literal target))
    | .over text => some (reading.give (.text (String.ofList text)) target)
    | .overBefore text => (reading.give (.text (String.ofList text)) target).afterValue c
    | .broken => none
  | .word taken target =>
    if Word.isChar c then some (reading.moveTo (.word (c :: taken) target))
    else if c = ' ' ∧ Moment.isDate taken.reverse then some (reading.moveTo (.dateEnd taken target))
    else reading.endWord taken target c
  | .dateEnd taken target =>
    if c.isDigit then some (reading.moveTo (.word (c :: ' ' :: taken) target))
    else do (← reading.endWord taken target ' ').afterValue c
  | .valueEnd target => reading.afterItem target c
  | .inlineStart target =>
    if isBlank c then some reading
    else if c = '}' then reading.close target c
    else match target.frames with
      | .inline assignments _ :: outer =>
        reading.openKey (.inline assignments (target.within outer)) [] c
      | _ => none
  | .lineEnd => reading.endLine c
  | .comment after =>
    if c = '\n' then some (reading.moveTo after)
    else if c = '\r' then some (reading.moveTo (.return after))
    else if isPrintable c then some reading
    else none
  | .return after => if c = '\n' then some (reading.moveTo after) else none

/-- The end of the text, which ends the last line as a line feed does, unless half a line end
    stands there. -/
def finish (reading : Reading) : Option (List Section) :=
  match reading.place with
  | .return _ => none
  | _ =>
    match reading.next '\n' with
    | some ⟨sections, .lineStart⟩ => some sections.reverse
    | _ => none

end Reading

/-- A text without the byte order mark that may stand before it. -/
def withoutMark : List Char → List Char
  | '\ufeff' :: text => text
  | text => text

/-- The sections of a text. -/
def readSections? (text : List Char) : Option (List Section) :=
  ((withoutMark text).foldlM Reading.next Reading.start).bind Reading.finish

/-- Reads the table of a text. -/
def read? (text : List Char) : Option Entries := (readSections? text).bind Entries.ofSections?

end CommandTape.Toml
