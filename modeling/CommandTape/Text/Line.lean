/-!
# Lines, words and fields

A text is cut into lines at line feeds, with or without a carriage return before them, and a line
into words at ASCII blanks. Other white space of Unicode belongs to the words. Between fields
stands one separator each, so fields may be empty.
-/

namespace CommandTape.Text

/-- The lines of a text without their ends. A text that ends with a line end has no line after
    it, and a carriage return that no line feed follows stays in its line. -/
def lines : List Char → List (List Char)
  | [] => []
  | '\n' :: cs => [] :: lines cs
  | '\r' :: '\n' :: cs => [] :: lines cs
  | c :: cs =>
    match lines cs with
    | [] => [[c]]
    | line :: rest => (c :: line) :: rest

/-- ASCII white space: space, tab, line feed, form feed and carriage return. -/
def isBlank (c : Char) : Bool :=
  c = ' ' || c = '\t' || c = '\n' || c = '\x0c' || c = '\r'

/-- The words of a line whose first characters, the last of them first, have been taken off. -/
def wordsAfter : List Char → List Char → List (List Char)
  | taken, [] => if taken.isEmpty then [] else [taken.reverse]
  | taken, c :: cs =>
    if isBlank c then
      if taken.isEmpty then wordsAfter [] cs else taken.reverse :: wordsAfter [] cs
    else wordsAfter (c :: taken) cs

/-- The maximal runs of characters that are not blank. -/
def words : List Char → List (List Char) := wordsAfter []

/-- The parts of a text between separators; there is one more of them than separators. -/
def fields (separator : Char) : List Char → List (List Char)
  | [] => [[]]
  | c :: cs =>
    if c = separator then [] :: fields separator cs
    else match fields separator cs with
      | [] => [[c]]
      | field :: rest => (c :: field) :: rest

end CommandTape.Text
