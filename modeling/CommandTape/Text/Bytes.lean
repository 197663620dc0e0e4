/-!
# Texts measured in bytes

A text takes as many bytes as its UTF-8 form has, and can be cut where a character begins.
-/

namespace CommandTape.Text

/-- The number of bytes of a text. -/
def byteCount (text : List Char) : Nat := text.foldr (·.utf8Size + ·) 0

/-- The first bytes of a text and what follows them. There is no cut within a character, and none
    behind the end. -/
def splitBytes? : Nat → List Char → Option (List Char × List Char)
  | 0, cs => some ([], cs)
  | _ + 1, [] => none
  | n + 1, c :: cs =>
    if c.utf8Size ≤ n + 1 then
      (splitBytes? (n + 1 - c.utf8Size) cs).map fun (taken, rest) => (c :: taken, rest)
    else none

/-- The bytes of a text from one position up to another. -/
def slice? (start stop : Nat) (text : List Char) : Option (List Char) := do
  let (before, _) ← splitBytes? stop text
  let (_, part) ← splitBytes? start before
  return part

end CommandTape.Text
