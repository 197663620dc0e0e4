import CommandTape.Text.Unshown

/-!
# Quoted words

How a message shows a word that may hold anything: between double quotes, with a backslash before
quotes and backslashes, and with a character that has no glyph of its own written by its number.
-/

namespace CommandTape.Text

/-- A character as quoted text shows it. -/
def shownChar (c : Char) : List Char :=
  if c = '"' then ['\\', '"']
  else if c = '\\' then ['\\', '\\']
  else if c = '\x00' then ['\\', '0']
  else if c = '\t' then ['\\', 't']
  else if c = '\n' then ['\\', 'n']
  else if c = '\r' then ['\\', 'r']
  else if Unshown.isUnshown c then
    "\\u\x7b".toList ++ Nat.toDigits 16 c.toNat ++ ['\x7d']
  else [c]

def quoted (word : List Char) : String :=
  String.ofList ('"' :: word.flatMap shownChar ++ ['"'])

end CommandTape.Text
