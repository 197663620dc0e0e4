import CommandTape.Text.CodePoint

/-!
# White space at the ends of a text

White space is that of any script (the property White_Space of Unicode 17).
-/

namespace CommandTape.Text

def spaces : CodeRanges := [
  (0x9, 0xd), (0x20, 0x20), (0x85, 0x85), (0xa0, 0xa0), (0x1680, 0x1680), (0x2000, 0x200a),
  (0x2028, 0x2029), (0x202f, 0x202f), (0x205f, 0x205f), (0x3000, 0x3000)]

def isSpace (c : Char) : Bool := spaces.covers c.toNat

/-- The text from its first to its last character that is no white space. -/
def trimmed (text : List Char) : List Char :=
  ((text.dropWhile isSpace).reverse.dropWhile isSpace).reverse

end CommandTape.Text
