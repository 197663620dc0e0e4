/-!
# Code points

A character has a code point, but not every code point is that of a character: surrogates and
numbers beyond the last plane are not. A property of characters is kept as closed ranges of code
points, apart from each other and in ascending order.
-/

namespace CommandTape.Text

abbrev CodeRanges := List (Nat × Nat)

/-- Whether some range holds the code point. -/
def CodeRanges.covers (ranges : CodeRanges) (n : Nat) : Bool :=
  ranges.any fun (low, high) => low ≤ n && n ≤ high

/-- The character with this code point. -/
def scalar? (n : Nat) : Option Char :=
  if n < 0xd800 ∨ (0xdfff < n ∧ n < 0x110000) then some (Char.ofNat n) else none

end CommandTape.Text
