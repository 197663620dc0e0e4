/-!
# Numerals

Reading and writing of natural numbers in a radix.

Reading goes left to right under a bound and stops at the first character that is no digit or
that takes the value to the bound; the two reasons are told apart, and at one character the
missing digit is seen first. An optional `+` may stand before the digits.
-/

namespace CommandTape.Numeral

/-- Why a word is no numeral below the bound. -/
inductive Reason
  | empty
  | invalidDigit
  | tooLarge
  deriving DecidableEq, Repr

def Reason.message : Reason → String
  | .empty => "cannot parse integer from empty string"
  | .invalidDigit => "invalid digit found in string"
  | .tooLarge => "number too large to fit in target type"

/-- The value of a digit of any radix up to 36, letters in either case. -/
def letterValue? (c : Char) : Option Nat :=
  if c.isDigit then some (c.toNat - '0'.toNat)
  else if 'a' ≤ c ∧ c ≤ 'z' then some (c.toNat - 'a'.toNat + 10)
  else if 'A' ≤ c ∧ c ≤ 'Z' then some (c.toNat - 'A'.toNat + 10)
  else none

def digit? (radix : Nat) (c : Char) : Option Nat :=
  (letterValue? c).filter (· < radix)

/-- Reads digits after a value `v` already read. -/
def accumulate (radix bound : Nat) : Nat → List Char → Except Reason Nat
  | v, [] => .ok v
  | v, c :: cs =>
    match digit? radix c with
    | none => .error .invalidDigit
    | some d =>
      if v * radix + d < bound then accumulate radix bound (v * radix + d) cs
      else .error .tooLarge

/-- Reads a whole word. A sign alone is a missing digit, and so is a minus sign anywhere: only
    natural numbers are read. -/
def read (radix bound : Nat) : List Char → Except Reason Nat
  | [] => .error .empty
  | ['+'] => .error .invalidDigit
  | '+' :: cs => accumulate radix bound 0 cs
  | cs => accumulate radix bound 0 cs

/-- The decimal digits of a number, without leading zeros. -/
def decimal (n : Nat) : List Char := Nat.toDigits 10 n

/-- The decimal digits, with zeros before them up to a width. -/
def padded (width n : Nat) : List Char :=
  List.replicate (width - (decimal n).length) '0' ++ decimal n

end CommandTape.Numeral
