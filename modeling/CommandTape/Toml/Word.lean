import CommandTape.Binary64
import CommandTape.Toml.Moment

/-!
# Bare words in TOML

A value that is neither quoted nor bracketed is a word: a truth value, an integer, a float or a
moment. Underscores may stand between digits, integers must fit 64 bits with their sign, and a
float may not be so large that it would be infinite without saying so.
-/

namespace CommandTape.Toml

/-- What a word stands for; of floats and moments nothing further is asked. -/
inductive Word
  | flag (b : Bool)
  | integer (n : Int)
  | float
  | moment
  deriving DecidableEq, Repr

namespace Word

/-- The characters of words. -/
def isChar (c : Char) : Bool :=
  c.isAlphanum || c = '+' || c = '-' || c = '_' || c = '.' || c = ':'

/-- The digits of a word in which each underscore stands between two digits. -/
def digits? (radix : Nat) : List Char → Option (List Nat)
  | [] => none
  | [c] => (Numeral.digit? radix c).map ([·])
  | c :: '_' :: rest => do some ((← Numeral.digit? radix c) :: (← digits? radix rest))
  | c :: rest => do some ((← Numeral.digit? radix c) :: (← digits? radix rest))

def ofDigits (radix : Nat) (digits : List Nat) : Nat := digits.foldl (· * radix + ·) 0

/-- Decimal digits without leading zeros. -/
def whole? (word : List Char) : Option (List Nat) :=
  match digits? 10 word with
  | some (0 :: _ :: _) => none
  | digits => digits

/-- A word without its sign, and whether that was a minus. -/
def unsigned : List Char → Bool × List Char
  | '-' :: rest => (true, rest)
  | '+' :: rest => (false, rest)
  | word => (false, word)

/-- The value of an integer, before its range is looked at. Only decimal ones may have a sign. -/
def integer? (word : List Char) : Option Int :=
  match word with
  | '0' :: 'x' :: rest => (digits? 16 rest).map fun ds => (ofDigits 16 ds : Int)
  | '0' :: 'o' :: rest => (digits? 8 rest).map fun ds => (ofDigits 8 ds : Int)
  | '0' :: 'b' :: rest => (digits? 2 rest).map fun ds => (ofDigits 2 ds : Int)
  | word =>
    let (negative, word) := unsigned word
    (whole? word).map fun ds => if negative then -(ofDigits 10 ds : Int) else ofDigits 10 ds

def fits64 (n : Int) : Bool := Int64.minValue.toInt ≤ n && n ≤ Int64.maxValue.toInt

/-- A list up to the first element that a test holds of, and what is after that element. -/
def cut (test : Char → Bool) (word : List Char) : List Char × Option (List Char) :=
  match word.dropWhile (!test ·) with
  | [] => (word, none)
  | _ :: after => (word.takeWhile (!test ·), some after)

/-- The value of the exponent; it may have leading zeros. -/
def exponent? (word : List Char) : Option Int :=
  let (negative, word) := unsigned word
  (digits? 10 word).map fun ds => if negative then -(ofDigits 10 ds : Int) else ofDigits 10 ds

/-- Whether a word is a float: a whole part and a fraction, an exponent, or both. -/
def isFloat (word : List Char) : Bool :=
  let (negative, word) := unsigned word
  if word = "inf".toList ∨ word = "nan".toList then true
  else
    let (mantissa, exponent) := cut (fun c => c = 'e' || c = 'E') word
    let (whole, fraction) := cut (· = '.') mantissa
    match whole? whole, fraction.map (digits? 10), exponent.map exponent? with
    | some whole, some (some fraction), none =>
      negative || !Binary64.exceeds (ofDigits 10 (whole ++ fraction)) (-fraction.length)
    | some whole, none, some (some scale) =>
      negative || !Binary64.exceeds (ofDigits 10 whole) scale
    | some whole, some (some fraction), some (some scale) =>
      negative || !Binary64.exceeds (ofDigits 10 (whole ++ fraction)) (scale - fraction.length)
    | _, _, _ => false

/-- Reads a word. -/
def read? (word : List Char) : Option Word :=
  if word = "true".toList then some (.flag true)
  else if word = "false".toList then some (.flag false)
  else match integer? word with
    | some n => if fits64 n then some (.integer n) else none
    | none =>
      if Moment.isMoment word then some .moment
      else if isFloat word then some .float
      else none

end Word

end CommandTape.Toml
