import CommandTape.Numeral

/-!
# Dates and times in TOML

A moment is a date, a time, or both with or without an offset from universal time. Only whether a
word is one is asked: every part must lie in its range, the day in its month.
-/

namespace CommandTape.Toml.Moment

/-- Takes a number of exactly two digits off the front. -/
def two? : List Char → Option (Nat × List Char)
  | a :: b :: rest => do
    some ((← Numeral.digit? 10 a) * 10 + (← Numeral.digit? 10 b), rest)
  | _ => none

/-- Takes a character off the front. -/
def skip? (c : Char) : List Char → Option (List Char)
  | d :: rest => if c = d then some rest else none
  | [] => none

def isLeap (year : Nat) : Bool := year % 4 == 0 && (year % 100 != 0 || year % 400 == 0)

/-- How many days a month has. -/
def days (year month : Nat) : Nat :=
  if month = 2 then if isLeap year then 29 else 28
  else if month = 4 ∨ month = 6 ∨ month = 9 ∨ month = 11 then 30
  else 31

/-- Takes a date off the front: `1979-05-27`. -/
def date? (word : List Char) : Option (List Char) := do
  let (century, rest) ← two? word
  let (year, rest) ← two? rest
  let (month, rest) ← two? (← skip? '-' rest)
  let (day, rest) ← two? (← skip? '-' rest)
  if 1 ≤ month ∧ month ≤ 12 ∧ 1 ≤ day ∧ day ≤ days (century * 100 + year) month then some rest
  else none

/-- Takes an hour and a minute off the front. -/
def hourMinute? (word : List Char) : Option (List Char) := do
  let (hour, rest) ← two? word
  let (minute, rest) ← two? (← skip? ':' rest)
  if hour ≤ 23 ∧ minute ≤ 59 then some rest else none

def isDigit (c : Char) : Bool := (Numeral.digit? 10 c).isSome

/-- Takes a time off the front: `07:32:00.5`. A minute may have a leap second. -/
def time? (word : List Char) : Option (List Char) := do
  let (second, rest) ← two? (← skip? ':' (← hourMinute? word))
  if second ≤ 60 then
    match rest with
    | '.' :: d :: rest => if isDigit d then some (rest.dropWhile isDigit) else none
    | rest => some rest
  else none

/-- An offset, or none at all. -/
def isOffset : List Char → Bool
  | [] | ['Z'] | ['z'] => true
  | '+' :: rest | '-' :: rest => hourMinute? rest == some []
  | _ => false

def isDate (word : List Char) : Bool := date? word == some []

/-- Whether a word is a moment. A blank may stand between date and time. -/
def isMoment (word : List Char) : Bool :=
  match date? word with
  | some [] => true
  | some (delimiter :: rest) =>
    (delimiter = 'T' || delimiter = 't' || delimiter = ' ') && (time? rest).any isOffset
  | none => time? word == some []

end CommandTape.Toml.Moment
