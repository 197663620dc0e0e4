import CommandTape.Binary64
import CommandTape.Numeral

/-!
# Numbers in JSON

A number is read one character at a time, by the grammar: an optional minus sign, a whole part
without leading zeros, an optional fraction, an optional exponent. Its end shows only at the
character after it.

What is asked of a number is whether it is a natural number and whether a binary64 number can
hold it.
-/

namespace CommandTape.Json

/-- What has been read of a number last. -/
inductive NumberPart
  | sign
  | zero
  | whole
  | point
  | fraction
  | mark
  | markSign
  | exponent
  deriving DecidableEq, Repr

/-- The part of a number that has been read. -/
structure NumberText where
  part : NumberPart
  negative : Bool := false
  /-- The digits of the whole part and the fraction, as one number. -/
  digits : Nat := 0
  /-- How many of the digits are fraction. -/
  places : Nat := 0
  exponentNegative : Bool := false
  exponent : Nat := 0
  deriving DecidableEq, Repr

/-- What a number means to a reader of data. -/
inductive Number
  | natural (n : Nat)
  | other
  | outOfRange
  deriving DecidableEq, Repr

/-- What a character is to a number that is being read. -/
inductive NumberNext
  | more (text : NumberText)
  | over
  | broken
  deriving DecidableEq, Repr

namespace NumberText

/-- A number that begins with this character. -/
def start? (c : Char) : Option NumberText :=
  if c = '-' then some ⟨.sign, true, 0, 0, false, 0⟩
  else (Numeral.digit? 10 c).map fun d =>
    ⟨if d = 0 then .zero else .whole, false, d, 0, false, 0⟩

/-- Whether the number may end here. -/
def isComplete (t : NumberText) : Bool :=
  t.part == .zero || t.part == .whole || t.part == .fraction || t.part == .exponent

def nextDigit (t : NumberText) (d : Nat) : NumberNext :=
  match t.part with
  | .sign => .more { t with part := if d = 0 then .zero else .whole, digits := d }
  | .zero => .broken
  | .whole => .more { t with digits := t.digits * 10 + d }
  | .point | .fraction =>
    .more { t with part := .fraction, digits := t.digits * 10 + d, places := t.places + 1 }
  | .mark | .markSign | .exponent =>
    .more { t with part := .exponent, exponent := t.exponent * 10 + d }

def next (t : NumberText) (c : Char) : NumberNext :=
  match Numeral.digit? 10 c with
  | some d => t.nextDigit d
  | none =>
    if c = '.' ∧ (t.part = .zero ∨ t.part = .whole) then .more { t with part := .point }
    else if (c = 'e' ∨ c = 'E') ∧ (t.part = .zero ∨ t.part = .whole ∨ t.part = .fraction) then
      .more { t with part := .mark }
    else if (c = '+' ∨ c = '-') ∧ t.part = .mark then
      .more { t with part := .markSign, exponentNegative := c = '-' }
    else if t.isComplete then .over
    else .broken

/-- The leading digits that a 64-bit word holds, and how many are left out. -/
def leading (digits left : Nat) : Nat × Nat :=
  if h : digits < UInt64.size then (digits, left) else leading (digits / 10) (left + 1)
termination_by digits
decreasing_by
  have hpos : 0 < digits := Nat.lt_of_lt_of_le (by decide) (Nat.not_lt.mp h)
  exact Nat.div_lt_self hpos (by decide)

/-- Whether a number is infinite as binary64: its leading digits and its power of ten are rounded
    first and their product after that. -/
def isOutOfRange (digits : Nat) (scale : Int) : Bool :=
  let (significand, left) := leading digits 0
  let scale := scale + left
  significand ≠ 0 && 0 ≤ scale &&
    (308 < scale ||
      Binary64.infinite ≤ Binary64.round significand * Binary64.round (Nat.pow 10 scale.toNat))

/-- What a complete number means. Minus zero is no natural number. -/
def value (t : NumberText) : Number :=
  let exponent : Int := if t.exponentNegative then -t.exponent else t.exponent
  if isOutOfRange t.digits (exponent - t.places) then .outOfRange
  else if !t.negative && (t.part == .zero || t.part == .whole) then .natural t.digits
  else .other

end NumberText

end CommandTape.Json
