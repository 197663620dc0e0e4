import CommandTape.Command
import CommandTape.Pattern.Expression

/-!
# Values that directives ask for

A directive can ask for spans by the value of a field: by a number, or by a regular expression
that the value is to match. No span is ever opened, so it only matters whether a text is such a
value.
-/

namespace CommandTape.LogFilter

/-- A number without its sign: digits, perhaps with a point and an exponent. -/
def isDecimal (text : List Char) : Bool :=
  let whole := text.takeWhile Char.isDigit
  let rest := text.dropWhile Char.isDigit
  let point := rest.head? = some '.'
  let places := if point then rest.tail.takeWhile Char.isDigit else []
  let rest := if point then rest.tail.dropWhile Char.isDigit else rest
  !(whole ++ places).isEmpty && match rest with
  | [] => true
  | [e, d] => (e = 'e' || e = 'E') && d.isDigit
  | e :: sign :: digits =>
    (e = 'e' || e = 'E') && (sign = '+' || sign = '-' || sign.isDigit) && digits.all Char.isDigit
  | [_] => false

/-- Whether a text is a number, infinity or no number at all, with or without a sign. -/
def isNumber (text : List Char) : Bool :=
  let magnitude := if text.head? = some '+' || text.head? = some '-' then text.tail else text
  isDecimal magnitude || Command.lowered (String.ofList magnitude) ∈ ["inf", "infinity", "nan"]

/-- Whether a directive can ask for this value. -/
def isValue (text : List Char) : Bool := isNumber text || Pattern.isExpression text

end CommandTape.LogFilter
