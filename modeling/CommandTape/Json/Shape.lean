/-!
# Shapes and values

A shape says what a reader of data asks for, and a value is what it gets. A record is a list of
named fields, and its value has one part for each of them, in their order, whatever the order in
the text.
-/

namespace CommandTape.Json

/-- Whether a field must be there. -/
inductive Presence
  | required
  /-- The field may be null, and an object may leave it out. -/
  | nullable
  /-- The field may be left out of an array as well. -/
  | optional
  deriving DecidableEq, Repr

structure Field (σ : Type) where
  name : String
  presence : Presence
  shape : σ

inductive Shape
  | text
  | flag
  /-- A natural number below `2 ^ 32`. -/
  | word
  | words
  | record (fields : List (Field Shape))

inductive Value
  | null
  | text (s : String)
  | flag (b : Bool)
  | word (n : UInt32)
  | words (cells : List UInt32)
  | record (parts : List (Option Value))

/-- Why a text gives no value of a shape. -/
inductive Trouble
  /-- The text ends too early. -/
  | ended
  /-- The text is not JSON at some point. -/
  | grammar
  /-- A value has another shape, a field is there twice, or a field is missing. -/
  | content
  deriving DecidableEq, Repr

/-- What is asked of the next value: a shape, or nothing at all. -/
inductive Want
  | shape (shape : Shape) (nullable : Bool)
  | anything

/-- What is asked of the value of a field. -/
def Field.want (field : Field Shape) : Want := .shape field.shape (field.presence ≠ .required)

/-- Whether an object may end without the field. -/
def Field.mayBeAbsent (field : Field Shape) : Bool := field.presence ≠ .required

/-- Whether an array may end before the field. -/
def Field.mayBeCut (field : Field Shape) : Bool := field.presence == .optional

end CommandTape.Json
