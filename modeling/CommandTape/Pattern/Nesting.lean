/-!
# How deep an expression is nested

Characters and places have no depth. A group, a set, a repetition or an operation on sets is one
level deeper than the deepest part of it. So is a row of several items, whereas a row of a single
item is that item.
-/

namespace CommandTape.Pattern

/-- Items one after the other: of a sequence, of a choice or of a set. -/
structure Row where
  count : Nat := 0
  /-- The depth of the deepest item. -/
  deepest : Nat := 0
  /-- The depth of the last item, if there is one that can be repeated. -/
  last : Option Nat := none
  deriving DecidableEq, Repr

namespace Row

/-- The row with one more item. -/
def add (row : Row) (depth : Nat) : Row :=
  ⟨row.count + 1, max row.deepest depth, some depth⟩

/-- The row with one more item that cannot be repeated and has no depth. -/
def addFixed (row : Row) : Row := ⟨row.count + 1, row.deepest, none⟩

/-- The row with its last item repeated. -/
def repeatLast? (row : Row) : Option Row :=
  row.last.map fun depth => ⟨row.count, max row.deepest (depth + 1), some (depth + 1)⟩

def depth (row : Row) : Nat := if row.count ≤ 1 then row.deepest else row.deepest + 1

end Row

/-- The depth that an expression may have. -/
def depthLimit : Nat := 250

end CommandTape.Pattern
