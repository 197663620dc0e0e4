import CommandTape.Fault

/-!
# Tapes

An input tape is a fixed list of cells that is read by address. The result tape is written from
left to right and has a nominal capacity; what a write beyond it does is the overflow policy's
choice.
-/

namespace CommandTape

abbrev Tape (α : Type) := List α

/-- The cell at an address, if the tape reaches it. -/
def Tape.read (tape : Tape α) (address : UInt32) : Option α := tape[address.toNat]?

/-- What happens when an answer lands beyond the result tape's capacity. -/
inductive OverflowPolicy
  | fault
  | discard
  | grow
  deriving DecidableEq, Repr

namespace OverflowPolicy

def name : OverflowPolicy → String
  | fault => "fault"
  | discard => "discard"
  | grow => "grow"

def label : OverflowPolicy → String
  | fault => "Fault"
  | discard => "Discard"
  | grow => "Grow"

def ofName? : String → Option OverflowPolicy
  | "fault" => some fault
  | "discard" => some discard
  | "grow" => some grow
  | _ => none

theorem ofName?_name (p : OverflowPolicy) : ofName? p.name = some p := by cases p <;> rfl

end OverflowPolicy

/-- The capacity of a result tape and what lies beyond it. -/
structure ResultLimit where
  capacity : UInt32
  policy : OverflowPolicy
  deriving DecidableEq, Repr

structure ResultTape where
  slots : List UInt32 := []
  /-- Answers dropped beyond the capacity. -/
  discarded : UInt32 := 0
  deriving DecidableEq, Repr

/-- Writes a value at slot `j`. Slots fill from left to right, so `j` is the next free one unless
    answers have been dropped, and then it lies beyond the capacity. -/
def ResultTape.write (limit : ResultLimit) (j value : UInt32) (tape : ResultTape) :
    Except Fault ResultTape :=
  if j < limit.capacity then .ok { tape with slots := tape.slots ++ [value] }
  else match limit.policy with
    | .fault => .error (.resultCapacity limit.capacity)
    | .discard => .ok { tape with discarded := tape.discarded + 1 }
    | .grow => .ok { tape with slots := tape.slots ++ [value] }

end CommandTape
