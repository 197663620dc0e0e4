import CommandTape.Command
import CommandTape.Fault

/-!
# Engines

An engine is what a tape of commands drives: a state, a reply to each command, and a size. Any
reply to any command is allowed, so a law that holds for every engine holds for one that ignores
its commands. The two engines of the library are bounded sequences that are read at the front;
they differ only in the end at which a push inserts.
-/

namespace CommandTape

/-- An answer to a pop or peek, a bare acknowledgement, or a fault. -/
abbrev Reply := Except EngineFault (Option UInt32)

structure Engine (σ : Type) where
  apply : Command → UInt32 → σ → Reply × σ
  size : σ → Nat

namespace Engine

/-- A sequence of at most `capacity` elements. The operand is read by a push only, and a command
    that faults leaves the sequence as it was.

    Room is made for elements as they come. Where room for all of them is reserved beforehand, at
    four bytes each, a capacity of `2 ^ 61` or more panics, since no allocation is that large. A
    configuration accepts such a capacity, and the engine here runs at it. -/
def bounded (insert : UInt32 → List UInt32 → List UInt32) (capacity : Nat) :
    Engine (List UInt32) where
  apply
    | .pop, _, [] => (.error .underflow, [])
    | .pop, _, x :: xs => (.ok (some x), xs)
    | .peek, _, [] => (.error .underflow, [])
    | .peek, _, x :: xs => (.ok (some x), x :: xs)
    | .push, v, xs =>
      if xs.length < capacity then (.ok none, insert v xs)
      else (.error (.overflow capacity), xs)
  size := List.length

/-- First in, first out: a push goes to the back. -/
def fifo : Nat → Engine (List UInt32) := bounded fun v xs => xs ++ [v]

/-- Last in, first out: a push goes to the front. -/
def lifo : Nat → Engine (List UInt32) := bounded fun v xs => v :: xs

/-- An engine that reads its replies off a list, whatever the command, and then acknowledges. -/
def scripted : Engine (List Reply) where
  apply
    | _, _, [] => (.ok none, [])
    | _, _, reply :: rest => (reply, rest)
  size := List.length

end Engine

/-- The engines that a configuration can name. -/
inductive EngineKind
  | fifo
  | lifo
  deriving DecidableEq, Repr

namespace EngineKind

def name : EngineKind → String
  | fifo => "fifo"
  | lifo => "lifo"

/-- The constructor as logs show it. -/
def label : EngineKind → String
  | fifo => "Fifo"
  | lifo => "Lifo"

/-- An engine by the name that configuration files give it. -/
def ofName? : String → Option EngineKind
  | "fifo" => some fifo
  | "lifo" => some lifo
  | _ => none

/-- An engine by its name or its common one. -/
def ofAlias? : String → Option EngineKind
  | "queue" => some fifo
  | "stack" => some lifo
  | word => ofName? word

/-- The engine of a kind. Every capacity that a configuration accepts gives one, also those of
    `2 ^ 61` and more, for which room cannot be reserved beforehand. -/
def engine : EngineKind → Nat → Engine (List UInt32)
  | fifo => Engine.fifo
  | lifo => Engine.lifo

theorem ofName?_name (k : EngineKind) : ofName? k.name = some k := by cases k <;> rfl

end EngineKind

end CommandTape
