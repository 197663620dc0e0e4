import CommandTape.Event

/-!
# Log filters

A filter is a list of directives, each a level for the events of some sources, of all events there
or of those with a certain field. Of the directives that are about an event the one with the
longest target decides, and an event that none is about is not logged.
-/

namespace CommandTape

/-- What a directive is about among all that comes from its sources. -/
inductive Scope
  /-- All events. -/
  | all
  /-- The events with a field of this name. -/
  | having (field : List Char)
  /-- Spans of a certain name or with certain values, and what happens within them. No span is ever
      opened, so no event is meant. -/
  | spans
  deriving DecidableEq, Repr

/-- The field that is asked for. No field has the empty name. -/
def Scope.field : Scope → List Char
  | .having field => field
  | .all | .spans => []

structure Directive where
  /-- What the path of a source begins with. -/
  target : List Char := []
  scope : Scope := .all
  /-- The most detailed level that is let through; nothing is let through without one. -/
  level : Option Level
  deriving DecidableEq, Repr

abbrev LogFilter := List Directive

namespace LogFilter

/-- Whether a directive is about an event. -/
def fits (event : Event) (d : Directive) : Bool :=
  d.target.isPrefixOf event.source.path.toList && match d.scope with
  | .all => true
  | .having field => event.fieldNames.any (·.toList = field)
  | .spans => false

/-- Whether the second directive is at least as special as the first: by the length of the target,
    then by the field, where none comes first and names are in alphabetical order. -/
def isSpecial (old new : Directive) : Bool :=
  old.target.length < new.target.length ||
    old.target.length = new.target.length && !decide (new.scope.field < old.scope.field)

/-- The more special directive; of two alike the later one counts. -/
def closer (best : Option Directive) (d : Directive) : Option Directive :=
  match best with
  | none => some d
  | some old => if isSpecial old d then some d else some old

/-- Whether a filter lets an event through. -/
def allows (filter : LogFilter) (event : Event) : Bool :=
  match (filter.filter (fits event)).foldl closer none with
  | none => false
  | some d =>
    match d.level with
    | none => false
    | some level => event.level.rank ≤ level.rank

/-- The filter for a number of requests for more log output. -/
def ofVerbosity : Nat → LogFilter
  | 0 => [⟨[], .all, some .info⟩]
  | 1 => [⟨[], .all, some .debug⟩]
  | _ => [⟨[], .all, some .trace⟩]

end LogFilter

end CommandTape
