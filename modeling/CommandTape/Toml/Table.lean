import CommandTape.Toml.Word

/-!
# TOML tables

A document is a list of sections, each with its header and the assignments below it. Assembling
them gives one table, or nothing if two of them contradict each other: each table may be opened by
one header, each key be assigned once, and a table that is complete may not be added to.
-/

namespace CommandTape.Toml

/-- How a table came about, which decides who may still add to it. -/
inductive Origin
  /-- By a header of its own. -/
  | header
  /-- By the header of a table within it. -/
  | implied
  /-- By dotted keys. -/
  | dotted
  /-- In braces; it is complete. -/
  | inline
  deriving DecidableEq, Repr

inductive Node
  | text (s : String)
  | word (word : Word)
  | array (items : List Node)
  | table (origin : Origin) (entries : List (String × Node))
  /-- An array of tables with headers, the last of them first. -/
  | tables (elements : List (List (String × Node)))

abbrev Entries := List (String × Node)

/-- A key with its value, as it is written: `a.b = 1`. -/
structure Assignment where
  path : List String
  value : Node

inductive Header
  | root
  | table (path : List String)
  | element (path : List String)

structure Section where
  header : Header
  /-- The last of them first. -/
  assignments : List Assignment

namespace Entries

def find? (key : String) (entries : Entries) : Option Node := entries.lookup key

/-- The entries with another value at a key that is there. -/
def replace (key : String) (value : Node) (entries : Entries) : Entries :=
  entries.map fun (k, v) => if k = key then (k, value) else (k, v)

/-- Assigns a value. A dotted key makes its tables as it goes and may walk through tables that no
    header has opened, but the table that it adds to must have been made by dotted keys. -/
def assign (value : Node) : List String → Entries → Option Entries
  | [], _ => none
  | [key], entries =>
    match entries.find? key with
    | none => some (entries ++ [(key, value)])
    | some _ => none
  | key :: rest, entries =>
    match entries.find? key with
    | none => (assign value rest []).map fun sub => entries ++ [(key, .table .dotted sub)]
    | some (.table .dotted sub) =>
      (assign value rest sub).map fun sub => entries.replace key (.table .dotted sub)
    | some (.table .implied sub) =>
      if rest.length = 1 then none
      else (assign value rest sub).map fun sub => entries.replace key (.table .implied sub)
    | some (.tables (last :: before)) =>
      if rest.length = 1 then none
      else (assign value rest last).map fun last => entries.replace key (.tables (last :: before))
    | some _ => none

/-- Makes all assignments of a list whose last stands first. -/
def assignAll (assignments : List Assignment) (entries : Entries) : Option Entries :=
  assignments.reverse.foldlM (fun entries a => entries.assign a.value a.path) entries

/-- Changes the table that a header's path leads to, given what stands there so far. Tables on the
    way are made if they are not there, and of an array of tables the last one is entered. -/
def atPath (change : Option Node → Option Node) : List String → Entries → Option Entries
  | [], _ => none
  | [key], entries =>
    match entries.find? key with
    | none => (change none).map fun node => entries ++ [(key, node)]
    | some old => (change (some old)).map fun node => entries.replace key node
  | key :: rest, entries =>
    match entries.find? key with
    | none => (atPath change rest []).map fun sub => entries ++ [(key, .table .implied sub)]
    | some (.table .inline _) => none
    | some (.table origin sub) =>
      (atPath change rest sub).map fun sub => entries.replace key (.table origin sub)
    | some (.tables (last :: before)) =>
      (atPath change rest last).map fun last => entries.replace key (.tables (last :: before))
    | some _ => none

/-- A table with a header: there is none yet, or one that headers within it have implied. -/
def openTable (assignments : List Assignment) : Option Node → Option Node
  | none => (assignAll assignments []).map (.table .header)
  | some (.table .implied sub) => (assignAll assignments sub).map (.table .header)
  | some _ => none

/-- A further element of an array of tables. -/
def openElement (assignments : List Assignment) : Option Node → Option Node
  | none => (assignAll assignments []).map fun entries => .tables [entries]
  | some (.tables elements) => (assignAll assignments []).map fun es => .tables (es :: elements)
  | some _ => none

/-- Adds a section. -/
def add (entries : Entries) (part : Section) : Option Entries :=
  match part.header with
  | .root => assignAll part.assignments entries
  | .table path => atPath (openTable part.assignments) path entries
  | .element path => atPath (openElement part.assignments) path entries

/-- The table of a document. -/
def ofSections? (sections : List Section) : Option Entries := sections.foldlM add []

end Entries

/-- The node of a table in braces. -/
def Node.ofAssignments? (assignments : List Assignment) : Option Node :=
  (Entries.assignAll assignments []).map (.table .inline)

end CommandTape.Toml
