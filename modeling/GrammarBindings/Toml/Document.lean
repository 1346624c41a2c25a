/-
  GrammarBindings.Toml.Document

  How the lines of a TOML document add up to its tables.  While a document is
  read a table remembers how it came to be, since that decides which later lines
  may add to it.
-/
import GrammarBindings.Toml.Value

namespace GrammarBindings.Toml

/-! ## Tables under construction -/

/-- How a table came to be. -/
inductive Origin
  /-- By a header of its own. -/
  | headed
  /-- As part of the way to another table, in the header of that. -/
  | implied
  /-- As part of a dotted key. -/
  | dotted
  deriving DecidableEq, Repr

/-- An entry of a table under construction. -/
inductive Node
  /-- A value that is complete. -/
  | value (v : Value)
  /-- A table that later lines may add to. -/
  | table (origin : Origin) (entries : List (String × Node))
  /-- An array of tables, of which later lines may add to the last. -/
  | tables (elements : List (List (String × Node)))

/-- The entries of a table under construction. -/
abbrev Nodes := List (String × Node)

namespace Node

mutual

/-- The value that a node has come to. -/
def toValue : Node → Value
  | value v => v
  | table _ entries => .table (toEntries entries)
  | tables elements => .array (toTables elements)

/-- The entries that nodes have come to. -/
def toEntries : List (String × Node) → Entries
  | [] => []
  | (key, node) :: rest => (key, node.toValue) :: toEntries rest

/-- The tables that the elements of an array have come to. -/
def toTables : List (List (String × Node)) → List Value
  | [] => []
  | entries :: rest => .table (toEntries entries) :: toTables rest

end

end Node

namespace Nodes

/-- The entries with the node under a key replaced. -/
def replace (key : String) (node : Node) (entries : Nodes) : Nodes :=
  entries.map fun e => if e.1 = key then (key, node) else e

/-- The entries without the one under a key. -/
def remove (key : String) (entries : Nodes) : Nodes :=
  entries.filter fun e => e.1 ≠ key

/-- An array of tables with its last table changed. -/
def changeLast (change : Nodes → Option Nodes) (elements : List Nodes) :
    Option (List Nodes) := do
  let last ← elements.getLast?
  return elements.dropLast ++ [← change last]

/-! ## One line -/

/-- A table with a value put under a dotted key.  The key must be new.  On its
    way it makes tables where there are none and passes through those that are
    not complete; the table that receives the value must be the first one or
    one that dotted keys made. -/
def assign (entries : Nodes) (path : List String) (key : String) (v : Value) :
    Option Nodes :=
  match path with
  | [] =>
    if (entries.lookup key).isSome then none
    else some (entries ++ [(key, .value v)])
  | part :: path =>
    match entries.lookup part with
    | none => do
      let inner ← assign [] path key v
      return entries ++ [(part, .table .dotted inner)]
    | some (.table origin inner) =>
      if origin = .headed ∨ (path = [] ∧ origin ≠ .dotted) then none
      else do
        let inner ← assign inner path key v
        return replace part (.table origin inner) entries
    | some (.tables elements) =>
      if path = [] then none
      else do
        let elements ← changeLast (fun inner => assign inner path key v) elements
        return replace part (.tables elements) entries
    | some (.value _) => none

/-- A table with a change made to the table at the end of a header's way.  The way
    makes tables where there are none and leads into the last table of an array. -/
def changeAt (entries : Nodes) (path : List String) (change : Nodes → Option Nodes) :
    Option Nodes :=
  match path with
  | [] => change entries
  | part :: path =>
    match entries.lookup part with
    | none => do
      let inner ← changeAt [] path change
      return entries ++ [(part, .table .implied inner)]
    | some (.table origin inner) => do
      let inner ← changeAt inner path change
      return replace part (.table origin inner) entries
    | some (.tables elements) => do
      let elements ← changeLast (fun inner => changeAt inner path change) elements
      return replace part (.tables elements) entries
    | some (.value _) => none

end Nodes

/-! ## Sections -/

/-- A line that puts a value under a key, given by the parts before its last dot
    and the last part. -/
structure Assignment where
  path : List String
  key : String
  value : Value

/-- The header of a section, given like a key. -/
inductive Header
  /-- `[path.key]` -/
  | table (path : List String) (key : String)
  /-- `[[path.key]]` -/
  | element (path : List String) (key : String)
  deriving DecidableEq, Repr

/-- A header with the lines below it. -/
structure Section where
  header : Header
  lines : List Assignment

/-- What a document consists of: the lines before the first header, and sections. -/
structure Document where
  lines : List Assignment
  sections : List Section

namespace Nodes

/-- A table with the lines of its section. -/
def assignAll (entries : Nodes) (lines : List Assignment) : Option Nodes :=
  lines.foldlM (fun entries line => entries.assign line.path line.key line.value) entries

/-- The table around a section with the section added.  A table that was only
    implied so far takes its place among the entries anew; any other one is
    complete. -/
def addSection (entries : Nodes) (s : Section) : Option Nodes :=
  match s.header with
  | .table path key =>
    entries.changeAt path fun around =>
      match around.lookup key with
      | none => do
        return around ++ [(key, .table .headed (← assignAll [] s.lines))]
      | some (.table .implied inner) => do
        return remove key around ++ [(key, .table .headed (← assignAll inner s.lines))]
      | some _ => none
  | .element path key =>
    entries.changeAt path fun around =>
      match around.lookup key with
      | none => do
        return around ++ [(key, .tables [← assignAll [] s.lines])]
      | some (.tables elements) => do
        return replace key (.tables (elements ++ [← assignAll [] s.lines])) around
      | some _ => none

end Nodes

/-- The entries that a document adds up to; `none` if a line touches what is
    complete. -/
def Document.entries? (d : Document) : Option Entries := do
  let top ← Nodes.assignAll [] d.lines
  return Node.toEntries (← d.sections.foldlM Nodes.addSection top)

/-- The table that dotted keys and values between braces add up to. -/
def inlineTable? (lines : List Assignment) : Option Value := do
  return .table (Node.toEntries (← Nodes.assignAll [] lines))

end GrammarBindings.Toml
