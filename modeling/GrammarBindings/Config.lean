/-
  GrammarBindings.Config

  Configuration files: the description of a binding as it is written down, with
  what may be left out.  A file is a TOML document with one table `grammar`.
-/
import GrammarBindings.Path.Route
import GrammarBindings.Spec
import GrammarBindings.Toml.Reader

namespace GrammarBindings

/-- A configuration as it is written down. -/
structure Config where
  name : String
  baseDir : Option Path
  files : List Path
  interop : Option String
  library : Option String
  package : String
  className : String
  accessors : Option Accessors
  deriving DecidableEq

namespace Config

/-! ## Fields -/

/-- The fields of a configuration. -/
inductive Field
  | name
  | baseDir
  | files
  | interop
  | library
  | package
  | className
  | accessors
  deriving DecidableEq, Repr

namespace Field

/-- The key under which a field is written. -/
def key : Field → String
  | name => "name"
  | baseDir => "base_dir"
  | files => "files"
  | interop => "interop_name"
  | library => "library_name"
  | package => "package_name"
  | className => "class_name"
  | accessors => "language_methods"

/-- All fields, in the order of their positions. -/
def all : List Field := [name, baseDir, files, interop, library, package, className, accessors]

/-- The field with a key. -/
def ofKey? (key : String) : Option Field := all.find? (·.key == key)

end Field

/-! ## Problems -/

/-- What stands where something else is wanted. -/
inductive Found
  | integer (n : Int)
  | float (x : Binary64)
  | boolean (b : Bool)
  | text (s : String)
  | sequence
  | map
  deriving DecidableEq, Repr

/-- What is found in a value.  A date or time counts as a map. -/
def Found.ofValue : Toml.Value → Found
  | .integer n => integer n
  | .float x => float x
  | .boolean b => boolean b
  | .text s => text s
  | .array _ => sequence
  | .moment _ | .table _ => map

/-- What a field wants. -/
inductive Wanted
  | text
  | path
  | sequence
  | map
  | grammar
  deriving DecidableEq, Repr

/-- Why a document is no configuration. -/
inductive Problem
  /-- A required field is not there. -/
  | missing (key : String)
  /-- A key that is none of the known ones. -/
  | unknown (key : String) (known : List String)
  /-- A value of the wrong type. -/
  | mismatch (found : Found) (wanted : Wanted)
  /-- Too few values for the fields of a grammar given by position. -/
  | tooShort (length : Nat)
  deriving DecidableEq, Repr

/-- Why a text is no configuration. -/
inductive ParseError
  /-- The text is not read as TOML: it is none, or it goes beyond the limits of the reader. -/
  | notToml
  /-- The document that it holds is no configuration. -/
  | problem (p : Problem)
  deriving DecidableEq, Repr

/-! ## Problems in words -/

/-- A text between backquotes. -/
def ticked (s : String) : String := "`" ++ s ++ "`"

/-- What was found, in words. -/
def Found.message : Found → String
  | integer n => "integer " ++ ticked (toString n)
  | float x => "floating point " ++ ticked x.text
  | boolean b => "boolean " ++ ticked (if b then "true" else "false")
  | text s => "string " ++ quoted s
  | sequence => "sequence"
  | map => "map"

/-- What was wanted, in words. -/
def Wanted.message : Wanted → String
  | text => "a string"
  | path => "path string"
  | sequence => "a sequence"
  | map => "a map"
  | grammar => "struct GrammarConfig"

/-- The known keys, in words. -/
def oneOf : List String → String
  | [key] => ticked key
  | keys => "one of " ++ ", ".intercalate (keys.map ticked)

/-- A problem in words. -/
def Problem.message : Problem → String
  | missing key => "missing field " ++ ticked key
  | unknown key known => "unknown field " ++ ticked key ++ ", expected " ++ oneOf known
  | mismatch found wanted =>
    "invalid type: " ++ found.message ++ ", expected " ++ wanted.message
  | tooShort length =>
    "invalid length " ++ toString length ++ ", expected " ++ Wanted.grammar.message ++
      " with " ++ toString Field.all.length ++ " elements"

/-- The reason why a text is no configuration, in words. -/
def ParseError.message : ParseError → String
  | notToml => "invalid TOML document"
  | problem p => p.message

/-! ## Reading values -/

/-- A problem with the type of a value. -/
def wrong {α : Type} (v : Toml.Value) (wanted : Wanted) : Except Problem α :=
  .error (.mismatch (.ofValue v) wanted)

/-- The text that a value holds. -/
def readText : Toml.Value → Except Problem String
  | .text s => .ok s
  | v => wrong v .text

/-- The path that a value holds. -/
def readPath : Toml.Value → Except Problem Path
  | .text s => .ok ⟨s⟩
  | v => wrong v .path

/-- The paths that a value holds. -/
def readPaths : Toml.Value → Except Problem (List Path)
  | .array vs => vs.mapM readPath
  | v => wrong v .sequence

/-- The key of the one entry that a date or time has. -/
def momentKey : String := "$__toml_private_datetime"

/-- The entries of a map. -/
def entriesOf? : Toml.Value → Option Toml.Entries
  | .table entries => some entries
  | .moment spelling => some [(momentKey, .text spelling)]
  | _ => none

/-- The accessors that a value holds. -/
def readAccessors (v : Toml.Value) : Except Problem Accessors :=
  match entriesOf? v with
  | none => wrong v .map
  | some entries => do
    let pairs ← entries.mapM fun e => do return (e.1, ← readText e.2)
    return Accessors.ofList pairs

/-! ## Reading a grammar -/

/-- A configuration of which not all fields are known. -/
structure Draft where
  name : Option String := none
  baseDir : Option Path := none
  files : Option (List Path) := none
  interop : Option String := none
  library : Option String := none
  package : Option String := none
  className : Option String := none
  accessors : Option Accessors := none

/-- The draft with a field read from a value. -/
def Draft.read (d : Draft) (field : Field) (v : Toml.Value) : Except Problem Draft :=
  match field with
  | .name => do return { d with name := some (← readText v) }
  | .baseDir => do return { d with baseDir := some (← readPath v) }
  | .files => do return { d with files := some (← readPaths v) }
  | .interop => do return { d with interop := some (← readText v) }
  | .library => do return { d with library := some (← readText v) }
  | .package => do return { d with package := some (← readText v) }
  | .className => do return { d with className := some (← readText v) }
  | .accessors => do return { d with accessors := some (← readAccessors v) }

/-- A field that has to be there. -/
def required {α : Type} (field : Field) : Option α → Except Problem α
  | some a => .ok a
  | none => .error (.missing field.key)

/-- The configuration, if all required fields are there. -/
def Draft.finish (d : Draft) : Except Problem Config := do
  let name ← required .name d.name
  let files ← required .files d.files
  let package ← required .package d.package
  let className ← required .className d.className
  return { name, baseDir := d.baseDir, files, interop := d.interop, library := d.library,
           package, className, accessors := d.accessors }

/-- The draft with one entry of the grammar's table read. -/
def Draft.readEntry (d : Draft) (e : String × Toml.Value) : Except Problem Draft :=
  match Field.ofKey? e.1 with
  | none => .error (.unknown e.1 (Field.all.map Field.key))
  | some field => d.read field e.2

/-- A grammar given as a table: its entries are read in their order, and missing
    fields are looked for at the end. -/
def ofEntries (entries : Toml.Entries) : Except Problem Config := do
  (← entries.foldlM Draft.readEntry {}).finish

/-- A draft with the fields read from the values in their places, of which there
    are `length` in all.  Values beyond the last field do not count. -/
def Draft.readPlaces (length : Nat) (d : Draft) :
    List Field → List Toml.Value → Except Problem Draft
  | [], _ => .ok d
  | _ :: _, [] => .error (.tooShort length)
  | field :: fields, v :: vs => do (← d.read field v).readPlaces length fields vs

/-- A grammar given as an array: each field in its place. -/
def ofPlaces (vs : List Toml.Value) : Except Problem Config := do
  (← Draft.readPlaces vs.length {} Field.all vs).finish

/-- A grammar given as a value. -/
def ofValue (v : Toml.Value) : Except Problem Config :=
  match v with
  | .array vs => ofPlaces vs
  | v =>
    match entriesOf? v with
    | some entries => ofEntries entries
    | none => wrong v .grammar

/-! ## Reading a file -/

/-- The key of the grammar's table. -/
def grammarKey : String := "grammar"

/-- The grammar with one entry of the document read. -/
def readTop (_ : Option Config) (e : String × Toml.Value) : Except Problem (Option Config) :=
  if e.1 = grammarKey then do return some (← ofValue e.2)
  else .error (.unknown e.1 [grammarKey])

/-- The configuration that a document holds. -/
def ofDocument (entries : Toml.Entries) : Except Problem Config := do
  match ← entries.foldlM readTop none with
  | some config => return config
  | none => throw (.missing grammarKey)

/-- The configuration that a text holds.  The whole text has to be TOML before
    any field is looked at. -/
def parse (text : String) : Except ParseError Config :=
  match Toml.parse? text with
  | none => .error .notToml
  | some entries => (ofDocument entries).mapError .problem

/-! ## From a configuration to a spec -/

/-- The spec of a configuration in the directory `dir`: what is left out takes
    its default, and the base directory is read from `dir`. -/
def toSpec (c : Config) (dir : Path) : Spec where
  baseDir := (dir.join (c.baseDir.getD Spec.defaultBaseDir)).normalize
  grammar := c.name
  sources := c.files
  interop := c.interop.getD Spec.defaultInterop
  library := c.library.getD (Spec.defaultLibrary c.name)
  package := c.package
  className := c.className
  accessors := c.accessors.getD (Spec.defaultAccessors c.name)

end Config

end GrammarBindings
