/-
  GrammarBindings.Log

  What a run tells about its progress.  An event knows how important it is and
  how it reads as a line; a threshold decides which events are shown.
-/
import GrammarBindings.ArtifactKind
import GrammarBindings.Path
import GrammarBindings.Text.Quoted

namespace GrammarBindings

/-! ## Levels -/

/-- How important an event is. -/
inductive Level
  | error
  | warn
  | info
  | debug
  | trace
  deriving DecidableEq, Repr

namespace Level

/-- The place of a level, the most important one first. -/
def rank : Level → Nat
  | error => 0
  | warn => 1
  | info => 2
  | debug => 3
  | trace => 4

/-- The name of a level in log lines. -/
def label : Level → String
  | error => "ERROR"
  | warn => "WARN"
  | info => "INFO"
  | debug => "DEBUG"
  | trace => "TRACE"

end Level

/-! ## Thresholds -/

/-- The least important level that is shown; `none` shows nothing. -/
abbrev Threshold := Option Level

namespace Threshold

/-- Whether events of a level are shown. -/
def shows (threshold : Threshold) (level : Level) : Bool :=
  match threshold with
  | none => false
  | some least => level.rank ≤ least.rank

/-- The threshold that a word or digit asks for, in small or capital letters.
    The empty text asks for errors; a word that is no level shows nothing. -/
def ofText (s : String) : Threshold :=
  match s.toLower with
  | "" | "1" | "error" => some .error
  | "2" | "warn" => some .warn
  | "3" | "info" => some .info
  | "4" | "debug" => some .debug
  | "5" | "trace" => some .trace
  | _ => none

end Threshold

/-! ## Events -/

/-- What happens during a run. -/
inductive Event
  /-- A configuration file was read. -/
  | configLoaded (path : Path) (grammar : String)
  /-- A template uses placeholders that are given no value. -/
  | strayPlaceholders (kind : ArtifactKind) (names : List String)
  /-- A file of a grammar's binding was generated. -/
  | rendered (grammar : String) (kind : ArtifactKind) (path : Path) (bytes : Nat)
  /-- All files of a grammar's binding were generated. -/
  | generated (grammar : String) (count : Nat)
  /-- The files are listed and not written. -/
  | nothingWritten (count : Nat)
  /-- A file holds its text already. -/
  | unchanged (path : Path)
  /-- A file was put in its place. -/
  | written (path : Path)
  deriving DecidableEq, Repr

namespace Event

/-- How important an event is. -/
def level : Event → Level
  | strayPlaceholders _ _ => .warn
  | generated _ _ | nothingWritten _ => .info
  | configLoaded _ _ | rendered _ _ _ _ | unchanged _ | written _ => .debug

/-- The grammar during whose generation an event happens. -/
def grammar? : Event → Option String
  | rendered grammar _ _ _ | generated grammar _ => some grammar
  | _ => none

/-- What happened, in words. -/
def message : Event → String
  | configLoaded _ _ => "loaded configuration"
  | strayPlaceholders _ _ => "template uses placeholders that will not be substituted"
  | rendered _ _ _ _ => "rendered artifact"
  | generated _ _ => "generated grammar bindings"
  | nothingWritten _ => "dry run, nothing written"
  | unchanged _ => "unchanged"
  | written _ => "written"

/-- The details of an event, each with its name. -/
def fields : Event → List (String × String)
  | configLoaded path grammar => [("path", path.text), ("grammar", grammar)]
  | strayPlaceholders kind names =>
    [("template", quoted kind.templateFile),
      ("placeholders", "[" ++ ", ".intercalate (names.map quoted) ++ "]")]
  | rendered _ kind path bytes =>
    [("kind", kind.title), ("path", path.text), ("bytes", toString bytes)]
  | generated _ count | nothingWritten count => [("count", toString count)]
  | unchanged path | written path => [("path", path.text)]

/-- The words that set a log line under the generation of a grammar. -/
def scope : Option String → String
  | none => ""
  | some grammar => "generate\x7bgrammar=" ++ grammar ++ "\x7d: "

/-- An event as a log line. -/
def line (e : Event) : String :=
  e.level.label ++ " " ++ scope e.grammar? ++
    " ".intercalate (e.message :: e.fields.map fun f => f.1 ++ "=" ++ f.2)

end Event

/-- The log lines of the events that are shown. -/
def logLines (threshold : Threshold) (events : List Event) : List String :=
  (events.filter fun e => threshold.shows e.level).map Event.line

end GrammarBindings
