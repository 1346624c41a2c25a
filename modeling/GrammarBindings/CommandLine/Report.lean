/-
  GrammarBindings.CommandLine.Report

  Reports as they are printed, as text or as JSON.
-/
import GrammarBindings.CommandLine.Job
import GrammarBindings.Json

namespace GrammarBindings.CommandLine

/-- A line for each of some texts. -/
def endedLines (texts : List String) : String :=
  String.join (texts.map (· ++ "\n"))

/-- A number of things in words. -/
def counted (n : Nat) (singular : String) : String :=
  toString n ++ " " ++ singular ++ (if n = 1 then "" else "s")

namespace Report

/-! ## Text -/

/-- A report as text. -/
def text : Report → String
  | valid config ⟨spec, _⟩ =>
    endedLines [config.text ++ ": " ++ spec.package ++ "." ++ spec.className ++
      " (" ++ counted spec.accessors.entries.length "language method" ++ ")"]
  | planned _ artifacts => endedLines (artifacts.map fun a => "would write " ++ a.path.text)
  | delivered _ _ statuses => endedLines (statuses.map fun e => e.2.text ++ " " ++ e.1.text)

/-! ## JSON -/

/-- A generated file in a report. -/
def artifactJson (a : Artifact) (status : String) : Json :=
  .sorted [("kind", .text a.kind.label), ("path", .text a.path.text), ("status", .text status)]

/-- The report of a generation. -/
def generationJson (dir : Path) (dryRun : Bool) (artifacts : List Json) : Json :=
  .sorted [("output_dir", .text dir.text), ("dry_run", .bool dryRun),
    ("artifacts", .array artifacts)]

/-- A report as JSON. -/
def json : Report → Json
  | valid _ ⟨spec, _⟩ =>
    .sorted [("valid", .bool true), ("grammar", .text spec.grammar),
      ("package", .text spec.package), ("class", .text spec.className),
      ("library", .text spec.library),
      ("language_methods",
        .sorted (spec.accessors.entries.map fun e => (e.1, .text e.2)))]
  | planned dir artifacts =>
    generationJson dir true (artifacts.map fun a => artifactJson a "planned")
  | delivered dir artifacts statuses =>
    generationJson dir false
      (List.zipWith (fun a e => artifactJson a e.2.text) artifacts statuses)

/-- A report as it is printed. -/
def print (r : Report) : Format → String
  | .text => r.text
  | .json => r.json.pretty ++ "\n"

end Report

end GrammarBindings.CommandLine
