/-
  GrammarBindings.Proofs.CommandLine.Printed

  What is printed for the files of a generation, word for word.  As text there is a line
  for each file, with its path at the end; as JSON there is an object for each, over several
  lines, with the path in quotes.

    * `Settings.listing` — what is printed for files, each with a word for what becomes of it.
    * `newline_prettyAt_artifactJson`, `pretty_generationJson` — the JSON of one file and of
      all files.
    * `printed_planned`, `printed_delivered` — the reports of a dry run and of a generation
      are printed in this way.
-/
import GrammarBindings.Proofs.CommandLine.Generation
import Mathlib.Data.List.Perm.Basic

namespace GrammarBindings

/-! ## JSON over several lines -/

namespace Json

/-- Fields of different names are put in the order of these. -/
theorem sorted_eq_object {fields ordered : List (String × Json)} (hperm : fields.Perm ordered)
    (hordered : (ordered.map Prod.fst).Pairwise (· < ·)) : sorted fields = object ordered := by
  have hmerge := @List.pairwise_mergeSort (String × Json) (fun a b => decide (a.1 ≤ b.1))
    (fun a b c hab hbc => by simpa using String.le_trans (by simpa using hab) (by simpa using hbc))
    (fun a b => by simpa using String.le_total a.1 b.1) fields
  have hsame := (List.mergeSort_perm fields fun a b => decide (a.1 ≤ b.1)).trans hperm
  have hle : ordered.Pairwise fun a b => decide (a.1 ≤ b.1) = true :=
    (List.pairwise_map.1 hordered).imp fun h => decide_eq_true (String.not_lt.1 (String.lt_asymm h))
  have hnames : (ordered.map Prod.fst).Nodup :=
    hordered.imp fun {a b} (h : a < b) (heq : a = b) => String.lt_irrefl b (heq ▸ h)
  -- both lists ascend, and no two fields are on a par
  refine congrArg object (hsame.eq_of_pairwise (fun a b ha hb hab hba => ?_) hmerge hle)
  have hname := String.le_antisymm (of_decide_eq_true hab) (of_decide_eq_true hba)
  exact List.inj_on_of_nodup_map hnames (hsame.subset ha) hb hname

theorem prettyItems_eq_map (level : Nat) (items : List Json) :
    prettyItems level items = items.map (prettyAt level) := by
  induction items with
  | nil => rw [prettyItems, List.map_nil]
  | cons v vs ih => rw [prettyItems, ih, List.map_cons]

theorem block_of_ne_nil {left right : String} {level : Nat} {parts : List String}
    (hne : parts ≠ []) :
    block left right level parts =
      left ++ ",".intercalate (parts.map (newline (level + 1) ++ ·)) ++ newline level ++ right := by
  obtain ⟨part, rest, rfl⟩ := List.exists_cons_of_ne_nil hne
  rfl

end Json

namespace CommandLine

open Json Delivery

/-! ## Files one by one -/

/-- A file in a JSON report, on lines of its own. -/
def jsonEntry (a : Artifact) (status : String) : String :=
  "\n    \x7b" ++
    ("\n      \"kind\": " ++ quote a.kind.label ++ ",") ++
    ("\n      \"path\": " ++ quote a.path.text ++ ",") ++
    ("\n      \"status\": " ++ quote status) ++
    "\n    \x7d"

/-- The JSON report of files below a directory. -/
def jsonListing (dir : Path) (dryRun : Bool) (files : List (Artifact × String)) : String :=
  "\x7b" ++
    ("\n  \"artifacts\": [" ++ ",".intercalate (files.map fun f => jsonEntry f.1 f.2) ++
      "\n  ],") ++
    ("\n  \"dry_run\": " ++ (if dryRun then "true" else "false") ++ ",") ++
    ("\n  \"output_dir\": " ++ quote dir.text) ++
    "\n\x7d\n"

/-- The report of files as text. -/
def textListing (dryRun : Bool) (files : List (Artifact × String)) : String :=
  String.join (files.map fun f =>
    (if dryRun then "would write" else f.2) ++ " " ++ f.1.path.text ++ "\n")

/-- What is printed for the files of a generation, each with a word for what becomes of it.
    A quiet run prints nothing. -/
def Settings.listing (s : Settings) (dir : Path) (dryRun : Bool)
    (files : List (Artifact × String)) : String :=
  if s.quiet then ""
  else
    match s.format with
    | .text => textListing dryRun files
    | .json => jsonListing dir dryRun files

/-! ## The JSON of a generation -/

theorem newline_prettyAt_artifactJson (a : Artifact) (status : String) :
    newline 2 ++ (Report.artifactJson a status).prettyAt 2 = jsonEntry a status := by
  have hnames : ["kind", "path", "status"].Pairwise (· < ·) := by decide
  have hfields : Report.artifactJson a status = .object
      [("kind", .text a.kind.label), ("path", .text a.path.text), ("status", .text status)] :=
    sorted_eq_object (List.Perm.refl _) hnames
  -- the constant texts as they are put together
  have hbegin : "\n    \x7b" = newline 2 ++ "\x7b" := by decide
  have hkind : "\n      \"kind\": " = newline 3 ++ quote "kind" ++ ": " := by decide
  have hpath : "\n      \"path\": " = newline 3 ++ quote "path" ++ ": " := by decide
  have hstatus : "\n      \"status\": " = newline 3 ++ quote "status" ++ ": " := by decide
  have hend : "\n    \x7d" = newline 2 ++ "\x7d" := by decide
  rw [jsonEntry, hfields, hbegin, hkind, hpath, hstatus, hend]
  simp only [prettyAt, prettyFields, Nat.reduceAdd, block_of_ne_nil (List.cons_ne_nil _ _),
    List.map_cons, List.map_nil, String.intercalate_cons_cons, String.intercalate_singleton,
    String.append_assoc]

theorem pretty_generationJson (dir : Path) (dryRun : Bool) {files : List (Artifact × String)}
    (hne : files ≠ []) :
    (Report.generationJson dir dryRun
        (files.map fun f => Report.artifactJson f.1 f.2)).pretty ++ "\n" =
      jsonListing dir dryRun files := by
  let items := files.map fun f => Report.artifactJson f.1 f.2
  -- the names come in the opposite order
  have hnames : ["artifacts", "dry_run", "output_dir"].Pairwise (· < ·) := by decide
  have hfields : Report.generationJson dir dryRun items = .object
      [("artifacts", .array items), ("dry_run", .bool dryRun), ("output_dir", .text dir.text)] :=
    sorted_eq_object (List.reverse_perm _).symm hnames
  -- there are files, so the array goes over several lines
  have hitems : (prettyItems 2 items).map (newline 2 ++ ·) =
      files.map fun f => jsonEntry f.1 f.2 := by
    rw [prettyItems_eq_map, List.map_map, List.map_map]
    exact List.map_congr_left fun f _ => newline_prettyAt_artifactJson f.1 f.2
  have harray : block "[" "]" 1 (prettyItems 2 items) =
      "[" ++ ",".intercalate (files.map fun f => jsonEntry f.1 f.2) ++ newline 1 ++ "]" := by
    rw [block_of_ne_nil (by simpa [prettyItems_eq_map, items] using hne), hitems]
  -- the constant texts as they are put together
  have hbegin : "\n  \"artifacts\": [" = newline 1 ++ quote "artifacts" ++ ": " ++ "[" := by decide
  have hbracket : "\n  ]," = newline 1 ++ "]" ++ "," := by decide
  have hdry : "\n  \"dry_run\": " = newline 1 ++ quote "dry_run" ++ ": " := by decide
  have hdir : "\n  \"output_dir\": " = newline 1 ++ quote "output_dir" ++ ": " := by decide
  have hend : "\n\x7d\n" = newline 0 ++ "\x7d" ++ "\n" := by decide
  rw [jsonListing, hfields, hbegin, hbracket, hdry, hdir, hend, pretty]
  simp only [prettyAt, prettyFields, Nat.zero_add, Nat.reduceAdd, harray,
    block_of_ne_nil (List.cons_ne_nil _ _), List.map_cons, List.map_nil,
    String.intercalate_cons_cons, String.intercalate_singleton, String.append_assoc]

/-! ## Printed reports -/

/-- What is printed for a report; a quiet run prints nothing. -/
def Settings.printed (s : Settings) (r : Report) : String :=
  if s.quiet then "" else r.print s.format

theorem stdout_jobOutcome (settings : Settings) (filter : Option String) (events : List Event)
    (r : Report) : (jobOutcome settings filter events (.ok r)).stdout = settings.printed r :=
  rfl

section Reports

variable (settings : Settings) (dir : Path)

/-- A report of files is printed as their list if it is one in both formats. -/
theorem printed_eq_listing {r : Report} {dryRun : Bool} {files : List (Artifact × String)}
    (hne : files ≠ []) (htext : r.text = textListing dryRun files)
    (hjson : r.json = Report.generationJson dir dryRun
      (files.map fun f => Report.artifactJson f.1 f.2)) :
    settings.printed r = settings.listing dir dryRun files := by
  rw [Settings.printed, Settings.listing]
  congr 1
  cases settings.format with
  | text => exact htext
  | json =>
    rw [← pretty_generationJson dir dryRun hne, ← hjson]
    rfl

variable {artifacts : List Artifact} (hne : artifacts ≠ [])
include hne

theorem printed_planned :
    settings.printed (.planned dir artifacts) =
      settings.listing dir true (artifacts.map fun a => (a, "planned")) := by
  refine printed_eq_listing settings dir (by simpa using hne) ?text ?json
  case text =>
    rw [Report.text, endedLines, textListing, List.map_map, List.map_map]
    rfl
  case json =>
    rw [Report.json, List.map_map]
    rfl

theorem printed_delivered (status : Artifact → Status) :
    settings.printed (.delivered dir artifacts (artifacts.map fun a => (a.path, status a))) =
      settings.listing dir false (artifacts.map fun a => (a, (status a).text)) := by
  refine printed_eq_listing settings dir (by simpa using hne) ?text ?json
  case text =>
    rw [Report.text, endedLines, textListing, List.map_map, List.map_map, List.map_map]
    rfl
  case json =>
    -- files and statuses go in step
    rw [Report.json, List.zipWith_map_right, List.zipWith_self, List.map_map]
    rfl

end Reports

end CommandLine

end GrammarBindings
