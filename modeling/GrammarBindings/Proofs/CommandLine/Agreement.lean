/-
  GrammarBindings.Proofs.CommandLine.Agreement

  A validation, a dry run and a real generation of one configuration.  All three load and
  check the same things first, and in one way: what can be wrong with these is found by
  all of them or by none.  Generating cannot fail, so behind that point only a delivery can.

    * `perform_of_error`, `perform_of_report`, `result_of_generate` — what a job does when
      loading fails, and when it succeeds, for each action.
    * `message_delivery` — how a failed delivery is reported.

  Main statement: `runs_agree`.
-/
import GrammarBindings.Proofs.CommandLine.Footprint
import GrammarBindings.Proofs.CommandLine.Rerun

namespace GrammarBindings.CommandLine

open Delivery

variable {t : FileTree} {cwd : Location} {filter : Option String} {settings : Settings}

/-! ## What a run prints -/

/-- What is said about a failure; a quiet run says nothing. -/
def Settings.complaint (s : Settings) (message : String) : Option Complaint :=
  if s.quiet then none else some (.failure s.format message)

section Run

variable {arguments : List String} {job : Job} (filter)
  (hargs : parseArguments arguments = .ok (.job settings job))
include hargs

theorem run_of_error {e : Failure} (h : (job.perform t cwd).result = .error e) :
    (run t cwd filter arguments).2.exitCode = 1 ∧
      (run t cwd filter arguments).2.complaint = settings.complaint ("error: " ++ e.message) := by
  rw [run_of_job hargs, h]
  exact ⟨rfl, rfl⟩

theorem run_of_ok {r : Report} (h : (job.perform t cwd).result = .ok r) :
    (run t cwd filter arguments).2.exitCode = 0 ∧
      (run t cwd filter arguments).2.stdout = settings.printed r := by
  rw [run_of_job hargs, h]
  exact ⟨rfl, rfl⟩

theorem run_tree : (run t cwd filter arguments).1 = (job.perform t cwd).tree := by
  rw [run_of_job hargs]

end Run

/-! ## Jobs with one configuration -/

section Job

variable {job : Job}

theorem perform_of_error {e : Failure} (h : (job.prepare (t.read cwd) cwd.toPath).2 = .error e) :
    (job.perform t cwd).tree = t ∧ (job.perform t cwd).result = .error e := by
  unfold Job.perform Job.work
  rcases hprepare : job.prepare (t.read cwd) cwd.toPath with ⟨events, d | p⟩
  · rw [hprepare] at h
    obtain rfl := Except.error.inj h
    exact ⟨rfl, rfl⟩
  · rw [hprepare] at h
    cases h

theorem perform_of_report {r : Report}
    (h : (job.work (t.read cwd) cwd.toPath).2 = .ok (.report r)) :
    (job.perform t cwd).tree = t ∧ (job.perform t cwd).result = .ok r := by
  have hwork : job.work (t.read cwd) cwd.toPath = (_, .ok (.report r)) := Prod.ext rfl h
  unfold Job.perform
  rw [hwork]
  exact ⟨rfl, rfl⟩

/-- A delivery goes well for all files, each of which it gives a status, or it fails for one
    of them. -/
theorem result_of_generate {out : Path} {p : Prepared}
    (haction : job.action = .generate out false)
    (h : (job.prepare (t.read cwd) cwd.toPath).2 = .ok p) :
    let dir := Path.absolute cwd.toPath out
    let artifacts := generate p.spec p.templates ⟨dir⟩
    (∃ status : Artifact → Status, (job.perform t cwd).result =
        .ok (.delivered dir artifacts (artifacts.map fun a => (a.path, status a)))) ∨
      ∃ f, (job.perform t cwd).result = .error (.delivery f) := by
  intro dir artifacts
  have hwork := work_of_prepare haction h
  have hjob : job.work (t.read cwd) cwd.toPath = (_, .ok (.deliver dir artifacts)) :=
    Prod.ext rfl hwork
  rw [(perform_deliver hjob).2]
  -- what the delivery gives back are the paths of the files, as these lie apart
  cases hdelivery : (deliver t cwd dir (artifacts.map Artifact.toTextFile)).result with
  | ok sts =>
    obtain ⟨hdir, hfiles⟩ := apart_of_work hwork
    obtain ⟨moved, rest, v, haccount, -⟩ :=
      account_deliver t cwd hdir hfiles.canonical hfiles.distinct
    obtain ⟨-, rfl⟩ := haccount.succeeded sts hdelivery
    rw [Delivery.statuses, List.map_map]
    exact Or.inl ⟨_, rfl⟩
  | error f => exact Or.inr ⟨f, rfl⟩

end Job

/-- How a failed delivery is reported. -/
theorem message_delivery (f : Delivery.Failure) :
    ∃ rest, "error: " ++ (Failure.delivery f).message = "error: failed to write '" ++ rest := by
  have hlead : "error: failed to write '" = "error: " ++ "failed to write '" := by decide
  have hmessage : (Failure.delivery f).message =
      "failed to write '" ++ f.path.text ++ "': " ++ f.cause.message := rfl
  refine ⟨f.path.text ++ ("': " ++ f.cause.message), ?_⟩
  rw [hmessage, hlead, String.append_assoc, String.append_assoc, String.append_assoc]

/-! ## The three runs -/

/-- A validation, a dry run and a generation, of one configuration, with the same templates
    and, for the last two, into the same directory.

    The dry run succeeds exactly if the validation does.  If they fail, the generation fails
    too; the three give one and the same message and leave the tree as it is.  If they
    succeed, the dry run prints the path of one file of each kind, and the generation either
    prints the same paths in the same order or fails to write one of the files. -/
theorem runs_agree (t : FileTree) (cwd : Location) (filter : Option String) {config out : Path}
    {templates : Option Path} {validating planning generating : List String}
    {forValidation forPlan forGeneration : Settings}
    (hvalidate : parseArguments validating =
      .ok (.job forValidation ⟨config, templates, .validate⟩))
    (hplan : parseArguments planning =
      .ok (.job forPlan ⟨config, templates, .generate out true⟩))
    (hgenerate : parseArguments generating =
      .ok (.job forGeneration ⟨config, templates, .generate out false⟩)) :
    let validated := run t cwd filter validating
    let planned := run t cwd filter planning
    let generated := run t cwd filter generating
    (validated.2.exitCode = 0 ∨ validated.2.exitCode = 1) ∧
      planned.2.exitCode = validated.2.exitCode ∧
      (validated.2.exitCode = 1 →
        generated.2.exitCode = 1 ∧
          (∃ message, validated.2.complaint = forValidation.complaint message ∧
            planned.2.complaint = forPlan.complaint message ∧
            generated.2.complaint = forGeneration.complaint message) ∧
          validated.1 = t ∧ planned.1 = t ∧ generated.1 = t) ∧
      (validated.2.exitCode = 0 →
        validated.1 = t ∧ planned.1 = t ∧
          ∃ dir artifacts, artifacts.map Artifact.kind = ArtifactKind.all ∧
            (Job.perform t cwd ⟨config, templates, .generate out true⟩).result =
              .ok (.planned dir artifacts) ∧
            planned.2.stdout =
              forPlan.listing dir true (artifacts.map fun a => (a, "planned")) ∧
            ((∃ status : Artifact → Status, generated.2.exitCode = 0 ∧
                (Job.perform t cwd ⟨config, templates, .generate out false⟩).result =
                  .ok (.delivered dir artifacts (artifacts.map fun a => (a.path, status a))) ∧
                generated.2.stdout = forGeneration.listing dir false
                  (artifacts.map fun a => (a, (status a).text))) ∨
              ∃ rest, generated.2.exitCode = 1 ∧
                generated.2.complaint =
                  forGeneration.complaint ("error: failed to write '" ++ rest))) := by
  intro validated planned generated
  -- what is loaded and checked does not depend on the action
  have hsame (action : Action) :
      (Job.prepare (t.read cwd) cwd.toPath ⟨config, templates, action⟩).2 =
        (Job.prepare (t.read cwd) cwd.toPath ⟨config, templates, .validate⟩).2 :=
    rfl
  cases hprepare : (Job.prepare (t.read cwd) cwd.toPath ⟨config, templates, .validate⟩).2 with
  | error e =>
    have hperform (action : Action) := perform_of_error ((hsame action).trans hprepare)
    obtain ⟨hvalidated, hvalidatedComplaint⟩ := run_of_error filter hvalidate (hperform _).2
    obtain ⟨hplanned, hplannedComplaint⟩ := run_of_error filter hplan (hperform _).2
    obtain ⟨hgenerated, hgeneratedComplaint⟩ := run_of_error filter hgenerate (hperform _).2
    refine ⟨Or.inr hvalidated, hplanned.trans hvalidated.symm, fun _ => ⟨hgenerated,
      ⟨_, hvalidatedComplaint, hplannedComplaint, hgeneratedComplaint⟩, ?_, ?_, ?_⟩, ?_⟩
    · exact (run_tree filter hvalidate).trans (hperform _).1
    · exact (run_tree filter hplan).trans (hperform _).1
    · exact (run_tree filter hgenerate).trans (hperform _).1
    · intro hzero
      rw [hvalidated] at hzero
      cases hzero
  | ok p =>
    have hvalid := perform_of_report (work_ok hprepare)
    have hplans := perform_of_report (work_ok ((hsame (.generate out true)).trans hprepare))
    obtain ⟨hvalidated, -⟩ := run_of_ok filter hvalidate hvalid.2
    obtain ⟨hplanned, hprinted⟩ := run_of_ok filter hplan hplans.2
    refine ⟨Or.inl hvalidated, hplanned.trans hvalidated.symm, ?_, fun _ =>
      ⟨(run_tree filter hvalidate).trans hvalid.1, (run_tree filter hplan).trans hplans.1,
        _, _, rfl, hplans.2, hprinted.trans (printed_planned _ _ (generate_ne_nil _ _ _)), ?_⟩⟩
    · intro hone
      rw [hvalidated] at hone
      cases hone
    · rcases result_of_generate rfl ((hsame (.generate out false)).trans hprepare) with
        ⟨status, hresult⟩ | ⟨f, hresult⟩
      · obtain ⟨hgenerated, hreport⟩ := run_of_ok filter hgenerate hresult
        exact Or.inl ⟨status, hgenerated, hresult,
          hreport.trans (printed_delivered _ _ (generate_ne_nil _ _ _) status)⟩
      · obtain ⟨hgenerated, hcomplaint⟩ := run_of_error filter hgenerate hresult
        obtain ⟨rest, hrest⟩ := message_delivery f
        exact Or.inr ⟨rest, hgenerated, hrest ▸ hcomplaint⟩

/-- The arguments that ask for a validation of the small configuration. -/
def smallValidation : List String := ["validate", "/c.toml"]

/-- The arguments that ask for a dry run of the small generation. -/
def smallPlan : List String := ["generate", "/c.toml", "--out", "/out", "--dry-run"]

/-- The theorem where nothing is in the way, and where there is no configuration. -/
theorem runs_agree_small :
    ((run smallTree [] none smallValidation).2.exitCode = 0 ∧
        (run smallTree [] none smallPlan).2.exitCode = 0 ∧
        (run smallTree [] none smallPlan).1 = smallTree ∧
        (run smallTree [] none smallArguments).2.exitCode = 0 ∧
        ∃ (artifacts : List Artifact) (status : Artifact → Status),
          artifacts.map Artifact.kind = ArtifactKind.all ∧
          (run smallTree [] none smallPlan).2.stdout =
            String.join (artifacts.map fun a => "would write" ++ " " ++ a.path.text ++ "\n") ∧
          (run smallTree [] none smallArguments).2.stdout =
            String.join (artifacts.map fun a =>
              (status a).text ++ " " ++ a.path.text ++ "\n")) ∧
      (run (.dir []) [] none smallValidation).2.exitCode = 1 ∧
      (run (.dir []) [] none smallPlan).2.exitCode = 1 ∧
      (run (.dir []) [] none smallArguments).2.exitCode = 1 ∧
      (run (.dir []) [] none smallArguments).2.complaint =
        (run (.dir []) [] none smallValidation).2.complaint := by
  have hvalidate : parseArguments smallValidation =
      .ok (.job ⟨.text, false, false⟩ ⟨⟨"/c.toml"⟩, none, .validate⟩) := by
    decide
  have hplan : parseArguments smallPlan =
      .ok (.job ⟨.text, false, false⟩ ⟨⟨"/c.toml"⟩, none, .generate ⟨"/out"⟩ true⟩) := by
    decide +kernel
  constructor
  · obtain ⟨hcodes, hsame, hfailed, hdone⟩ :=
      runs_agree smallTree [] none hvalidate hplan parseArguments_small
    -- the generation succeeds, which it would not after a failed validation
    have hgenerated := run_small.1
    have hvalidated : (run smallTree [] none smallValidation).2.exitCode = 0 := by
      refine hcodes.resolve_right fun hone => ?_
      rw [(hfailed hone).1] at hgenerated
      cases hgenerated
    obtain ⟨-, hplanned, dir, artifacts, hkinds, -, hlisted, hends⟩ := hdone hvalidated
    obtain ⟨status, -, -, hreport⟩ | ⟨rest, hone, -⟩ := hends
    · refine ⟨hvalidated, hsame.trans hvalidated, hplanned, hgenerated, artifacts, status,
        hkinds, ?_, ?_⟩
      · rw [hlisted, Settings.listing, textListing, List.map_map]
        rfl
      · rw [hreport, Settings.listing, textListing, List.map_map]
        rfl
    · rw [hgenerated] at hone
      cases hone
  · obtain ⟨-, hsame, hfailed, -⟩ :=
      runs_agree (.dir []) [] none hvalidate hplan parseArguments_small
    have hvalidated : (run (.dir []) [] none smallValidation).2.exitCode = 1 := by decide +kernel
    obtain ⟨hgenerated, ⟨message, hvalidation, -, hgeneration⟩, -⟩ := hfailed hvalidated
    exact ⟨hvalidated, hsame.trans hvalidated, hgenerated, hgeneration.trans hvalidation.symm⟩

end GrammarBindings.CommandLine
