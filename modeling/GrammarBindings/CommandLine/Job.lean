/-
  GrammarBindings.CommandLine.Job

  Carrying out a command.  The configuration and the templates are loaded and
  checked before anything else; only a real generation changes the file tree.
-/
import GrammarBindings.Artifact
import GrammarBindings.CommandLine.Arguments
import GrammarBindings.Delivery
import GrammarBindings.Loading

namespace GrammarBindings.CommandLine

/-! ## Results -/

/-- Why a command fails. -/
inductive Failure
  | loading (e : LoadError)
  | fault (f : SpecFault)
  | delivery (f : Delivery.Failure)
  deriving DecidableEq, Repr

/-- A failure in words. -/
def Failure.message : Failure → String
  | loading e => e.message
  | fault f => f.message
  | delivery f => f.message

/-- What a command has to report. -/
inductive Report
  /-- The spec in a configuration file is valid. -/
  | valid (config : Path) (spec : ValidSpec)
  /-- The files that would be written below a directory. -/
  | planned (dir : Path) (artifacts : List Artifact)
  /-- The files below a directory and what became of them. -/
  | delivered (dir : Path) (artifacts : List Artifact)
      (statuses : List (Path × Delivery.Status))

/-- What is left to do after loading and generating. -/
inductive Work
  /-- Nothing but a report. -/
  | report (r : Report)
  /-- The files have to be put in their places below a directory. -/
  | deliver (dir : Path) (artifacts : List Artifact)

/-! ## Loading -/

/-- A spec and the templates for it. -/
structure Prepared where
  spec : ValidSpec
  templates : TemplateCollection

/-- The spec and the templates of a job, and what happened on the way.  The spec
    is checked before any template is read. -/
def Job.prepare (read : Reader) (cwd : Path) (job : Job) :
    List Event × Except Failure Prepared :=
  let config := Path.absolute cwd job.config
  match read.spec config with
  | .error e => ([], .error (.loading e))
  | .ok spec =>
    let loaded := [Event.configLoaded config spec.grammar]
    match spec.check with
    | .error fault => (loaded, .error (.fault fault))
    | .ok valid =>
      match read.templates job.templates with
      | .error e => (loaded, .error (.loading e))
      | .ok templates =>
        let warnings := if job.templates.isSome then templates.warnings else []
        (loaded ++ warnings, .ok ⟨valid, templates⟩)

/-! ## Generating -/

/-- The events of a generation. -/
def generationEvents (grammar : String) (artifacts : List Artifact) : List Event :=
  artifacts.map (fun a => .rendered grammar a.kind a.path a.contents.utf8ByteSize) ++
    [.generated grammar artifacts.length]

/-- What is left to do for an action, and what happened on the way. -/
def Action.work (cwd : Path) (config : Path) (p : Prepared) : Action → List Event × Work
  | validate => ([], .report (.valid config p.spec))
  | generate out dryRun =>
    let dir := Path.absolute cwd out
    let artifacts := GrammarBindings.generate p.spec p.templates ⟨dir⟩
    let events := generationEvents p.spec.spec.grammar artifacts
    if dryRun then
      (events ++ [.nothingWritten artifacts.length], .report (.planned dir artifacts))
    else (events, .deliver dir artifacts)

/-- What is left to do for a job, and what happened on the way. -/
def Job.work (read : Reader) (cwd : Path) (job : Job) : List Event × Except Failure Work :=
  match job.prepare read cwd with
  | (events, .error e) => (events, .error e)
  | (events, .ok p) =>
    let (more, work) := job.action.work cwd job.config p
    (events ++ more, .ok work)

/-! ## What a job reads -/

/-- The paths of the files that a job reads, apart from the generated ones. -/
def Job.inputs (cwd : Path) (job : Job) : List Path :=
  Path.absolute cwd job.config :: Reader.templatePaths job.templates

/-- Nothing but the files that a job reads decides what is left to do for it. -/
theorem Job.work_congr {read other : Reader} {cwd : Path} {job : Job}
    (h : ∀ path ∈ job.inputs cwd, read path = other path) :
    job.work read cwd = job.work other cwd := by
  have hspec := Reader.spec_congr (h _ List.mem_cons_self)
  have htemplates := Reader.templates_congr fun path hp => h path (List.mem_cons_of_mem _ hp)
  simp only [Job.work, Job.prepare, hspec, htemplates]

/-! ## Carrying out -/

/-- The result of a delivery as that of a command. -/
def deliveryReport (dir : Path) (artifacts : List Artifact) :
    Except Delivery.Failure (List (Path × Delivery.Status)) → Except Failure Report
  | .ok statuses => .ok (.delivered dir artifacts statuses)
  | .error f => .error (.delivery f)

/-- A command that was carried out: the tree after it, what happened, and the
    report or failure. -/
structure Finished where
  tree : FileTree
  events : List Event
  result : Except Failure Report

/-- Carries out a job in a working directory. -/
def Job.perform (t : FileTree) (cwd : Location) (job : Job) : Finished :=
  match job.work (t.read cwd) cwd.toPath with
  | (events, .error e) => ⟨t, events, .error e⟩
  | (events, .ok (.report r)) => ⟨t, events, .ok r⟩
  | (events, .ok (.deliver dir artifacts)) =>
    let d := Delivery.deliver t cwd dir (artifacts.map Artifact.toTextFile)
    ⟨d.tree, events ++ d.events, deliveryReport dir artifacts d.result⟩

end GrammarBindings.CommandLine
