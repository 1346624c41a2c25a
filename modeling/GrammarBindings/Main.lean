/-
  GrammarBindings.Main

  The program on the file system.  What is read, decided and reported is settled
  elsewhere; here files are read and written, and lines are printed.
-/
import GrammarBindings.CommandLine.Run

namespace GrammarBindings.Disk

open CommandLine

/-! ## File operations -/

/-- The cause of a failed file operation. -/
def causeOf : IO.Error → FileError
  | .noFileOrDirectory _ _ _ => .notFound
  | .alreadyExists _ _ _ => .alreadyExists
  | e => .refused (toString e)

/-- The result of a file operation, or the cause of its failure. -/
def attempt {α : Type} (operation : IO α) : IO (Except FileError α) := do
  match ← operation.toBaseIO with
  | .ok a => return .ok a
  | .error e => return .error (causeOf e)

/-- The bytes of a file. -/
def read (path : Path) : IO (Except FileError ByteArray) :=
  attempt (IO.FS.readBinFile path.text)

/-- Makes a directory and those above it that are missing. -/
def makeDirs (path : Path) : IO Unit :=
  if path.text = "" then pure () else IO.FS.createDirAll path.text

/-- A reader that knows the files under some paths as they are now. -/
def readerOf (paths : List Path) : IO Reader := do
  let known ← paths.mapM fun path => return (path, ← read path)
  return fun path => (known.lookup path).getD (.error .notFound)

/-! ## Delivering -/

/-- Performs a step with the staging directory at a path. -/
def perform (staging : Path) : Delivery.Step → IO Unit
  | .keep _ => pure ()
  | .stage index file =>
    IO.FS.writeBinFile (staging.child (toString index)).text file.contents.toUTF8
  | .makeDirs path => makeDirs path
  | .move index path => IO.FS.rename (staging.child (toString index)).text path.text

/-- Performs steps one after the other until one fails: the steps that were done,
    and the failure. -/
def performAll (staging : Path) :
    List Delivery.Step → IO (List Delivery.Step × Option Delivery.Failure)
  | [] => return ([], none)
  | step :: steps => do
    match ← attempt (perform staging step) with
    | .error e => return ([], some ⟨step.subject, .operation e⟩)
    | .ok _ =>
      let (done, failure) ← performAll staging steps
      return (step :: done, failure)

/-- Whether a file holds its text already. -/
def isCurrent (file : TextFile) : IO Bool := do
  match ← read file.path with
  | .ok bytes => return file.agreesWith bytes
  | .error _ => return false

/-- Makes a staging directory in a directory. -/
def makeStaging (root : Path) : IO Path := do
  let number ← IO.rand 0 999999999
  let staging := root.child (Delivery.stagingStem ++ toString number)
  IO.FS.createDir staging.text
  return staging

/-- The events and the result of a delivery. -/
abbrev Delivered := List Event × Except Delivery.Failure (List (Path × Delivery.Status))

/-- A delivery that fails before anything happens to the files. -/
def failed (path : Path) (cause : Delivery.Cause) : Delivered := ([], .error ⟨path, cause⟩)

/-- Puts files in their places, all of which have to lie in the directory `root`. -/
def deliver (root : Path) (files : List TextFile) : IO Delivered := do
  match Delivery.stray? root files with
  | some file => return failed file.path (.outside root)
  | none =>
    match ← attempt (do makeDirs root; makeStaging root) with
    | .error e => return failed root (.operation e)
    | .ok staging =>
      let present ← files.filterM isCurrent
      let current := fun file => present.contains file
      let (done, failure) ← performAll staging (Delivery.plan current files)
      IO.FS.removeDirAll staging.text
      return (done.filterMap Delivery.Step.event?, Delivery.resultOf current files failure)

/-! ## Running -/

/-- Carries out a job. -/
def carryOut (cwd : Path) (job : Job) : IO (List Event × Except Failure Report) := do
  let reader ← readerOf (job.inputs cwd)
  match job.work reader cwd with
  | (events, .error e) => return (events, .error e)
  | (events, .ok (.report r)) => return (events, .ok r)
  | (events, .ok (.deliver dir artifacts)) =>
    let (more, result) ← deliver dir (artifacts.map Artifact.toTextFile)
    return (events ++ more, deliveryReport dir artifacts result)

/-- The outcome of a run with some arguments. -/
def outcome (arguments : List String) : IO Outcome := do
  match parseArguments arguments with
  | .error m => return misuseOutcome m
  | .ok .version => return versionOutcome
  | .ok (.job settings job) =>
    let cwd : Path := ⟨(← IO.currentDir).toString⟩
    let (events, result) ← carryOut cwd job
    return jobOutcome settings (← IO.getEnv "RUST_LOG") events result

end GrammarBindings.Disk

/-- Runs the program: log lines and complaints go to standard error, reports to
    standard output. -/
def main (arguments : List String) : IO UInt32 := do
  let outcome ← GrammarBindings.Disk.outcome arguments
  for line in outcome.log do IO.eprintln line
  for complaint in outcome.complaint do IO.eprintln complaint.line
  IO.print outcome.stdout
  return UInt32.ofNat outcome.exitCode
