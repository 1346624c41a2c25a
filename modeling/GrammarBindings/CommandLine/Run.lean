/-
  GrammarBindings.CommandLine.Run

  A run of the program on a file tree: from the arguments to what is printed and
  the exit code.
-/
import GrammarBindings.CommandLine.Report

namespace GrammarBindings.CommandLine

/-! ## Outcomes -/

/-- What is said about a run that does not succeed. -/
inductive Complaint
  /-- The arguments cannot be used. -/
  | misuse (m : Misuse)
  /-- The command failed. -/
  | failure (format : Format) (message : String)
  deriving DecidableEq, Repr

/-- A complaint as a line of text. -/
def Complaint.line : Complaint → String
  | misuse m => "error: " ++ m.message
  | failure .text message => message
  | failure .json message => (Json.sorted [("error", .text message)]).compact

/-- What a run leaves besides files: the exit code, the text on standard output,
    and the complaint and log lines on standard error. -/
structure Outcome where
  exitCode : Nat
  stdout : String
  complaint : Option Complaint
  log : List String
  deriving DecidableEq, Repr

/-- The name and version of the program. -/
def versionLine : String := "ktreesitter 0.1.0\n"

/-- The outcome when the version is asked for. -/
def versionOutcome : Outcome := ⟨0, versionLine, none, []⟩

/-- The outcome of arguments that cannot be used. -/
def misuseOutcome (m : Misuse) : Outcome := ⟨2, "", some (.misuse m), []⟩

/-- The threshold of the log: the one asked for in the environment, or the one
    that the settings stand for. -/
def Settings.threshold (s : Settings) (filter : Option String) : Threshold :=
  match filter with
  | some text => .ofText text
  | none => if s.quiet then some .error else if s.verbose then some .info else some .warn

/-- The outcome of a command with its events.  A quiet run neither reports nor
    complains. -/
def jobOutcome (s : Settings) (filter : Option String) (events : List Event)
    (result : Except Failure Report) : Outcome :=
  let log := logLines (s.threshold filter) events
  match result with
  | .ok report => ⟨0, if s.quiet then "" else report.print s.format, none, log⟩
  | .error e =>
    ⟨1, "", if s.quiet then none else some (.failure s.format ("error: " ++ e.message)), log⟩

/-! ## Running -/

/-- Runs the program on a tree in a working directory. -/
def run (t : FileTree) (cwd : Location) (filter : Option String) (arguments : List String) :
    FileTree × Outcome :=
  match parseArguments arguments with
  | .error m => (t, misuseOutcome m)
  | .ok .version => (t, versionOutcome)
  | .ok (.job settings job) =>
    let finished := job.perform t cwd
    (finished.tree, jobOutcome settings filter finished.events finished.result)

end GrammarBindings.CommandLine
