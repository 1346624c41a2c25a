/-
  GrammarBindings.Delivery

  Putting files in their places below an output directory.  All files that have
  to change are first written into a staging directory next to them, then the
  directories that they need are made, and only then is each moved to its place.
  Whatever fails, the staging directory is removed in the end.
-/
import GrammarBindings.FileTree.Access
import GrammarBindings.Log
import GrammarBindings.Path.Route
import GrammarBindings.TextFile

namespace GrammarBindings

namespace Delivery

/-! ## Outcomes -/

/-- What becomes of a file. -/
inductive Status
  | written
  | unchanged
  deriving DecidableEq, Repr

/-- A status in words. -/
def Status.text : Status → String
  | written => "written"
  | unchanged => "unchanged"

/-- Why a delivery fails. -/
inductive Cause
  /-- A file has its place outside the output directory. -/
  | outside (root : Path)
  /-- A file operation fails. -/
  | operation (e : FileError)
  deriving DecidableEq, Repr

/-- A cause in words. -/
def Cause.message : Cause → String
  | outside root => "outside the output directory '" ++ root.text ++ "'"
  | operation e => e.message

/-- A failed delivery: the path that could not be served, and why. -/
structure Failure where
  path : Path
  cause : Cause
  deriving DecidableEq, Repr

/-- A failure in words. -/
def Failure.message (f : Failure) : String :=
  "failed to write '" ++ f.path.text ++ "': " ++ f.cause.message

/-! ## The staging directory -/

/-- The staging directory: the path by which it is reached, and its place. -/
structure Staging where
  path : Path
  place : Location

namespace Staging

/-- The path of the file with a number. -/
def filePath (s : Staging) (index : Nat) : Path := s.path.child (toString index)

/-- The place of the file with a number. -/
def filePlace (s : Staging) (index : Nat) : Location := s.place ++ [toString index]

end Staging

/-! ## Steps -/

/-- One step of a delivery.  In the staging directory every file has its number
    in the list of files for a name. -/
inductive Step
  /-- A file that holds its text already is left alone. -/
  | keep (path : Path)
  /-- A file is written into the staging directory. -/
  | stage (index : Nat) (file : TextFile)
  /-- A directory and those above it that are missing are made. -/
  | makeDirs (path : Path)
  /-- A staged file is moved to its place. -/
  | move (index : Nat) (path : Path)
  deriving DecidableEq, Repr

namespace Step

/-- The path that is named if a step fails. -/
def subject : Step → Path
  | keep path => path
  | stage _ file => file.path
  | makeDirs path => path
  | move _ path => path

/-- What there is to tell about a step that was done. -/
def event? : Step → Option Event
  | keep path => some (.unchanged path)
  | move _ path => some (.written path)
  | _ => none

/-- The tree after a step. -/
def perform (cwd : Location) (staging : Staging) (t : FileTree) : Step → FileTree.Attempt
  | keep _ => (t, none)
  | stage index file =>
    if (staging.filePath index).fits then
      (FileTree.insert (.file file.contents.toUTF8) (staging.filePlace index) t, none)
    else (t, some .nameTooLong)
  | makeDirs path => t.makeDirs cwd path
  | move index path =>
    match t.moveFile cwd (staging.filePlace index) path with
    | .ok moved => (moved, none)
    | .error e => (t, some e)

end Step

/-- How far steps have come: the tree, the steps that were done, and the failure
    that ended them. -/
structure Progress where
  tree : FileTree
  done : List Step
  failure : Option Failure

/-- Performs steps one after the other until one fails. -/
def performAll (cwd : Location) (staging : Staging) (t : FileTree) : List Step → Progress
  | [] => ⟨t, [], none⟩
  | step :: steps =>
    match step.perform cwd staging t with
    | (t, some e) => ⟨t, [], some ⟨step.subject, .operation e⟩⟩
    | (t, none) =>
      let rest := performAll cwd staging t steps
      { rest with done := step :: rest.done }

/-- The files that do not hold their texts yet, each with its number. -/
def staleFiles (current : TextFile → Bool) (files : List TextFile) : List (TextFile × Nat) :=
  files.zipIdx.filter fun e => !current e.1

/-- The steps that bring files to their places, given those that hold their texts
    already: no file is moved before all are staged and all directories are
    there. -/
def plan (current : TextFile → Bool) (files : List TextFile) : List Step :=
  let stale := staleFiles current files
  files.zipIdx.map (fun e => if current e.1 then .keep e.1.path else .stage e.2 e.1) ++
  stale.filterMap (fun e => e.1.path.parent?.map .makeDirs) ++
  stale.map (fun e => .move e.2 e.1.path)

/-! ## The name of the staging directory -/

/-- The beginning of the staging directory's name. -/
def stagingStem : String := ".ktreesitter-"

/-- A name for the staging directory, told from others by its length. -/
def stagingName (k : Nat) : String :=
  stagingStem ++ String.ofList (List.replicate k 'x')

/-- The length of the longest text of a list. -/
def longest (names : List String) : Nat :=
  names.foldr (fun name n => max name.length n) 0

theorem length_le_longest {name : String} {names : List String} (h : name ∈ names) :
    name.length ≤ longest names := by
  induction names with
  | nil => cases h
  | cons first rest ih =>
    simp only [longest, List.foldr_cons]
    cases h with
    | head => exact Nat.le_max_left _ _
    | tail _ hr => exact Nat.le_trans (ih hr) (Nat.le_max_right _ _)

theorem length_stagingName (k : Nat) : (stagingName k).length = stagingStem.length + k := by
  rw [stagingName, String.length_append, String.length_ofList, List.length_replicate]

/-- The first name from a length on, of at most so many, that is not among the
    given ones. -/
def freshNameFrom (names : List String) : Nat → Nat → String
  | 0, k => stagingName k
  | tries + 1, k =>
    if stagingName k ∈ names then freshNameFrom names tries (k + 1) else stagingName k

/-- A name for the staging directory that is not among the given ones: six
    characters follow the stem, or as many more as it takes. -/
def freshName (names : List String) : String := freshNameFrom names (longest names) 6

theorem freshNameFrom_notMem {names : List String} {tries k : Nat}
    (h : longest names ≤ tries + k) : freshNameFrom names tries k ∉ names := by
  induction tries generalizing k with
  | zero =>
    intro hmem
    have hlen := length_le_longest hmem
    rw [freshNameFrom, length_stagingName] at hlen
    have hstem : 0 < stagingStem.length := by decide
    omega
  | succ tries ih =>
    rw [freshNameFrom]
    split
    · exact ih (by omega)
    · assumption

theorem freshName_notMem (names : List String) : freshName names ∉ names :=
  freshNameFrom_notMem (Nat.le_add_right _ _)

/-- The names in the directory at a place. -/
def namesIn (t : FileTree) (l : Location) : List String :=
  match t.lookup l with
  | some (.dir entries) => entries.map Prod.fst
  | _ => []

/-- The place of the output directory; the empty path stands for the working
    directory. -/
def home (t : FileTree) (cwd : Location) (root : Path) : Except FileError Location :=
  if root.text = "" then if t.hasDir cwd then .ok cwd else .error .notFound
  else t.resolve cwd root

/-- The staging directory in the output directory at a place.  Its name differs
    from those that are there and from all names in the paths of the files. -/
def stagingIn (t : FileTree) (cwd : Location) (root : Path) (place : Location)
    (files : List TextFile) : Staging :=
  let name := freshName (namesIn t place ++ files.flatMap fun file => file.path.pieces)
  { path := (cwd.toPath.join root).child name, place := place ++ [name] }

/-! ## Delivering -/

/-- Whether a file holds its text already. -/
def isCurrent (t : FileTree) (cwd : Location) (file : TextFile) : Bool :=
  match t.read cwd file.path with
  | .ok bytes => file.agreesWith bytes
  | .error _ => false

/-- The first file that has its place outside the output directory. -/
def stray? (root : Path) (files : List TextFile) : Option TextFile :=
  files.find? fun file => !file.path.isWithin root

/-- What becomes of each file, given those that hold their texts already. -/
def statuses (current : TextFile → Bool) (files : List TextFile) : List (Path × Status) :=
  files.map fun file => (file.path, if current file then .unchanged else .written)

end Delivery

/-- A delivery: the tree after it, what happened, and what became of the files. -/
structure Delivery where
  tree : FileTree
  events : List Event
  result : Except Delivery.Failure (List (Path × Delivery.Status))

namespace Delivery

/-- A delivery that fails before anything happens to the files. -/
def failed (t : FileTree) (path : Path) (cause : Cause) : Delivery :=
  ⟨t, [], .error ⟨path, cause⟩⟩

/-- What became of the files, given those that held their texts already and the
    failure of a step if one failed. -/
def resultOf (current : TextFile → Bool) (files : List TextFile) :
    Option Failure → Except Failure (List (Path × Status))
  | some failure => .error failure
  | none => .ok (statuses current files)

/-- Puts files in their places through a staging directory that is not there yet. -/
def deliverThrough (t : FileTree) (cwd : Location) (staging : Staging)
    (files : List TextFile) : Delivery :=
  let t := FileTree.insert (.dir []) staging.place t
  let current := isCurrent t cwd
  let progress := performAll cwd staging t (plan current files)
  { tree := FileTree.erase staging.place progress.tree
    events := progress.done.filterMap Step.event?
    result := resultOf current files progress.failure }

/-- Puts files in their places, all of which have to lie in the output directory
    `root`. -/
def deliver (t : FileTree) (cwd : Location) (root : Path) (files : List TextFile) : Delivery :=
  match stray? root files with
  | some file => failed t file.path (.outside root)
  | none =>
    match t.makeDirs cwd root with
    | (t, some e) => failed t root (.operation e)
    | (t, none) =>
      match home t cwd root with
      | .error e => failed t root (.operation e)
      | .ok place =>
        let staging := stagingIn t cwd root place files
        if staging.path.fits then deliverThrough t cwd staging files
        else failed t root (.operation .nameTooLong)

end Delivery

end GrammarBindings
