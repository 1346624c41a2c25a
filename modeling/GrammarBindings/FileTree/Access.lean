/-
  GrammarBindings.FileTree.Access

  File operations on a tree, as a process with a working directory sees them: a
  path is followed step by step, every step starts from a directory that is
  there, and each way to fail has its cause.
-/
import GrammarBindings.FileTree
import GrammarBindings.Path

namespace GrammarBindings

/-! ## Causes of failure -/

/-- Why a file operation fails. -/
inductive FileError
  | notFound
  | notADirectory
  | isADirectory
  | alreadyExists
  /-- A directory that is to be replaced has something in it. -/
  | notEmpty
  /-- A path that ends in no name. -/
  | busy
  /-- A path that holds the character NUL. -/
  | invalidPath
  /-- A path, or a name in it, that has more bytes than are allowed. -/
  | nameTooLong
  /-- A file that is to be read as text is no UTF-8. -/
  | notText
  /-- A cause outside a tree, such as a lack of rights or of room.  A tree knows of neither,
      so operations on it give every cause but this one. -/
  | refused (reason : String)
  deriving DecidableEq, Repr

/-- A cause in words. -/
def FileError.message : FileError → String
  | notFound => "No such file or directory (os error 2)"
  | notADirectory => "Not a directory (os error 20)"
  | isADirectory => "Is a directory (os error 21)"
  | alreadyExists => "File exists (os error 17)"
  | notEmpty => "Directory not empty (os error 39)"
  | busy => "Device or resource busy (os error 16)"
  | invalidPath => "file name contained an unexpected NUL byte"
  | nameTooLong => "File name too long (os error 36)"
  | notText => "stream did not contain valid UTF-8"
  | refused reason => reason

/-- The path of a place. -/
def Location.toPath (l : Location) : Path := ⟨"/" ++ "/".intercalate l⟩

/-! ## Limits -/

/-- How many bytes a name may have. -/
def maxNameBytes : Nat := 255

/-- How many bytes a path may have. -/
def maxPathBytes : Nat := 4095

/-- Whether a name may stand in a directory, as far as its length goes. -/
def nameFits (name : String) : Bool := name.utf8ByteSize ≤ maxNameBytes

/-- Whether a path may be given to a file operation, as far as its length goes. -/
def Path.fits (p : Path) : Bool := p.text.utf8ByteSize ≤ maxPathBytes

namespace FileTree

/-! ## Following a path -/

/-- The place that one piece of a path leads to. -/
def stepFrom (l : Location) (piece : String) : Location :=
  if piece = "" ∨ piece = "." then l
  else if piece = ".." then l.dropLast
  else l ++ [piece]

/-- The place that is reached by following pieces one by one.  Every step starts
    from a directory; the last may lead to where there is nothing. -/
def walk (t : FileTree) : Location → List String → Except FileError Location
  | l, [] => .ok l
  | l, piece :: pieces =>
    match t.lookup l with
    | none => .error .notFound
    | some (file _) => .error .notADirectory
    | some (dir _) =>
      if nameFits piece then t.walk (stepFrom l piece) pieces else .error .nameTooLong

/-- The place where a path starts. -/
def origin (cwd : Location) (p : Path) : Location := if p.isAbsolute then [] else cwd

/-- Refuses the paths that name no place at all. -/
def checkPath (p : Path) : Except FileError Unit :=
  if '\x00' ∈ p.text.toList then .error .invalidPath
  else if p.text = "" then .error .notFound
  else if p.fits then .ok ()
  else .error .nameTooLong

/-- The place of a path. -/
def resolve (t : FileTree) (cwd : Location) (p : Path) : Except FileError Location := do
  checkPath p
  t.walk (origin cwd p) p.pieces

/-! ## Looking -/

/-- What a path leads to. -/
def open? (t : FileTree) (cwd : Location) (p : Path) : Except FileError FileTree := do
  match t.lookup (← t.resolve cwd p) with
  | some node => return node
  | none => throw .notFound

/-- Whether a path leads to a directory. -/
def isDir (t : FileTree) (cwd : Location) (p : Path) : Bool :=
  match t.open? cwd p with
  | .ok (dir _) => true
  | _ => false

/-- The bytes of the file that a path leads to. -/
def read (t : FileTree) (cwd : Location) (p : Path) : Except FileError ByteArray := do
  match ← t.open? cwd p with
  | file contents => return contents
  | dir _ => throw .isADirectory

/-! ## The place for a new entry -/

/-- The place that a path gives to a new entry. -/
structure Slot where
  /-- The directory, which is there. -/
  parent : Location
  /-- The last piece of the path; empty for the root. -/
  last : String
  /-- Whether slashes follow the last piece. -/
  slash : Bool

/-- The place that a path gives to a new entry. -/
def slot (t : FileTree) (cwd : Location) (p : Path) : Except FileError Slot := do
  checkPath p
  let kept := (p.pieces.reverse.dropWhile (· = "")).reverse
  let slash := kept.length < p.pieces.length
  let parent ← t.walk (origin cwd p) kept.dropLast
  match t.lookup parent with
  | none => throw .notFound
  | some (file _) => throw .notADirectory
  | some (dir _) =>
    let last := kept.getLastD ""
    if nameFits last then return ⟨parent, last, slash⟩ else throw .nameTooLong

/-- The place of a slot; `none` if its last piece is no name. -/
def Slot.location? (s : Slot) : Option Location :=
  if s.last = "" ∨ s.last = "." ∨ s.last = ".." then none else some (s.parent ++ [s.last])

/-! ## Changing the tree -/

/-- A tree after an operation, and why the operation failed if it did.  What was
    done before the failure stays done. -/
abbrev Attempt := FileTree × Option FileError

/-- Makes one directory. -/
def makeDir (t : FileTree) (cwd : Location) (p : Path) : Except FileError FileTree := do
  match (← t.slot cwd p).location? with
  | none => throw .alreadyExists
  | some l =>
    match t.lookup l with
    | some _ => throw .alreadyExists
    | none => return insert (dir []) l t

/-- Makes a directory if there is none yet. -/
def ensureDir (t : FileTree) (cwd : Location) (p : Path) : Attempt :=
  match t.makeDir cwd p with
  | .ok t => (t, none)
  | .error e => if t.isDir cwd p then (t, none) else (t, some e)

/-- Makes the first of some directories, of which each is the directory of the
    one before it, and those of the others that are missing. -/
def ensureChain (t : FileTree) (cwd : Location) : List Path → Attempt
  | [] => (t, some .notFound)
  | p :: ps =>
    if p.text = "" then (t, none)
    else
      match t.makeDir cwd p with
      | .error .notFound =>
        match t.ensureChain cwd ps with
        | (t, none) => t.ensureDir cwd p
        | failed => failed
      | _ => t.ensureDir cwd p

/-- Makes a directory and those above it that are missing. -/
def makeDirs (t : FileTree) (cwd : Location) (p : Path) : Attempt :=
  t.ensureChain cwd p.ancestors

/-- Moves the file at a place to where a path leads, and over the file there if
    there is one. -/
def moveFile (t : FileTree) (cwd : Location) (source : Location) (p : Path) :
    Except FileError FileTree := do
  let s ← t.slot cwd p
  match s.location? with
  | none => throw .busy
  | some l =>
    match t.fileAt? source with
    | none => throw .notFound
    | some contents =>
      if s.slash then throw .notADirectory
      else if l.isPrefixOf source ∧ l ≠ source then throw .notEmpty
      else if t.hasDir l then throw .isADirectory
      else return insert (file contents) l (erase source t)

end FileTree

end GrammarBindings
