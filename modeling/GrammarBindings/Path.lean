/-
  GrammarBindings.Path

  Paths as text.  A path keeps the characters it was written with; what it
  means lies in its components, the names between its slashes.
-/

namespace GrammarBindings

/-- A path, kept as the text it was written with. -/
structure Path where
  text : String
  deriving DecidableEq, Repr, Inhabited

/-! ## Components -/

/-- One step of a path. -/
inductive Component
  /-- The slash at the beginning of an absolute path. -/
  | root
  /-- A `.` at the beginning of a relative path. -/
  | here
  /-- A `..`. -/
  | up
  /-- A name to go down by. -/
  | name (s : String)
  deriving DecidableEq, Repr

namespace Component

/-- A component as it is written. -/
def text : Component → String
  | root => "/"
  | here => "."
  | up => ".."
  | name s => s

/-- The component that a piece between two slashes stands for: an empty piece
    and a `.` stand for none. -/
def ofPiece? (s : String) : Option Component :=
  if s = "" ∨ s = "." then none
  else if s = ".." then some up
  else some (name s)

/-- A component that goes down by a name. -/
def isName : Component → Bool
  | name _ => true
  | _ => false

end Component

namespace Path

/-- The pieces of the text between its slashes, empty ones included. -/
def pieces (p : Path) : List String :=
  (p.text.toList.splitOn '/').map String.ofList

/-- A path that starts at the root. -/
def isAbsolute (p : Path) : Bool := p.text.toList.head? == some '/'

/-- The components of a path.  Repeated and trailing slashes count for nothing,
    and so does a `.`, unless it begins a relative path. -/
def components (p : Path) : List Component :=
  match p.pieces with
  | [] => []
  | first :: rest =>
    let start :=
      if p.isAbsolute then [.root]
      else if first = "." then [.here]
      else (Component.ofPiece? first).toList
    start ++ rest.filterMap Component.ofPiece?

/-! ## Joining -/

/-- `q` read from the directory `p`: an absolute `q` takes the place of `p`,
    and a slash is put between the two unless `p` is empty or ends in one. -/
def join (p q : Path) : Path :=
  if q.isAbsolute then q
  else if p.text = "" ∨ p.text.toList.getLast? = some '/' then ⟨p.text ++ q.text⟩
  else ⟨p.text ++ "/" ++ q.text⟩

/-- The entry called `name` in the directory `p`. -/
def child (p : Path) (name : String) : Path := p.join ⟨name⟩

/-! ## The directory of a path -/

/-- A list of pieces without those at its end that stand for no component. -/
def trimPieces (ps : List String) : List String :=
  (ps.reverse.dropWhile fun s => s = "" ∨ s = ".").reverse

/-- The pieces that come before the names of a path, and those after. -/
def splitLead (p : Path) : List String × List String :=
  match p.pieces with
  | [] => ([], [])
  | first :: rest =>
    if p.isAbsolute ∨ first = "." then ([first], rest) else ([], first :: rest)

/-- A path without its last component: the text up to the component before it.
    The root and the empty path have no directory. -/
def parent? (p : Path) : Option Path :=
  let (lead, body) := p.splitLead
  match trimPieces body with
  | [] => if lead = ["."] then some ⟨""⟩ else none
  | kept =>
    let rest := trimPieces kept.dropLast
    if rest = [] ∧ p.isAbsolute then some ⟨"/"⟩
    else some ⟨"/".intercalate (lead ++ rest)⟩

/-- The path, its directory, the directory of that and so on, `fuel` of them at
    the most. -/
def ancestorsFrom : Nat → Path → List Path
  | 0, _ => []
  | fuel + 1, p => p :: (p.parent?.map (ancestorsFrom fuel)).getD []

/-- The path, its directory, the directory of that and so on. -/
def ancestors (p : Path) : List Path :=
  ancestorsFrom (p.pieces.length + 2) p

/-! ## Compact spelling -/

/-- The path with one slash between components and none behind them; `.` when
    it has no component. -/
def compact (p : Path) : Path :=
  match p.components with
  | [] => ⟨"."⟩
  | .root :: cs => ⟨"/" ++ "/".intercalate (cs.map Component.text)⟩
  | cs => ⟨"/".intercalate (cs.map Component.text)⟩

end Path

end GrammarBindings
