/-
  GrammarBindings.Path.Route

  Where a path leads, read from its text alone: `.` is dropped and `..` takes
  back the name before it.  The normal spelling of a path, containment of one
  path in another and the relative path between two are read off from that.
-/
import GrammarBindings.Path

namespace GrammarBindings

/-! ## Routes -/

/-- Where a route begins. -/
inductive Anchor
  /-- At the root, above which nothing lies. -/
  | root
  /-- A number of directories above the place where the path is read. -/
  | above (climbs : Nat)
  deriving DecidableEq, Repr

/-- Where a path leads: from its anchor down by names. -/
structure Route where
  anchor : Anchor
  names : List String
  deriving DecidableEq, Repr

namespace Route

/-- The place where a relative path is read. -/
def start : Route := ⟨.above 0, []⟩

/-- The parent directory: the last name is taken back; with no name left the
    route climbs, and at the root it stays. -/
def climb (r : Route) : Route :=
  if r.names = [] then
    match r.anchor with
    | .root => r
    | .above k => ⟨.above (k + 1), []⟩
  else { r with names := r.names.dropLast }

/-- A route continued by one component. -/
def step (r : Route) : Component → Route
  | .root => ⟨.root, []⟩
  | .here => r
  | .up => r.climb
  | .name s => { r with names := r.names ++ [s] }

/-- The shortest components that lead the same way. -/
def components (r : Route) : List Component :=
  (match r.anchor with
    | .root => [.root]
    | .above k => List.replicate k .up) ++ r.names.map .name

/-- A route spelled with single slashes. -/
def toPath (r : Route) : Path :=
  match r.anchor with
  | .root => ⟨"/" ++ "/".intercalate r.names⟩
  | .above k => ⟨"/".intercalate (List.replicate k ".." ++ r.names)⟩

/-- A route that begins at the root. -/
def isRooted (r : Route) : Bool := r.anchor == .root

end Route

/-! ## Drop what two lists share -/

/-- Two lists without the beginning that they share. -/
def dropShared {α : Type} [DecidableEq α] : List α → List α → List α × List α
  | a :: as, b :: bs => if a = b then dropShared as bs else (a :: as, b :: bs)
  | as, bs => (as, bs)

namespace Path

/-! ## Normal form -/

/-- Where a path leads. -/
def route (p : Path) : Route := p.components.foldl Route.step Route.start

/-- The normal spelling of a path: no `.`, no repeated or trailing slash, and
    `..` only in front of a relative path. -/
def normalize (p : Path) : Path := p.route.toPath

/-- A path read from the working directory `cwd`, in normal spelling. -/
def absolute (cwd p : Path) : Path :=
  if p.isAbsolute then p.normalize else (cwd.join p).normalize

/-! ## Containment -/

/-- `p` is `dir` or lies below it, as far as their texts tell: the components
    of the one's normal form begin those of the other's. -/
def isWithin (p dir : Path) : Bool :=
  dir.route.components.isPrefixOf p.route.components

/-! ## Relative paths -/

/-- The path that leads from the directory `base` to `target`: up from `base` as
    far as the two differ, then down to `target`; `.` if there is nowhere to go.
    When the texts name no such path, because one begins at the root and the
    other does not or because `base` climbs higher than `target`, the result is
    `target` in normal spelling. -/
def relativeTo (target base : Path) : Path :=
  let fallback := target.normalize.compact
  if base.route.isRooted ≠ target.route.isRooted then fallback
  else
    let (back, forth) := dropShared base.route.components target.route.components
    if back.all Component.isName then
      let steps := back.map (fun _ => "..") ++ forth.map Component.text
      if steps = [] then ⟨"."⟩ else ⟨"/".intercalate steps⟩
    else fallback

end Path

end GrammarBindings
