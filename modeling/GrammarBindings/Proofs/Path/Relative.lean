/-
  GrammarBindings.Proofs.Path.Relative

  A relative path leads from its base to its target.  The components of the two
  share a beginning; what follows it on the way to the base is climbed back, what
  follows it on the way to the target is walked down.

    * `Component.IsMove` — a `..` or a name: what a relative path is made of.
    * `Path.ofMoves` — moves spelled with slashes between them.
    * `Path.Related` — there is a relative path from the one to the other, as there
      always is between absolute paths (`related_of_isAbsolute`).
    * `Path.LeadsTo` — a relative path leads from a directory to a target.
    * `leadsTo_relativeTo` — the relative path of related paths does.
-/
import GrammarBindings.Proofs.Path.Join

namespace GrammarBindings

/-! ## What two lists share -/

/-- `dropShared` takes the same beginning away from both lists. -/
theorem exists_append_dropShared {α : Type} [DecidableEq α] (as bs : List α) :
    ∃ shared, as = shared ++ (dropShared as bs).1 ∧ bs = shared ++ (dropShared as bs).2 := by
  induction as generalizing bs with
  | nil => exact ⟨[], by simp [dropShared], by simp [dropShared]⟩
  | cons a as ih =>
    cases bs with
    | nil => exact ⟨[], by simp [dropShared], by simp [dropShared]⟩
    | cons b bs =>
      by_cases hab : a = b
      · obtain ⟨shared, has, hbs⟩ := ih bs
        rw [dropShared, if_pos hab]
        refine ⟨a :: shared, ?_, ?_⟩
        · rw [List.cons_append, ← has]
        · rw [List.cons_append, ← hbs, hab]
      · rw [dropShared, if_neg hab]
        exact ⟨[], rfl, rfl⟩

theorem dropShared_cons_self {α : Type} [DecidableEq α] (a : α) (as bs : List α) :
    dropShared (a :: as) (a :: bs) = dropShared as bs := by
  rw [dropShared, if_pos rfl]

theorem dropShared_append {α : Type} [DecidableEq α] (shared as bs : List α) :
    dropShared (shared ++ as) (shared ++ bs) = dropShared as bs := by
  induction shared with
  | nil => rfl
  | cons a shared ih => rw [List.cons_append, List.cons_append, dropShared_cons_self, ih]

theorem dropShared_append_self {α : Type} [DecidableEq α] (shared bs : List α) :
    dropShared shared (shared ++ bs) = ([], bs) := by
  have happend := dropShared_append shared [] bs
  rw [List.append_nil] at happend
  rw [happend]
  cases bs <;> rfl

/-! ## Moves -/

namespace Component

/-- A component that leads on from any place: a `..`, or the name of an entry. -/
def IsMove : Component → Prop
  | root | here => False
  | up => True
  | name s => IsName s

theorem ofPiece?_text {c : Component} (hc : c.IsMove) : ofPiece? c.text = some c := by
  cases c with
  | root | here => exact hc.elim
  | up => rfl
  | name s => exact Path.ofPiece?_of_isName hc

theorem no_slash_text {c : Component} (hc : c.IsMove) : '/' ∉ c.text.toList := by
  cases c with
  | root | here => exact hc.elim
  | up => decide
  | name s => exact hc.no_slash

end Component

open Component

namespace Route

/-- The components of a route lead along it. -/
theorem foldl_components (r : Route) : r.components.foldl step start = r := by
  -- there is no name to take back yet, so every `..` counts
  have hclimb : ∀ k, (List.replicate k up).foldl step start = ⟨.above k, []⟩ := by
    intro k
    induction k with
    | zero => rfl
    | succ k ih =>
      rw [List.replicate_succ', List.foldl_append, ih]
      rfl
  obtain ⟨anchor, names⟩ := r
  cases anchor with
  | root =>
    simp only [components, List.foldl_append, Location.foldl_step_names]
    rfl
  | above k =>
    simp only [components, List.foldl_append, Location.foldl_step_names, hclimb, List.nil_append]

/-- Behind the root a route is made of moves. -/
theorem isMove_of_mem_components {r : Route} (hr : Location.Proper r.names) {c : Component}
    (hc : c ∈ r.components) (hroot : c ≠ .root) : c.IsMove := by
  rw [components, List.mem_append, List.mem_map] at hc
  rcases hc with hc | ⟨s, hs, rfl⟩
  · cases hanchor : r.anchor with
    | root =>
      rw [hanchor] at hc
      exact absurd (List.mem_singleton.1 hc) hroot
    | above k =>
      rw [hanchor] at hc
      rw [List.eq_of_mem_replicate hc]
      trivial
  · exact hr s hs

/-- As many `..` as names lead back to where the names began. -/
theorem foldl_back {back : List Component} (hback : back.all isName = true) (r : Route) :
    (back.map fun _ => up).foldl step (back.foldl step r) = r := by
  induction back generalizing r with
  | nil => rfl
  | cons c back ih =>
    rw [List.all_cons, Bool.and_eq_true] at hback
    obtain ⟨hc, hback⟩ := hback
    -- the last `..` takes back the first name
    have hups : ((c :: back).map fun _ => up) = (back.map fun _ => up) ++ [up] := by
      rw [List.map_const', List.map_const', List.length_cons, List.replicate_succ']
    have hfirst : (c :: back).foldl step r = back.foldl step (step r c) := rfl
    rw [hups, List.foldl_append, hfirst, ih hback]
    cases c with
    | name s => simp [step, climb]
    | root | here | up => cases hc

end Route

namespace Path

/-! ## Spelling moves -/

/-- The path that makes some moves one after the other; `.` for none. -/
def ofMoves (moves : List Component) : Path :=
  if moves = [] then ⟨"."⟩ else ⟨"/".intercalate (moves.map Component.text)⟩

section Moves

variable {moves : List Component} (hmoves : ∀ c ∈ moves, c.IsMove)
include hmoves

theorem pieces_ofMoves (hne : moves ≠ []) : (ofMoves moves).pieces = moves.map Component.text := by
  rw [ofMoves, if_neg hne]
  refine pieces_intercalate (by simpa using hne) fun s hs => ?_
  obtain ⟨c, hc, rfl⟩ := List.mem_map.1 hs
  exact no_slash_text (hmoves c hc)

/-- The pieces of the spelling are read as the moves again. -/
theorem steps_ofMoves : (ofMoves moves).steps = moves := by
  by_cases hne : moves = []
  · rw [hne]
    rfl
  · rw [steps, pieces_ofMoves hmoves hne, List.filterMap_map]
    have hread : ∀ c ∈ moves, (ofPiece? ∘ Component.text) c = some c := fun c hc =>
      ofPiece?_text (hmoves c hc)
    rw [List.filterMap_congr hread, List.filterMap_some]

theorem isAbsolute_ofMoves : (ofMoves moves).isAbsolute = false := by
  by_cases hne : moves = []
  · rw [hne]
    rfl
  · rw [Bool.eq_false_iff]
    intro habsolute
    obtain ⟨rest, hrest⟩ := pieces_of_isAbsolute habsolute
    rw [pieces_ofMoves hmoves hne] at hrest
    -- the first move would be spelled by the empty text
    obtain ⟨c, moves', rfl⟩ := List.exists_cons_of_ne_nil hne
    obtain ⟨hc, -⟩ := List.cons.inj hrest
    have hread := ofPiece?_text (hmoves c List.mem_cons_self)
    rw [show c.text = "" from hc] at hread
    cases hread

/-- Joined to a path, the spelling makes the moves from there. -/
theorem route_join_ofMoves (p : Path) :
    (p.join (ofMoves moves)).route = moves.foldl Route.step p.route := by
  rw [route_join, foldl_components, isAbsolute_ofMoves hmoves, steps_ofMoves hmoves]
  rfl

end Moves

/-! ## The relative path -/

/-- The components of two paths after the beginning that they share: those on the
    way to `base` and those on the way to `target`. -/
def parting (base target : Path) : List Component × List Component :=
  dropShared base.route.components target.route.components

theorem exists_append_parting (base target : Path) :
    ∃ shared, base.route.components = shared ++ (parting base target).1 ∧
      target.route.components = shared ++ (parting base target).2 :=
  exists_append_dropShared _ _

/-- There is a relative path from `base` to `target`: both are absolute or neither is,
    and only names have to be climbed back. -/
structure Related (base target : Path) : Prop where
  rooted : base.route.isRooted = target.route.isRooted
  back : (parting base target).1.all isName = true

/-- The moves from `base` to `target`. -/
def movesTo (base target : Path) : List Component :=
  (parting base target).1.map (fun _ => up) ++ (parting base target).2

theorem isMove_of_mem_route {p : Path} {c : Component}
    (hc : c ∈ p.route.components) (hroot : c ≠ .root) : c.IsMove :=
  Route.isMove_of_mem_components p.proper_route_names hc hroot

variable {base target : Path}

theorem relativeTo_eq (h : Related base target) :
    target.relativeTo base = ofMoves (movesTo base target) := by
  have hback := h.back
  have hmoves : (movesTo base target).map Component.text =
      (parting base target).1.map (fun _ => "..") ++ (parting base target).2.map Component.text := by
    rw [movesTo, List.map_append, List.map_map]
    rfl
  have hempty : movesTo base target = [] ↔ (movesTo base target).map Component.text = [] :=
    List.map_eq_nil_iff.symm
  simp only [parting] at hback hmoves
  simp only [relativeTo, h.rooted, ne_eq, not_true_eq_false, if_false, hback, if_true, ofMoves,
    hempty, hmoves]

/-- Two routes from the root part after it. -/
theorem parting_of_root (hbase : base.route.anchor = .root) (htarget : target.route.anchor = .root) :
    parting base target =
      dropShared (base.route.names.map .name) (target.route.names.map .name) := by
  rw [parting, Route.components, Route.components, hbase, htarget]
  exact dropShared_cons_self _ _ _

/-- The slash of an absolute path is shared, or neither path has one. -/
theorem root_notMem_parting (h : base.route.isRooted = target.route.isRooted) :
    .root ∉ (parting base target).2 := by
  intro hmem
  cases htarget : target.route.anchor with
  | root =>
    -- both begin with it, and what they share is taken away
    have hbase : base.route.anchor = .root := by
      simpa [Route.isRooted, htarget] using h
    rw [parting_of_root hbase htarget] at hmem
    obtain ⟨shared, -, hnames⟩ :=
      exists_append_dropShared (base.route.names.map name) (target.route.names.map name)
    have hname : .root ∈ target.route.names.map name := by
      rw [hnames]
      exact List.mem_append_right _ hmem
    simp at hname
  | above k =>
    obtain ⟨shared, -, htail⟩ := exists_append_parting base target
    have hcomponents : .root ∈ target.route.components := by
      rw [htail]
      exact List.mem_append_right _ hmem
    rw [Route.components, htarget] at hcomponents
    simp at hcomponents

theorem isMove_of_mem_movesTo (h : base.route.isRooted = target.route.isRooted)
    {c : Component} (hc : c ∈ movesTo base target) : c.IsMove := by
  rw [movesTo, List.mem_append, List.mem_map] at hc
  rcases hc with ⟨_, _, rfl⟩ | hc
  · trivial
  · obtain ⟨shared, -, htarget⟩ := exists_append_parting base target
    have hmem : c ∈ target.route.components := by
      rw [htarget]
      exact List.mem_append_right _ hc
    exact isMove_of_mem_route hmem fun heq => root_notMem_parting h (heq ▸ hc)

/-- Read from `base`, the relative path leads where `target` leads. -/
theorem route_join_relativeTo (h : Related base target) :
    (base.join (target.relativeTo base)).route = target.route := by
  obtain ⟨shared, hbase, htarget⟩ := exists_append_parting base target
  have hmoves : ∀ c ∈ movesTo base target, c.IsMove := fun _ => isMove_of_mem_movesTo h.rooted
  rw [relativeTo_eq h]
  -- back to the end of what is shared, and from there on to the target
  calc (base.join (ofMoves (movesTo base target))).route
      = (movesTo base target).foldl Route.step base.route := route_join_ofMoves hmoves base
    _ = (parting base target).2.foldl Route.step
          (((parting base target).1.map fun _ => up).foldl Route.step
            (base.route.components.foldl Route.step Route.start)) := by
        rw [movesTo, List.foldl_append, base.route.foldl_components]
    _ = (parting base target).2.foldl Route.step (shared.foldl Route.step Route.start) := by
        rw [hbase, List.foldl_append, Route.foldl_back h.back]
    _ = target.route.components.foldl Route.step Route.start := by
        rw [htarget, List.foldl_append]
    _ = target.route := target.route.foldl_components

/-- `e` is relative, and read from the directory `base` it has the same normal
    spelling as `target`. -/
structure LeadsTo (base e target : Path) : Prop where
  relative : e.isAbsolute = false
  same : (base.join e).normalize = target.normalize

theorem leadsTo_relativeTo (h : Related base target) :
    LeadsTo base (target.relativeTo base) target where
  relative := by
    rw [relativeTo_eq h]
    exact isAbsolute_ofMoves fun _ => isMove_of_mem_movesTo h.rooted
  same := by rw [normalize, route_join_relativeTo h, normalize]

/-! ## Absolute paths -/

theorem all_isName_of_append {names : List String} {front back : List Component}
    (h : names.map name = front ++ back) : back.all isName = true := by
  rw [List.all_eq_true]
  intro c hc
  have hmem : c ∈ names.map name := by
    rw [h]
    exact List.mem_append_right _ hc
  obtain ⟨s, -, rfl⟩ := List.mem_map.1 hmem
  rfl

theorem related_of_isAbsolute (hbase : base.isAbsolute = true) (htarget : target.isAbsolute = true) :
    Related base target where
  rooted := by
    rw [Route.isRooted, Route.isRooted, anchor_route_of_isAbsolute hbase,
      anchor_route_of_isAbsolute htarget]
  back := by
    -- behind the root there are only names
    obtain ⟨shared, hnames, -⟩ :=
      exists_append_dropShared (base.route.names.map name) (target.route.names.map name)
    rw [parting_of_root (anchor_route_of_isAbsolute hbase) (anchor_route_of_isAbsolute htarget)]
    exact all_isName_of_append hnames

/-! ## Going down -/

theorem route_child {n : String} (hn : IsName n) (p : Path) :
    (p.child n).route = { p.route with names := p.route.names ++ [n] } := by
  have hmoves : ∀ c ∈ [Component.name n], c.IsMove := by
    intro c hc
    rw [List.mem_singleton.1 hc]
    exact hn
  have hspell : ofMoves [.name n] = ⟨n⟩ := congrArg Path.mk String.intercalate_singleton
  rw [child, ← hspell, route_join_ofMoves hmoves]
  rfl

theorem route_foldl_child {names : List String} (hnames : Location.Proper names) (p : Path) :
    (names.foldl child p).route = { p.route with names := p.route.names ++ names } := by
  induction names generalizing p with
  | nil => rw [List.foldl_nil, List.append_nil]
  | cons n names ih =>
    have hn : IsName n := hnames n List.mem_cons_self
    rw [List.foldl_cons, ih (fun m hm => hnames m (List.mem_cons_of_mem _ hm)), route_child hn,
      List.append_assoc, List.singleton_append]

/-- The relative path to what lies below a directory is made of the names on the way. -/
theorem relativeTo_foldl_child {names : List String} (hnames : Location.Proper names) (p : Path) :
    (names.foldl child p).relativeTo p = ofMoves (names.map .name) := by
  have hparting : parting p (names.foldl child p) = ([], names.map .name) := by
    rw [parting, route_foldl_child hnames, Route.components, Route.components, List.map_append,
      ← List.append_assoc]
    exact dropShared_append_self _ _
  have hrelated : Related p (names.foldl child p) := by
    constructor
    · rw [route_foldl_child hnames]
      rfl
    · rw [hparting]
      rfl
  rw [relativeTo_eq hrelated, movesTo, hparting]
  rfl

end Path

end GrammarBindings
