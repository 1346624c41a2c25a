/-
  GrammarBindings.Proofs.Path.Containment

  Containment of paths as their texts tell it, and where the paths lead when they are
  read from a directory.  The components of the normal spelling lead the same way as
  those of the path, so whatever lies below a path by its components still does so in any
  directory.  The exception are paths that only climb: their normal spelling is empty or
  made of `..`, and what follows that in another path can be another `..`.

    * `isWithin_iff` — containment by the components of normal spellings.
    * `foldl_route` — the normal spelling leads the same way.
    * `isWithin_join`, `place_join_prefix` — containment holds in every directory, unless
      the path that contains the other only climbs.
    * `isWithin_escape`, `exists_escape` — every path that only climbs contains one that
      leads out of it.
-/
import GrammarBindings.Proofs.Path.Relative

namespace GrammarBindings

open Component

/-! ## The components of a normal spelling -/

namespace Path

/-- Moves are the components of their spelling. -/
theorem components_ofMoves {moves : List Component} (hmoves : ∀ c ∈ moves, c.IsMove)
    (hne : moves ≠ []) : (ofMoves moves).components = moves := by
  obtain ⟨c, rest, rfl⟩ := List.exists_cons_of_ne_nil hne
  have hsteps : (ofMoves (c :: rest)).steps = c :: rest := steps_ofMoves hmoves
  have hfirst : ofPiece? c.text = some c := ofPiece?_text (hmoves c List.mem_cons_self)
  have hhere : c.text ≠ "." := by
    intro htext
    rw [htext] at hfirst
    cases hfirst
  have hpieces : (ofMoves (c :: rest)).pieces = c.text :: rest.map Component.text :=
    pieces_ofMoves hmoves hne
  rw [steps, hpieces, List.filterMap_cons_some hfirst, List.cons.injEq] at hsteps
  simp only [components, hpieces, isAbsolute_ofMoves hmoves, Bool.false_eq_true, if_false,
    if_neg hhere, hfirst, hsteps.2]
  rfl

end Path

namespace Route

/-- A relative route that leads somewhere is spelled as its components. -/
theorem toPath_eq_ofMoves {r : Route} {k : Nat} (hanchor : r.anchor = .above k)
    (hne : r.components ≠ []) : r.toPath = Path.ofMoves r.components := by
  rw [toPath, Path.ofMoves, if_neg hne, components, hanchor]
  simp only [List.map_append, List.map_replicate, List.map_map]
  congr 3
  exact (List.map_id' _).symm

/-- A route is read back from its spelling, component by component. -/
theorem components_toPath {r : Route} (hr : Location.Proper r.names) :
    r.toPath.components = r.components := by
  cases hanchor : r.anchor with
  | root =>
    rw [toPath, components, hanchor]
    exact Location.components_toPath hr
  | above k =>
    by_cases hempty : r.components = []
    · -- nothing is spelled by the empty text
      rw [hempty]
      rw [components, hanchor, List.append_eq_nil_iff, List.map_eq_nil_iff] at hempty
      rw [toPath, hanchor]
      have hk : List.replicate k ".." = [] := by
        have hlength := congrArg List.length hempty.1
        rw [List.length_replicate] at hlength
        rw [hlength, List.length_nil, List.replicate_zero]
      simp only [hk, hempty.2]
      decide
    · have hmoves : ∀ c ∈ r.components, c.IsMove := by
        intro c hc
        refine isMove_of_mem_components hr hc ?_
        rintro rfl
        simp [components, hanchor] at hc
      rw [toPath_eq_ofMoves hanchor hempty, Path.components_ofMoves hmoves hempty]

theorem route_toPath {r : Route} (hr : Location.Proper r.names) : r.toPath.route = r := by
  rw [Path.route, components_toPath hr, foldl_components]

end Route

namespace Path

/-- The normal spelling of a path has the components of its route. -/
theorem components_normalize (p : Path) : p.normalize.components = p.route.components :=
  Route.components_toPath p.proper_route_names

theorem route_normalize (p : Path) : p.normalize.route = p.route :=
  Route.route_toPath p.proper_route_names

theorem normalize_normalize (p : Path) : p.normalize.normalize = p.normalize := by
  rw [normalize, route_normalize, normalize]

/-- Containment by the components of normal spellings. -/
theorem isWithin_iff {p dir : Path} :
    p.isWithin dir = true ↔ dir.normalize.components <+: p.normalize.components := by
  rw [isWithin, components_normalize, components_normalize, List.isPrefixOf_iff_prefix]

end Path

/-! ## Routes read from elsewhere -/

namespace Route

theorem components_append (q : Route) (names : List String) :
    components { q with names := q.names ++ names } = q.components ++ names.map name := by
  simp only [components, List.map_append, List.append_assoc]

theorem foldl_components_name (q r : Route) (s : String) :
    (q.step (.name s)).components.foldl step r = (q.components.foldl step r).step (.name s) := by
  rw [step, components_append, List.foldl_append]
  rfl

/-- A name is taken back. -/
theorem step_name_up (q : Route) (s : String) : (q.step (.name s)).step .up = q := by
  simp [step, climb]

/-- Going on from where a route leads is going on from where its components lead. -/
theorem foldl_components_step (q r : Route) (c : Component) :
    (q.step c).components.foldl step r = (q.components.foldl step r).step c := by
  cases c with
  | root => rfl
  | here => rfl
  | name s => exact foldl_components_name q r s
  | up =>
    rcases List.eq_nil_or_concat' q.names with hnames | ⟨init, s, hnames⟩
    · -- with no name to take back, a route at the root stays and another one climbs
      cases hanchor : q.anchor with
      | root => simp [step, climb, hnames, hanchor, components]
      | above k =>
        simp only [step, climb, hnames, hanchor, components, if_true, List.map_nil,
          List.append_nil, List.replicate_succ', List.foldl_append, List.foldl_cons,
          List.foldl_nil]
    · -- the last name is taken back, here and there
      obtain ⟨anchor, names⟩ := q
      obtain rfl : names = init ++ [s] := hnames
      have hlast : Route.mk anchor (init ++ [s]) = step ⟨anchor, init⟩ (.name s) := rfl
      rw [hlast, step_name_up, foldl_components_name, step_name_up]

/-- The components of the route that some components lead along lead the same way, from
    everywhere. -/
theorem foldl_components_foldl (cs : List Component) (q r : Route) :
    (cs.foldl step q).components.foldl step r = cs.foldl step (q.components.foldl step r) := by
  induction cs generalizing q with
  | nil => rfl
  | cons c cs ih => rw [List.foldl_cons, List.foldl_cons, ih, foldl_components_step]

end Route

namespace Path

/-- The normal spelling of a path leads where the path leads. -/
theorem foldl_route (p : Path) (r : Route) :
    p.route.components.foldl Route.step r = p.components.foldl Route.step r :=
  Route.foldl_components_foldl p.components Route.start r

theorem route_join_eq (cwd p : Path) :
    (cwd.join p).route = p.route.components.foldl Route.step cwd.route := by
  rw [route_join, foldl_route]

end Path

/-! ## Paths that only climb -/

/-- Behind a component that is no `..` there are only names. -/
theorem Route.pairwise_components (r : Route) :
    r.components.Pairwise fun c d => c ≠ .up → d.isName = true := by
  have hnames (c : Component) : ∀ d ∈ r.names.map name, c ≠ .up → d.isName = true := by
    intro d hd _
    obtain ⟨s, -, rfl⟩ := List.mem_map.1 hd
    rfl
  have hpairwise : (r.names.map name).Pairwise fun c d => c ≠ .up → d.isName = true :=
    List.pairwise_of_forall_mem_list fun c _ d hd => hnames c d hd
  rw [components]
  cases r.anchor with
  | root => exact List.pairwise_cons.2 ⟨hnames .root, hpairwise⟩
  | above k =>
    have hclimbs : ∀ c ∈ List.replicate k Component.up, c = .up := fun c hc =>
      List.eq_of_mem_replicate hc
    refine List.pairwise_append.2 ⟨?_, hpairwise, fun c _ => hnames c⟩
    exact List.pairwise_of_forall_mem_list fun c hc _ _ hne => absurd (hclimbs c hc) hne

/-- Components that are names are given by these. -/
theorem exists_map_name {cs : List Component} (h : ∀ c ∈ cs, c.isName = true) :
    ∃ names : List String, cs = names.map Component.name := by
  induction cs with
  | nil => exact ⟨[], rfl⟩
  | cons c cs ih =>
    rw [List.forall_mem_cons] at h
    obtain ⟨names, rfl⟩ := ih h.2
    cases c with
    | name s => exact ⟨s :: names, rfl⟩
    | root | here | up => cases h.1

namespace Path

/-- A path whose normal spelling is empty or made of `..` only. -/
def OnlyClimbs (p : Path) : Prop := ∀ c ∈ p.normalize.components, c = .up

instance : DecidablePred OnlyClimbs := fun p =>
  inferInstanceAs (Decidable (∀ c ∈ p.normalize.components, c = .up))

variable {cwd p dir : Path}

/-- What lies below a path that does not only climb is reached from there by names. -/
theorem exists_names_of_isWithin (hdir : ¬ dir.OnlyClimbs) (h : p.isWithin dir = true) :
    ∃ names : List String,
      p.route.components = dir.route.components ++ names.map Component.name := by
  rw [isWithin, List.isPrefixOf_iff_prefix] at h
  obtain ⟨rest, hrest⟩ := h
  obtain ⟨c, hc, hup⟩ : ∃ c ∈ dir.route.components, c ≠ .up := by
    simpa [OnlyClimbs, components_normalize] using hdir
  -- `c` stands in front of the rest, which is therefore made of names
  have hpairwise := p.route.pairwise_components
  rw [← hrest, List.pairwise_append] at hpairwise
  obtain ⟨names, rfl⟩ := exists_map_name fun d hd => hpairwise.2.2 c hc d hd hup
  exact ⟨names, hrest.symm⟩

/-- Read from any directory, a path leads by names on from where the path leads that
    contains it by its text, if that one does not only climb. -/
theorem exists_names_of_join (hdir : ¬ dir.OnlyClimbs) (h : p.isWithin dir = true) (cwd : Path) :
    ∃ names : List String, (cwd.join p).route =
      { (cwd.join dir).route with names := (cwd.join dir).route.names ++ names } := by
  obtain ⟨names, hnames⟩ := exists_names_of_isWithin hdir h
  refine ⟨names, ?_⟩
  rw [route_join_eq cwd p, hnames, List.foldl_append, ← route_join_eq, Location.foldl_step_names]

theorem isWithin_join (hdir : ¬ dir.OnlyClimbs) (h : p.isWithin dir = true) (cwd : Path) :
    (cwd.join p).isWithin (cwd.join dir) = true := by
  obtain ⟨names, hnames⟩ := exists_names_of_join hdir h cwd
  rw [isWithin, List.isPrefixOf_iff_prefix, hnames, Route.components_append]
  exact List.prefix_append _ _

theorem place_join_prefix (hdir : ¬ dir.OnlyClimbs) (h : p.isWithin dir = true) (cwd : Path) :
    (cwd.join dir).place <+: (cwd.join p).place := by
  obtain ⟨names, hnames⟩ := exists_names_of_join hdir h cwd
  rw [place, place, hnames]
  exact List.prefix_append _ _

/-- The path that climbs so many directories and one more, and goes down by a name. -/
def escape (climbs : Nat) (n : String) : Path :=
  ofMoves (List.replicate (climbs + 1) .up ++ [.name n])

section Escape

variable {n : String} (hn : IsName n) (k : Nat)
include hn

theorem isMove_of_mem_escape :
    ∀ c ∈ List.replicate (k + 1) Component.up ++ [.name n], c.IsMove := by
  intro c hc
  rcases List.mem_append.1 hc with hc | hc
  · rw [List.eq_of_mem_replicate hc]
    trivial
  · rw [List.mem_singleton.1 hc]
    exact hn

theorem components_escape :
    (escape k n).components = List.replicate k .up ++ [.up, .name n] := by
  rw [escape, components_ofMoves (isMove_of_mem_escape hn k) (by simp), List.replicate_succ',
    List.append_assoc]
  rfl

/-- The escape is in normal spelling already. -/
theorem route_escape : (escape k n).route = ⟨.above (k + 1), [n]⟩ := by
  have hcomponents : (escape k n).components = Route.components ⟨.above (k + 1), [n]⟩ := by
    rw [components_escape hn]
    simp [Route.components, List.replicate_succ']
  rw [route, hcomponents, Route.foldl_components]

/-- By their texts a path of some `..` contains every escape from it.  Read from a
    directory that is deep enough, the escape leads to a neighbour of where the path leads. -/
theorem isWithin_escape (base : List String) {back : List String} {m : String}
    (hdir : dir.route.components = List.replicate back.length .up)
    (hcwd : cwd.route = ⟨.root, base ++ m :: back⟩) (hne : m ≠ n) :
    (escape back.length n).isWithin dir = true ∧
      (cwd.join (escape back.length n)).isWithin (cwd.join dir) = false := by
  -- climbing takes all names in `back` back again
  have hdeep : cwd.route =
      (back.map Component.name).foldl Route.step ⟨.root, base ++ [m]⟩ := by
    rw [hcwd, Location.foldl_step_names, List.append_assoc]
    rfl
  have hup : (List.replicate back.length Component.up).foldl Route.step cwd.route =
      ⟨.root, base ++ [m]⟩ := by
    have hnames : (back.map Component.name).all isName = true := by simp [isName]
    have hback := Route.foldl_back hnames ⟨.root, base ++ [m]⟩
    rwa [← hdeep, List.map_const', List.length_map] at hback
  have hthere : (cwd.join dir).route = ⟨.root, base ++ [m]⟩ := by
    rw [route_join_eq, hdir, hup]
  have hescaped : (cwd.join (escape back.length n)).route = ⟨.root, base ++ [n]⟩ := by
    rw [route_join, components_escape hn, List.foldl_append, hup]
    simp [Route.step, Route.climb]
  constructor
  · rw [isWithin, hdir, route_escape hn, List.isPrefixOf_iff_prefix]
    simp [Route.components, List.replicate_succ']
  · rw [isWithin, hthere, hescaped, Bool.eq_false_iff, ne_eq, List.isPrefixOf_iff_prefix]
    simpa [Route.components] using hne

end Escape

/-- Every path that only climbs contains, by its text, one that leads out of it in some
    directory. -/
theorem exists_escape (hdir : dir.OnlyClimbs) :
    ∃ cwd p : Path, cwd.isAbsolute = true ∧ p.isWithin dir = true ∧
      (cwd.join p).isWithin (cwd.join dir) = false := by
  have ha : IsName "a" := ⟨by decide, by decide, by decide, by decide⟩
  have hb : IsName "b" := ⟨by decide, by decide, by decide, by decide⟩
  -- a working directory as deep as the path climbs, below one with a neighbour
  let deep : Location := List.replicate dir.route.components.length "a"
  have hclimbs : dir.route.components = List.replicate deep.length .up := by
    rw [List.length_replicate, List.eq_replicate_length, ← components_normalize]
    exact hdir
  have hdeep : Location.Proper ("a" :: deep) := by
    intro n hn
    rcases List.mem_cons.1 hn with rfl | hn
    · exact ha
    · rw [List.eq_of_mem_replicate hn]
      exact ha
  obtain ⟨hwithin, hescaped⟩ :=
    isWithin_escape hb [] hclimbs (Location.route_toPath hdeep) (by decide)
  exact ⟨_, _, Location.isAbsolute_toPath _, hwithin, hescaped⟩

end Path

end GrammarBindings
