/-
  GrammarBindings.Proofs.Path.Along

  The normal spelling of a path is a complete description of where the path leads.  From
  every place it leads the same way, and paths that are spelled differently part somewhere:
  a relative path keeps what it does not climb over of the place where it is read, so places
  that are deep enough tell its climbs and its names, and tell it from an absolute path.

    * `Location.along_normalize` — the normal spelling leads the same way.
    * `Location.along_join` — a joined path leads on from where its first part leads.
    * `Location.along_foldl_child` — and names lead down one by one.
    * `route_eq_of_along_eq` — where a path leads from every place tells its route.

  Main statement: `normalize_eq_iff_along`.
-/
import GrammarBindings.Proofs.FileTree.Lexical
import GrammarBindings.Proofs.Path.Containment

namespace GrammarBindings

open Component

namespace Location

/-! ## Leading the same way -/

theorem along_eq_of_foldl {d e : Location} {p q : Path}
    (h : p.components.foldl Route.step ⟨.root, d⟩ = q.components.foldl Route.step ⟨.root, e⟩) :
    d.along p = e.along q := by
  rw [FileTree.foldl_step_components, FileTree.foldl_step_components] at h
  exact (Route.mk.inj h).2

theorem along_normalize (d : Location) (p : Path) : d.along p.normalize = d.along p := by
  apply along_eq_of_foldl
  rw [Path.components_normalize, Path.foldl_route]

theorem along_join (d : Location) (p q : Path) : d.along (p.join q) = (d.along p).along q := by
  apply along_eq_of_foldl
  calc (p.join q).components.foldl Route.step ⟨.root, d⟩
      = (p.join q).route.components.foldl Route.step ⟨.root, d⟩ := (Path.foldl_route _ _).symm
    _ = (q.components.foldl Route.step p.route).components.foldl Route.step ⟨.root, d⟩ := by
        rw [Path.route_join]
    _ = q.components.foldl Route.step (p.route.components.foldl Route.step ⟨.root, d⟩) :=
        Route.foldl_components_foldl _ _ _
    _ = q.components.foldl Route.step ⟨.root, d.along p⟩ := by
        rw [Path.foldl_route, FileTree.foldl_step_components]

/-- Names lead down one by one. -/
theorem along_foldl_child (d : Location) {names : List String} (hnames : Proper names) (p : Path) :
    d.along (names.foldl Path.child p) = d.along p ++ names := by
  have hfold := FileTree.foldl_step_components (names.foldl Path.child p) d
  rw [← Path.foldl_route, Path.route_foldl_child hnames, Route.components_append, List.foldl_append,
    Path.foldl_route, FileTree.foldl_step_components, foldl_step_names] at hfold
  exact (Route.mk.inj hfold).2.symm

end Location

/-! ## Places that tell routes apart -/

/-- How many directories a route keeps of the `n` above the place where it is read. -/
def Anchor.kept : Anchor → Nat → Nat
  | root, _ => 0
  | above k, n => n - k

theorem Anchor.kept_injective : Function.Injective Anchor.kept := by
  intro a b h
  have hkept (n : Nat) : a.kept n = b.kept n := congrFun h n
  cases a with
  | root =>
    cases b with
    | root => rfl
    | above k =>
      -- of one directory more than it climbs over, a relative route keeps one
      have hone := hkept (k + 1)
      simp only [kept] at hone
      omega
  | above j =>
    cases b with
    | root =>
      have hone := hkept (j + 1)
      simp only [kept] at hone
      omega
    | above k =>
      have hboth := hkept (j + k)
      simp only [kept] at hboth
      rw [show j = k by omega]

namespace Location

/-- Climbing takes back names until none is left. -/
theorem foldl_climbs (k n : Nat) (s : String) :
    (List.replicate k up).foldl Route.step ⟨.root, List.replicate n s⟩ =
      ⟨.root, List.replicate (n - k) s⟩ := by
  induction k generalizing n with
  | zero => rfl
  | succ k ih =>
    rw [List.replicate_succ, List.foldl_cons]
    cases n with
    | zero =>
      -- at the root there is nothing to take back
      have hstay : Route.step ⟨.root, List.replicate 0 s⟩ .up = ⟨.root, List.replicate 0 s⟩ := rfl
      rw [hstay, ih, Nat.zero_sub, Nat.zero_sub]
    | succ n =>
      have hback : Route.step ⟨.root, List.replicate (n + 1) s⟩ .up =
          ⟨.root, List.replicate n s⟩ := by
        simp [Route.step, Route.climb]
      rw [hback, ih, Nat.add_sub_add_right]

/-- From a place that is `n` directories deep, all of them called `s`, a path leads to its
    names, below the directories that its route keeps. -/
theorem along_replicate (p : Path) (n : Nat) (s : String) :
    along (List.replicate n s) p = List.replicate (p.route.anchor.kept n) s ++ p.route.names := by
  have hfold := FileTree.foldl_step_components p (List.replicate n s)
  rw [← Path.foldl_route, Route.components, List.foldl_append, foldl_step_names] at hfold
  rw [← (Route.mk.inj hfold).2]
  cases p.route.anchor with
  | root => rfl
  | above k =>
    rw [foldl_climbs]
    rfl

end Location

namespace Path

theorem le_of_replicate_append {m k : Nat} {xs ys : List String}
    (h : ∀ s, IsName s → List.replicate m s ++ xs = List.replicate k s ++ ys) : m ≤ k := by
  by_contra hlt
  obtain ⟨j, rfl⟩ : ∃ j, m = k + (j + 1) := ⟨m - k - 1, by omega⟩
  -- behind the shorter run the other list begins with every name
  have hhead : ∀ s, IsName s → ys.head? = some s := by
    intro s hs
    have hcancel := h s hs
    rw [List.replicate_add, List.append_assoc, List.append_cancel_left_eq] at hcancel
    rw [← hcancel]
    rfl
  have ha := hhead "a" ⟨by decide, by decide, by decide, by decide⟩
  have hb := hhead "b" ⟨by decide, by decide, by decide, by decide⟩
  rw [ha] at hb
  exact absurd hb (by decide)

/-- If runs of a name in front of two lists give the same list whatever the name is, the runs
    are equally long. -/
theorem eq_of_replicate_append {m k : Nat} {xs ys : List String}
    (h : ∀ s, IsName s → List.replicate m s ++ xs = List.replicate k s ++ ys) :
    m = k ∧ xs = ys := by
  have hm : m = k := Nat.le_antisymm (le_of_replicate_append h)
    (le_of_replicate_append fun s hs => (h s hs).symm)
  have ha := h "a" ⟨by decide, by decide, by decide, by decide⟩
  rw [hm, List.append_cancel_left_eq] at ha
  exact ⟨hm, ha⟩

/-- Paths that lead the same way from every place have the same route. -/
theorem route_eq_of_along_eq {p q : Path}
    (h : ∀ d : Location, d.Proper → d.along p = d.along q) : p.route = q.route := by
  have hdeep (n : Nat) : ∀ s, IsName s →
      List.replicate (p.route.anchor.kept n) s ++ p.route.names =
        List.replicate (q.route.anchor.kept n) s ++ q.route.names := by
    intro s hs
    rw [← Location.along_replicate, ← Location.along_replicate]
    refine h _ fun r hr => ?_
    rw [List.eq_of_mem_replicate hr]
    exact hs
  have hanchor : p.route.anchor = q.route.anchor :=
    Anchor.kept_injective (funext fun n => (eq_of_replicate_append (hdeep n)).1)
  have hnames : p.route.names = q.route.names := (eq_of_replicate_append (hdeep 0)).2
  exact congrArg₂ Route.mk hanchor hnames

/-- The normal spelling keeps exactly where a path leads: from every place it leads to the
    same place as the path, and two paths have the same normal spelling if and only if they
    lead to the same place from every directory.  So paths can be brought to normal spelling
    before they are joined. -/
theorem normalize_eq_iff_along (p q : Path) :
    (∀ d : Location, d.along p.normalize = d.along p) ∧
      (p.normalize = q.normalize ↔ ∀ d : Location, d.Proper → d.along p = d.along q) ∧
      (p.join q).normalize = (p.normalize.join q.normalize).normalize := by
  have hiff (p q : Path) :
      p.normalize = q.normalize ↔ ∀ d : Location, d.Proper → d.along p = d.along q := by
    constructor
    · intro h d _
      rw [← d.along_normalize p, h, d.along_normalize q]
    · intro h
      rw [normalize, normalize, route_eq_of_along_eq h]
  refine ⟨fun d => d.along_normalize p, hiff p q, ?_⟩
  rw [hiff]
  intro d _
  rw [d.along_join, d.along_join, Location.along_normalize, Location.along_normalize]

/-- Two spellings of the neighbour `b`, which lead to the same place from every directory, and
    which some directory tells from the entry `b` of the root. -/
theorem normalize_eq_iff_along_neighbour :
    Location.Proper ["x", "y"] ∧
      Location.along ["x", "y"] ⟨"a/.././../b"⟩ = Location.along ["x", "y"] ⟨"..//b/."⟩ ∧
      ¬ (∀ d : Location, d.Proper → d.along ⟨"..//b/."⟩ = d.along ⟨"/b"⟩) ∧
      (join ⟨"a/.."⟩ ⟨"./..//b"⟩).normalize = (join ⟨""⟩ ⟨"../b"⟩).normalize := by
  have hproper : Location.Proper ["x", "y"] := by
    intro s hs
    rcases List.mem_cons.1 hs with rfl | hs
    · exact ⟨by decide, by decide, by decide, by decide⟩
    · rw [List.mem_singleton.1 hs]
      exact ⟨by decide, by decide, by decide, by decide⟩
  have hsame : (Path.mk "a/.././../b").normalize = (Path.mk "..//b/.").normalize := by decide
  have hdiffer : (Path.mk "..//b/.").normalize ≠ (Path.mk "/b").normalize := by decide
  have hleft : (Path.mk "a/..").normalize = ⟨""⟩ := by decide
  have hright : (Path.mk "./..//b").normalize = ⟨"../b"⟩ := by decide
  obtain ⟨-, halong, -⟩ := normalize_eq_iff_along ⟨"a/.././../b"⟩ ⟨"..//b/."⟩
  obtain ⟨-, hroot, -⟩ := normalize_eq_iff_along ⟨"..//b/."⟩ ⟨"/b"⟩
  obtain ⟨-, -, hjoin⟩ := normalize_eq_iff_along ⟨"a/.."⟩ ⟨"./..//b"⟩
  rw [hleft, hright] at hjoin
  exact ⟨hproper, halong.1 hsame _ hproper, fun h => hdiffer (hroot.2 h), hjoin⟩

end Path

end GrammarBindings
