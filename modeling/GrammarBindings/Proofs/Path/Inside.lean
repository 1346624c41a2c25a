/-
  GrammarBindings.Proofs.Path.Inside

  Relative paths that lead to places inside the directory they are read from.  Wherever
  that directory is, the way from one of them to another is the same.

    * `isRooted_route` — absolute paths are those that lead on from the root;
      `isAbsolute_of_isWithin` — what lies in them has such a path as well.
    * `join_assoc` — relative paths are joined in any grouping.
    * `Inside` — a relative path that leads nowhere above its directory.
    * `relativeTo_join` — the relative path between two such paths is the same in all
      directories.
-/
import GrammarBindings.Proofs.Path.Containment

namespace GrammarBindings

open Component

namespace Path

/-! ## Absolute and relative paths -/

theorem isRooted_foldl {cs : List Component} (hcs : .root ∉ cs) (r : Route) :
    (cs.foldl Route.step r).isRooted = r.isRooted := by
  induction cs generalizing r with
  | nil => rfl
  | cons c cs ih =>
    rw [List.mem_cons, not_or] at hcs
    rw [List.foldl_cons, ih hcs.2]
    cases c with
    | root => exact absurd rfl hcs.1
    | here | name s => rfl
    | up =>
      -- climbing changes the number of directories above, not what is climbed from
      simp only [Route.step, Route.climb, Route.isRooted]
      split_ifs
      · cases hanchor : r.anchor <;> simp [hanchor]
      · rfl

/-- No piece stands for the slash of an absolute path. -/
theorem ofPiece?_ne_root (piece : String) : ofPiece? piece ≠ some .root := by
  intro hpiece
  unfold ofPiece? at hpiece
  split_ifs at hpiece <;> cases hpiece

theorem root_notMem_steps (p : Path) : .root ∉ p.steps := by
  intro hmem
  obtain ⟨piece, -, hpiece⟩ := List.mem_filterMap.1 hmem
  exact ofPiece?_ne_root piece hpiece

theorem root_notMem_components {p : Path} (h : p.isAbsolute = false) : .root ∉ p.components := by
  obtain ⟨first, rest, hpieces⟩ := List.exists_cons_of_ne_nil p.pieces_ne_nil
  simp only [components, hpieces, h, Bool.false_eq_true, if_false, List.mem_append,
    List.mem_filterMap, not_or, not_exists, not_and]
  refine ⟨?_, fun piece _ => ofPiece?_ne_root piece⟩
  split_ifs
  · decide
  · rw [Option.mem_toList]
    exact ofPiece?_ne_root first

/-- The absolute paths are those that lead on from the root. -/
theorem isRooted_route (p : Path) : p.route.isRooted = p.isAbsolute := by
  rw [route_eq_foldl_steps, isRooted_foldl p.root_notMem_steps]
  cases p.isAbsolute <;> rfl

/-- In a directory with an absolute path lie absolute paths only. -/
theorem isAbsolute_of_isWithin {p dir : Path} (h : p.isWithin dir = true)
    (hdir : dir.isAbsolute = true) : p.isAbsolute = true := by
  rw [← isRooted_route, Route.isRooted, beq_iff_eq] at hdir
  rw [isWithin, List.isPrefixOf_iff_prefix] at h
  have hroot : Component.root ∈ p.route.components :=
    h.subset (by simp [Route.components, hdir])
  -- a route that is not rooted has no component `root`
  rw [← isRooted_route, Route.isRooted, beq_iff_eq]
  cases hanchor : p.route.anchor with
  | root => rfl
  | above k => simp [Route.components, hanchor] at hroot

/-! ## Joining relative paths -/

/-- What is put between a path and one that is joined to it. -/
def separator (p : Path) : String :=
  if p.text = "" ∨ p.text.toList.getLast? = some '/' then "" else "/"

variable {p q n : Path}

theorem join_of_relative (hq : q.isAbsolute = false) (p : Path) :
    p.join q = ⟨p.text ++ p.separator ++ q.text⟩ := by
  rw [join, if_neg (by simp [hq]), separator]
  split_ifs
  · rw [String.append_empty]
  · rfl

/-- Nothing more is put behind a path that has been made ready to be joined to. -/
theorem separator_separated (p : Path) : separator ⟨p.text ++ p.separator⟩ = "" := by
  refine if_pos ?_
  by_cases h : p.text = "" ∨ p.text.toList.getLast? = some '/'
  · rwa [separator, if_pos h, String.append_empty]
  · rw [separator, if_neg h, String.toList_append]
    exact Or.inr List.getLast?_concat

theorem separator_append (s : String) (hq : q.text ≠ "") :
    separator ⟨s ++ q.text⟩ = q.separator := by
  have hne : q.text.toList ≠ [] := by simpa using hq
  simp only [separator, String.append_eq_empty_iff, hq, and_false, String.toList_append,
    List.getLast?_append_of_ne_nil _ hne]

theorem join_empty_left (n : Path) : join ⟨""⟩ n = n := by
  simp [join]

theorem isAbsolute_join_of_relative (hq : q.isAbsolute = false) (hn : n.isAbsolute = false) :
    (q.join n).isAbsolute = false := by
  by_cases hempty : q.text = ""
  · rwa [show q = ⟨""⟩ from congrArg Path.mk hempty, join_empty_left]
  · rw [join_of_relative hn, String.append_assoc, isAbsolute_append hempty]
    exact hq

theorem join_assoc (hq : q.isAbsolute = false) (hn : n.isAbsolute = false) (p : Path) :
    (p.join q).join n = p.join (q.join n) := by
  by_cases hempty : q.text = ""
  · -- `p` with nothing joined to it may have got a slash, which is the one before `n`
    obtain rfl : q = ⟨""⟩ := congrArg Path.mk hempty
    rw [join_empty_left, join_of_relative hn, join_of_relative hn, join_of_relative hq,
      String.append_empty, separator_separated, String.append_empty]
  · rw [join_of_relative hn, join_of_relative (isAbsolute_join_of_relative hq hn),
      join_of_relative hn, join_of_relative hq, separator_append _ hempty]
    simp only [String.append_assoc]

/-! ## Paths that stay inside -/

/-- A relative path that leads to a place inside the directory it is read from: its normal
    spelling does not begin with `..`. -/
structure Inside (p : Path) : Prop where
  relative : p.isAbsolute = false
  stays : p.normalize.components.head? ≠ some .up

theorem inside_iff : p.Inside ↔ p.route.anchor = .above 0 := by
  have hrooted := p.isRooted_route
  constructor
  · rintro ⟨hrelative, hstays⟩
    rw [components_normalize, Route.components] at hstays
    cases hanchor : p.route.anchor with
    | root => simp [Route.isRooted, hanchor, hrelative] at hrooted
    | above k =>
      -- a climb would be the first component of the normal spelling
      cases k with
      | zero => rfl
      | succ k => simp [hanchor, List.replicate_succ] at hstays
  · intro hanchor
    refine ⟨?_, ?_⟩
    · rw [← hrooted, Route.isRooted, hanchor]
      rfl
    · rw [components_normalize, Route.components, hanchor]
      cases p.route.names <;> simp

theorem Inside.components_eq (h : p.Inside) : p.route.components = p.route.names.map name := by
  rw [Route.components, inside_iff.1 h]
  rfl

theorem Inside.child {s : String} (h : p.Inside) (hs : IsName s) : (p.child s).Inside := by
  rw [inside_iff, route_child hs]
  exact inside_iff.1 h

/-! ## Paths inside a directory -/

variable {base target : Path}

theorem Inside.route_join (h : p.Inside) (dir : Path) :
    (dir.join p).route = { dir.route with names := dir.route.names ++ p.route.names } := by
  rw [route_join_eq, h.components_eq, Location.foldl_step_names]

/-- The way to a common directory is shared. -/
theorem parting_join (hbase : base.Inside) (htarget : target.Inside) (dir : Path) :
    parting (dir.join base) (dir.join target) = parting base target := by
  rw [parting, hbase.route_join, htarget.route_join, Route.components_append,
    Route.components_append, dropShared_append, parting, hbase.components_eq,
    htarget.components_eq]

theorem Inside.related (hbase : base.Inside) (htarget : target.Inside) : Related base target where
  rooted := by rw [isRooted_route, isRooted_route, hbase.relative, htarget.relative]
  back := by
    obtain ⟨shared, hnames, -⟩ := exists_append_parting base target
    rw [hbase.components_eq] at hnames
    exact all_isName_of_append hnames

/-- The relative path between two paths inside a directory does not depend on that. -/
theorem relativeTo_join (hbase : base.Inside) (htarget : target.Inside) (dir : Path) :
    (dir.join target).relativeTo (dir.join base) = target.relativeTo base := by
  have hrelated := hbase.related htarget
  have hjoined : Related (dir.join base) (dir.join target) := by
    constructor
    · rw [hbase.route_join, htarget.route_join]
      rfl
    · rw [parting_join hbase htarget]
      exact hrelated.back
  rw [relativeTo_eq hjoined, relativeTo_eq hrelated, movesTo, movesTo,
    parting_join hbase htarget]

end Path

end GrammarBindings
