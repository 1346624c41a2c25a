/-
  GrammarBindings.Proofs.Path.Join

  Where a joined path leads.  Joining puts two texts together, and a slash between
  them where one is missing; the pieces between the slashes are then those of the
  one and those of the other.

    * `Path.steps` — the pieces that lead somewhere, without what begins a path.
    * `foldl_components` — a path is walked by its steps, from the root if it is
      absolute.
    * `route_join` — a joined path leads where the second one leads when it is
      walked from the place that the first one leads to.
-/
import GrammarBindings.Proofs.Path.Place

namespace GrammarBindings

namespace Path

/-! ## Steps -/

/-- The components that the pieces of a path stand for, one by one.  The slash of
    an absolute path and the `.` at the beginning of a relative one are no pieces
    of their own and do not count. -/
def steps (p : Path) : List Component := p.pieces.filterMap Component.ofPiece?

/-- An absolute path has nothing before its first slash. -/
theorem pieces_of_isAbsolute {p : Path} (h : p.isAbsolute = true) :
    ∃ rest, p.pieces = "" :: rest := by
  obtain ⟨cs, hcs⟩ : ∃ cs, p.text.toList = '/' :: cs := by
    rw [isAbsolute, beq_iff_eq, List.head?_eq_some_iff] at h
    exact h
  refine ⟨(cs.splitOn '/').map String.ofList, ?_⟩
  rw [pieces, hcs, List.splitOn_cons_eq_if_modifyHead, if_pos (beq_self_eq_true '/'),
    List.map_cons]

/-- Walking a path is walking its steps, from the root if the path is absolute. -/
theorem foldl_components (p : Path) (r : Route) :
    p.components.foldl Route.step r =
      p.steps.foldl Route.step (if p.isAbsolute then ⟨.root, []⟩ else r) := by
  obtain ⟨first, rest, hpieces⟩ := List.exists_cons_of_ne_nil p.pieces_ne_nil
  by_cases habsolute : p.isAbsolute = true
  · -- what stands before the first slash is empty and no step
    obtain ⟨rest', hrest⟩ := pieces_of_isAbsolute habsolute
    obtain ⟨rfl, rfl⟩ := List.cons.inj (hpieces.symm.trans hrest)
    have hfirst : Component.ofPiece? "" = none := rfl
    simp only [components, steps, hpieces, habsolute, if_true, List.singleton_append,
      List.foldl_cons, List.filterMap_cons, hfirst, Route.step]
  · simp only [components, steps, hpieces, habsolute, Bool.false_eq_true, if_false]
    by_cases hhere : first = "."
    · -- a `.` stays where it is
      have hfirst : Component.ofPiece? "." = none := rfl
      rw [if_pos hhere, hhere]
      simp only [List.singleton_append, List.foldl_cons, List.filterMap_cons, hfirst, Route.step]
    · rw [if_neg hhere, List.filterMap_cons]
      cases Component.ofPiece? first <;> rfl

theorem route_eq_foldl_steps (p : Path) :
    p.route = p.steps.foldl Route.step (if p.isAbsolute then ⟨.root, []⟩ else Route.start) :=
  p.foldl_components Route.start

/-! ## Joining -/

/-- The texts of two paths with a slash between them have the steps of both. -/
theorem steps_append_slash (s r : String) :
    steps ⟨s ++ "/" ++ r⟩ = steps ⟨s⟩ ++ steps ⟨r⟩ := by
  rw [steps, pieces_append_slash, List.filterMap_append]
  rfl

/-- A slash at the end adds no step. -/
theorem steps_slash (s : String) : steps ⟨s ++ "/"⟩ = steps ⟨s⟩ := by
  have hempty : steps ⟨""⟩ = [] := rfl
  have happend := steps_append_slash s ""
  rwa [String.append_empty, hempty, List.append_nil] at happend

theorem isAbsolute_append {s : String} (hs : s ≠ "") (r : String) :
    isAbsolute ⟨s ++ r⟩ = isAbsolute ⟨s⟩ := by
  have hne : s.toList ≠ [] := by simpa using hs
  simp only [isAbsolute, String.toList_append, List.head?_append_of_ne_nil _ hne]

/-- A slash behind a text that is not empty leads nowhere else. -/
theorem route_slash {s : String} (hs : s ≠ "") : route ⟨s ++ "/"⟩ = route ⟨s⟩ := by
  rw [route_eq_foldl_steps, route_eq_foldl_steps ⟨s⟩, steps_slash, isAbsolute_append hs]

theorem route_append_slash (s r : String) :
    route ⟨s ++ "/" ++ r⟩ = (steps ⟨r⟩).foldl Route.step (route ⟨s ++ "/"⟩) := by
  have hne : s ++ "/" ≠ "" := by simp
  rw [route_eq_foldl_steps, route_eq_foldl_steps ⟨s ++ "/"⟩, steps_append_slash, steps_slash,
    List.foldl_append, isAbsolute_append hne]

/-- A joined path leads where its second part leads, walked from the place that the
    first part leads to. -/
theorem route_join (p q : Path) : (p.join q).route = q.components.foldl Route.step p.route := by
  rw [foldl_components, join]
  by_cases hq : q.isAbsolute = true
  · rw [if_pos hq, if_pos hq, route_eq_foldl_steps, if_pos hq]
  · rw [if_neg hq, if_neg hq]
    split_ifs with hend
    · rcases hend with hempty | hslash
      · -- nothing stands before `q`
        have hp : p.route = Route.start := by
          rw [show p = ⟨""⟩ from congrArg Path.mk hempty]
          rfl
        rw [hempty, String.empty_append, route_eq_foldl_steps, if_neg hq, hp]
      · -- the slash at the end of `p` is the one between the two
        obtain ⟨front, htext⟩ : ∃ front, p.text = front ++ "/" := exists_append_singleton hslash
        rw [htext, route_append_slash, ← htext]
    · have hne : p.text ≠ "" := fun h => hend (Or.inl h)
      rw [route_append_slash, route_slash hne]

end Path

end GrammarBindings
