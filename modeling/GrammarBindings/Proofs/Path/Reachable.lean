/-
  GrammarBindings.Proofs.Path.Reachable

  When there is a relative path from one path to another, and what is given in place of
  one when there is none.  Absolute paths part after the root, where only names are left to
  be climbed back.  Relative paths begin with as many `..` as they climb: a base that climbs
  no higher than the target parts from it behind its last `..`, and one that climbs higher
  is left with a `..` of its own, which nothing takes back.

    * `Path.climbs` — how high the normal spelling of a path climbs.
    * `Path.Reachable` — the two cases in which there is a relative path.
    * `related_iff` — these are the cases in which only names have to be climbed back.
    * `relativeTo_eq_here_iff` — the relative path is `.` between equal paths only.

  Main statement: `relativeTo_reaches`.
-/
import GrammarBindings.Proofs.Path.Inside

namespace GrammarBindings

open Component

namespace Path

/-! ## How high a path climbs -/

/-- The number of `..` that the normal spelling of a path begins with. -/
def climbs (p : Path) : Nat := (p.normalize.components.takeWhile (· = .up)).length

theorem takeWhile_up_names (names : List String) :
    (names.map Component.name).takeWhile (· = .up) = [] := by
  cases names <;> rfl

variable {p base target : Path} {k j : Nat}

/-- The climbs of a relative path are those of its route. -/
theorem climbs_of_anchor (h : p.route.anchor = .above k) : p.climbs = k := by
  have hups : ∀ c ∈ List.replicate k Component.up, decide (c = .up) = true := by
    intro c hc
    rw [List.eq_of_mem_replicate hc]
    rfl
  rw [climbs, components_normalize, Route.components, h, List.takeWhile_append_of_pos hups,
    takeWhile_up_names, List.append_nil, List.length_replicate]

theorem exists_anchor_of_relative (h : p.isAbsolute = false) :
    p.route.anchor = .above p.climbs := by
  have hrooted := p.isRooted_route
  rw [h, Route.isRooted] at hrooted
  cases hanchor : p.route.anchor with
  | root =>
    rw [hanchor] at hrooted
    cases hrooted
  | above k => rw [climbs_of_anchor hanchor]

/-! ## Where two relative paths part -/

/-- A base that climbs no higher than the target has only names behind what they share. -/
theorem parting_of_climbs (hbase : base.route.anchor = .above k)
    (htarget : target.route.anchor = .above (k + j)) :
    parting base target = dropShared (base.route.names.map .name)
      (List.replicate j .up ++ target.route.names.map .name) := by
  rw [parting, Route.components, Route.components, hbase, htarget]
  simp only [List.replicate_add, List.append_assoc]
  exact dropShared_append _ _ _

/-- A base that climbs higher has a `..` behind what they share. -/
theorem up_mem_parting (hbase : base.route.anchor = .above (k + j + 1))
    (htarget : target.route.anchor = .above k) : Component.up ∈ (parting base target).1 := by
  have hparting : parting base target =
      dropShared (.up :: (List.replicate j .up ++ base.route.names.map .name))
        (target.route.names.map .name) := by
    rw [parting, Route.components, Route.components, hbase, htarget]
    simp only [Nat.add_assoc, List.replicate_add k, List.replicate_succ, List.append_assoc,
      List.cons_append, dropShared_append]
  -- the target goes down there, or ends
  rw [hparting]
  cases target.route.names with
  | nil => exact List.mem_cons_self
  | cons n names =>
    rw [List.map_cons, dropShared, if_neg (by simp)]
    exact List.mem_cons_self

/-! ## When there is a relative path -/

/-- The texts of two paths say how to get from the one to the other: both are absolute, or
    both are relative and the first climbs no higher than the second. -/
def Reachable (base target : Path) : Prop :=
  (base.isAbsolute = true ∧ target.isAbsolute = true) ∨
    (base.isAbsolute = false ∧ target.isAbsolute = false ∧ base.climbs ≤ target.climbs)

instance : Decidable (Reachable base target) := inferInstanceAs (Decidable (_ ∨ _))

theorem Reachable.related (h : Reachable base target) : Related base target := by
  rcases h with ⟨hbase, htarget⟩ | ⟨hbase, htarget, hclimbs⟩
  · exact related_of_isAbsolute hbase htarget
  · refine ⟨by rw [isRooted_route, isRooted_route, hbase, htarget], ?_⟩
    obtain ⟨j, hj⟩ := Nat.exists_eq_add_of_le hclimbs
    have hparting := parting_of_climbs (exists_anchor_of_relative hbase)
      (hj ▸ exists_anchor_of_relative htarget)
    obtain ⟨shared, hnames, -⟩ := exists_append_dropShared (base.route.names.map name)
      (List.replicate j .up ++ target.route.names.map .name)
    rw [hparting]
    exact all_isName_of_append hnames

theorem related_iff : Related base target ↔ Reachable base target := by
  refine ⟨fun h => ?_, Reachable.related⟩
  have hrooted := h.rooted
  rw [isRooted_route, isRooted_route] at hrooted
  by_cases hbase : base.isAbsolute = true
  · exact Or.inl ⟨hbase, hrooted ▸ hbase⟩
  · rw [Bool.not_eq_true] at hbase
    have htarget : target.isAbsolute = false := hrooted ▸ hbase
    refine Or.inr ⟨hbase, htarget, ?_⟩
    by_contra hclimbs
    -- the base would be left with a `..`, which is no name
    obtain ⟨j, hj⟩ : ∃ j, base.climbs = target.climbs + j + 1 :=
      ⟨base.climbs - target.climbs - 1, by omega⟩
    have hup := up_mem_parting (hj ▸ exists_anchor_of_relative hbase)
      (exists_anchor_of_relative htarget)
    have hname := List.all_eq_true.1 h.back _ hup
    cases hname

theorem relativeTo_of_not_related (h : ¬ Related base target) :
    target.relativeTo base = target.normalize.compact := by
  unfold relativeTo
  split_ifs with hrooted
  · rfl
  · have hback : ¬ (parting base target).1.all isName = true := fun hback =>
      h ⟨not_not.1 hrooted, hback⟩
    exact if_neg hback

/-! ## Equal paths -/

theorem ofMoves_eq_here_iff {moves : List Component} (hmoves : ∀ c ∈ moves, c.IsMove) :
    ofMoves moves = ⟨"."⟩ ↔ moves = [] := by
  constructor
  · intro h
    by_contra hne
    -- the spelling has the moves for its components, and `.` is none
    have hcomponents := components_ofMoves hmoves hne
    have hhere : components ⟨"."⟩ = [.here] := by decide
    rw [h, hhere] at hcomponents
    exact hmoves .here (hcomponents ▸ List.mem_singleton_self _)
  · rintro rfl
    rfl

theorem normalize_eq_iff_components {p q : Path} :
    p.normalize = q.normalize ↔ p.route.components = q.route.components := by
  constructor
  · intro h
    rw [← components_normalize, h, components_normalize]
  · intro h
    rw [normalize, normalize, ← p.route.foldl_components, h, q.route.foldl_components]

theorem movesTo_eq_nil_iff : movesTo base target = [] ↔ base.normalize = target.normalize := by
  rw [normalize_eq_iff_components, movesTo, List.append_eq_nil_iff, List.map_eq_nil_iff]
  constructor
  · rintro ⟨hback, hforth⟩
    obtain ⟨shared, hbase, htarget⟩ := exists_append_parting base target
    rw [hbase, htarget, hback, hforth]
  · intro h
    have hself := dropShared_append_self target.route.components []
    rw [List.append_nil] at hself
    rw [parting, h, hself]
    exact ⟨rfl, rfl⟩

theorem relativeTo_eq_here_iff (h : Related base target) :
    target.relativeTo base = ⟨"."⟩ ↔ base.normalize = target.normalize := by
  rw [relativeTo_eq h, ofMoves_eq_here_iff fun _ => isMove_of_mem_movesTo h.rooted,
    movesTo_eq_nil_iff]

/-! ## All pairs of paths -/

/-- Between reachable paths the relative path is one: read from the base it has the normal
    spelling of the target, and it is `.` exactly if both have the same.  For all other pairs
    the result is the target itself, in normal spelling and with `.` for the empty path. -/
theorem relativeTo_reaches (base target : Path) :
    (Reachable base target →
      LeadsTo base (target.relativeTo base) target ∧
        (target.relativeTo base = ⟨"."⟩ ↔ base.normalize = target.normalize)) ∧
    (¬ Reachable base target → target.relativeTo base = target.normalize.compact) := by
  rw [← related_iff]
  exact ⟨fun h => ⟨leadsTo_relativeTo h, relativeTo_eq_here_iff h⟩, relativeTo_of_not_related⟩

/-- From `../a/./b` the file `../../c` is two directories and a climb away; the other way
    round it cannot be said how the directory above is called. -/
theorem relativeTo_reaches_climbing :
    Reachable ⟨"../a/./b"⟩ ⟨"../..//c"⟩ ∧
      ((Path.mk "../a/./b").join (relativeTo ⟨"../..//c"⟩ ⟨"../a/./b"⟩)).normalize =
        ⟨"../../c"⟩ ∧
      relativeTo ⟨"../..//c"⟩ ⟨"../a/./b"⟩ ≠ ⟨"."⟩ ∧
      ¬ Reachable ⟨"../..//c"⟩ ⟨"../a/./b"⟩ ∧
      relativeTo ⟨"../a/./b"⟩ ⟨"../..//c"⟩ = ⟨"../a/b"⟩ := by
  have hreach : Reachable ⟨"../a/./b"⟩ ⟨"../..//c"⟩ := by decide
  have hnot : ¬ Reachable ⟨"../..//c"⟩ ⟨"../a/./b"⟩ := by decide
  obtain ⟨hleads, hhere⟩ := (relativeTo_reaches ⟨"../a/./b"⟩ ⟨"../..//c"⟩).1 hreach
  have hback := (relativeTo_reaches ⟨"../..//c"⟩ ⟨"../a/./b"⟩).2 hnot
  have hdiffer : (Path.mk "../a/./b").normalize ≠ (Path.mk "../..//c").normalize := by decide
  have hspelled : (Path.mk "../..//c").normalize = ⟨"../../c"⟩ := by decide
  have hcompact : (Path.mk "../a/./b").normalize.compact = ⟨"../a/b"⟩ := by decide
  exact ⟨hreach, hleads.same.trans hspelled, fun h => hdiffer (hhere.1 h), hnot,
    hback.trans hcompact⟩

end Path

end GrammarBindings
