/-
  GrammarBindings.Proofs.Path.Shortest

  Among the relative paths that lead from one absolute path to another, the one that is given
  has the fewest components.  The number of its components is the distance of the two places
  in the tree of all places, and a component of any path goes to a neighbour or stays.

    * `Location.distance` — the number of names by which two places are apart.
    * `Location.distance_concat` — going to a neighbour changes it by one at the most.
    * `distance_step`, `distance_foldl` — so does one component of a relative path, and many
      components change it by no more than their number.
    * `relativeTo_eq_climbThenDown` — the relative path climbs to where the ways to the two
      places part and goes down by names.

  Main statement: `relativeTo_shortest`.
-/
import GrammarBindings.Proofs.Path.Reachable

namespace GrammarBindings

open Component

/-- What two lists share is shared by their images. -/
theorem dropShared_map {α β : Type} [DecidableEq α] [DecidableEq β] {f : α → β}
    (hf : Function.Injective f) (as bs : List α) :
    dropShared (as.map f) (bs.map f) =
      ((dropShared as bs).1.map f, (dropShared as bs).2.map f) := by
  induction as generalizing bs with
  | nil => rfl
  | cons a as ih =>
    cases bs with
    | nil => rfl
    | cons b bs =>
      by_cases hab : a = b
      · rw [List.map_cons, List.map_cons, hab, dropShared_cons_self, dropShared_cons_self, ih]
      · have hne : f a ≠ f b := fun heq => hab (hf heq)
        simp only [List.map_cons, dropShared, if_neg hab, if_neg hne]

/-! ## The distance of two places -/

namespace Location

/-- The number of names by which two places are apart: those that lead from the last directory
    on the way to both of them to the one place, and those that lead to the other. -/
def distance (l m : Location) : Nat := (dropShared l m).1.length + (dropShared l m).2.length

theorem distance_self (l : Location) : l.distance l = 0 := by
  have hself := dropShared_append_self l []
  rw [List.append_nil] at hself
  rw [distance, hself]
  rfl

/-- A place and an entry of it are neighbours: no third place is farther from the one than
    from the other by more than one. -/
theorem distance_concat (l m : Location) (s : String) :
    distance (l ++ [s]) m ≤ distance l m + 1 ∧ distance l m ≤ distance (l ++ [s]) m + 1 := by
  induction l generalizing m with
  | nil =>
    cases m with
    | nil => simp [distance, dropShared]
    | cons t m =>
      -- the entry lies on the way to the third place, or it does not
      by_cases hst : s = t
      · simp only [distance, List.nil_append, dropShared, hst, if_true, List.length_nil,
          List.length_cons]
        omega
      · simp only [distance, List.nil_append, dropShared, if_neg hst, List.length_nil,
          List.length_cons]
        omega
  | cons r l ih =>
    cases m with
    | nil => simp [distance, dropShared]
    | cons t m =>
      by_cases hrt : r = t
      · subst hrt
        simpa only [distance, List.cons_append, dropShared_cons_self] using ih m
      · simp only [distance, List.cons_append, dropShared, if_neg hrt, List.length_cons,
          List.length_append, List.length_nil]
        omega

end Location

namespace Route

/-! ## Going from place to place -/

variable {r : Route}

/-- A component goes to a neighbour or stays, unless it starts again from the root. -/
theorem distance_step {c : Component} (hr : r.anchor = .root) (hc : c ≠ .root) (m : Location) :
    Location.distance r.names m ≤ Location.distance (r.step c).names m + 1 := by
  cases c with
  | root => exact absurd rfl hc
  | here => exact Nat.le_succ _
  | name s => exact (Location.distance_concat r.names m s).2
  | up =>
    obtain ⟨anchor, names⟩ := r
    obtain rfl : anchor = .root := hr
    rcases List.eq_nil_or_concat' names with rfl | ⟨init, s, rfl⟩
    · -- at the root climbing stays
      exact Nat.le_succ _
    · have hback : step ⟨.root, init ++ [s]⟩ .up = ⟨.root, init⟩ := step_name_up ⟨.root, init⟩ s
      rw [hback]
      exact (Location.distance_concat init m s).1

/-- Components that do not start again bring a place nearer by their number at most, and a `.`
    does not count. -/
theorem distance_foldl {cs : List Component} (hr : r.anchor = .root) (hcs : .root ∉ cs)
    (m : Location) :
    Location.distance r.names m ≤
      Location.distance (cs.foldl step r).names m + (cs.filter (· ≠ .here)).length := by
  induction cs generalizing r with
  | nil => exact Nat.le_refl _
  | cons c cs ih =>
    rw [List.mem_cons, not_or] at hcs
    have hstep : (r.step c).anchor = .root := @Path.anchor_foldl_root [c] r hr
    have hrest := ih hstep hcs.2
    by_cases hhere : c = .here
    · subst hhere
      exact hrest
    · have hfirst := distance_step hr (Ne.symm hcs.1) m
      rw [List.foldl_cons, List.filter_cons_of_pos (by simpa using hhere), List.length_cons]
      omega

end Route

namespace Path

/-! ## Counting components -/

/-- The components of a path, not counting a `.`. -/
def moves (p : Path) : List Component := p.components.filter (· ≠ .here)

/-- The spelling of moves has these for its components; without any it is a `.`. -/
theorem moves_ofMoves {cs : List Component} (hcs : ∀ c ∈ cs, c.IsMove) : (ofMoves cs).moves = cs := by
  by_cases hne : cs = []
  · rw [hne]
    decide
  · rw [moves, components_ofMoves hcs hne, List.filter_eq_self]
    intro c hc
    have hmove := hcs c hc
    cases c with
    | here => exact hmove.elim
    | root | up | name s => rfl

/-- No relative path to a place has fewer components than that place is away. -/
theorem distance_le_length_moves {base target r : Path} (hbase : base.isAbsolute = true)
    (h : LeadsTo base r target) :
    base.place.distance target.place ≤ r.moves.length := by
  have hroute : r.components.foldl Route.step base.route = target.route := by
    rw [← route_join, ← route_normalize, h.same, route_normalize]
  have hdistance := Route.distance_foldl (anchor_route_of_isAbsolute hbase)
    (root_notMem_components h.relative) target.place
  rw [hroute, place, Location.distance_self, Nat.zero_add] at hdistance
  exact hdistance

/-! ## The moves of the relative path -/

/-- Some climbs and then names to go down by. -/
def climbThenDown (climbs : Nat) (names : List String) : List Component :=
  List.replicate climbs .up ++ names.map .name

theorem isMove_of_mem_climbThenDown {climbs : Nat} {names : List String}
    (hnames : Location.Proper names) : ∀ c ∈ climbThenDown climbs names, c.IsMove := by
  intro c hc
  rcases List.mem_append.1 hc with hc | hc
  · rw [List.eq_of_mem_replicate hc]
    trivial
  · obtain ⟨s, hs, rfl⟩ := List.mem_map.1 hc
    exact hnames s hs

theorem text_ofMoves_climbThenDown (climbs : Nat) (names : List String) :
    (ofMoves (climbThenDown climbs names)).text =
      if climbs = 0 ∧ names = [] then "."
      else "/".intercalate (List.replicate climbs ".." ++ names) := by
  have hempty : climbThenDown climbs names = [] ↔ climbs = 0 ∧ names = [] := by
    simp [climbThenDown]
  have htexts : (climbThenDown climbs names).map Component.text =
      List.replicate climbs ".." ++ names := by
    rw [climbThenDown, List.map_append, List.map_replicate, List.map_map]
    exact congrArg _ (List.map_id' names)
  rw [ofMoves, htexts]
  simp only [hempty]
  split_ifs <;> rfl

variable {base target : Path}

/-- The relative path climbs to the last directory that lies on the way to both places and
    goes down from there. -/
theorem relativeTo_eq_climbThenDown (hbase : base.isAbsolute = true)
    (htarget : target.isAbsolute = true) :
    target.relativeTo base =
      ofMoves (climbThenDown (dropShared base.place target.place).1.length
        (dropShared base.place target.place).2) := by
  have hparting := parting_of_root (anchor_route_of_isAbsolute hbase)
    (anchor_route_of_isAbsolute htarget)
  rw [dropShared_map (fun _ _ => name.inj)] at hparting
  rw [relativeTo_eq (related_of_isAbsolute hbase htarget), movesTo, hparting, List.map_const',
    List.length_map]
  rfl

theorem proper_dropShared (base target : Path) :
    Location.Proper (dropShared base.place target.place).2 := by
  obtain ⟨shared, -, htarget⟩ := exists_append_dropShared base.place target.place
  have hproper := target.proper_place
  rw [htarget, Location.proper_append] at hproper
  exact hproper.2

/-- Between absolute paths the relative path is spelled by some `..` and names behind them, a
    single `.` if there are neither, and leads to the target.  No other relative path that
    leads there has fewer components, where a `.` does not count. -/
theorem relativeTo_shortest (hbase : base.isAbsolute = true) (htarget : target.isAbsolute = true) :
    (∃ (climbs : Nat) (names : List String), Location.Proper names ∧
        (target.relativeTo base).moves = List.replicate climbs .up ++ names.map .name ∧
        (target.relativeTo base).text =
          if climbs = 0 ∧ names = [] then "."
          else "/".intercalate (List.replicate climbs ".." ++ names)) ∧
      LeadsTo base (target.relativeTo base) target ∧
      ∀ r : Path, LeadsTo base r target →
        (target.relativeTo base).moves.length ≤ r.moves.length := by
  have hnames := proper_dropShared base target
  have hmoves : (target.relativeTo base).moves =
      climbThenDown (dropShared base.place target.place).1.length
        (dropShared base.place target.place).2 := by
    rw [relativeTo_eq_climbThenDown hbase htarget]
    exact moves_ofMoves (isMove_of_mem_climbThenDown hnames)
  refine ⟨⟨_, _, hnames, hmoves, ?_⟩,
    leadsTo_relativeTo (related_of_isAbsolute hbase htarget), fun r hr => ?_⟩
  · rw [relativeTo_eq_climbThenDown hbase htarget]
    exact text_ofMoves_climbThenDown _ _
  · -- its components are as many as the places are apart
    have hlength : (target.relativeTo base).moves.length = base.place.distance target.place := by
      rw [hmoves, climbThenDown, List.length_append, List.length_replicate, List.length_map]
      rfl
    rw [hlength]
    exact distance_le_length_moves hbase hr

/-- From `/a/c` a detour over the root, which climbs once more than it can, leads to `/a/d/e`
    in six components; the relative path needs three. -/
theorem relativeTo_shortest_detour :
    Path.isAbsolute ⟨"/a/b/../c"⟩ = true ∧ Path.isAbsolute ⟨"/a//d/./e"⟩ = true ∧
      LeadsTo ⟨"/a/b/../c"⟩ ⟨"./../../../a/./d/e"⟩ ⟨"/a//d/./e"⟩ ∧
      (moves ⟨"./../../../a/./d/e"⟩).length = 6 ∧
      (relativeTo ⟨"/a//d/./e"⟩ ⟨"/a/b/../c"⟩).moves = [.up, .name "d", .name "e"] ∧
      (relativeTo ⟨"/a//d/./e"⟩ ⟨"/a/b/../c"⟩).moves.length ≤
        (moves ⟨"./../../../a/./d/e"⟩).length := by
  have hbase : Path.isAbsolute ⟨"/a/b/../c"⟩ = true := by decide
  have htarget : Path.isAbsolute ⟨"/a//d/./e"⟩ = true := by decide
  have hdetour : LeadsTo ⟨"/a/b/../c"⟩ ⟨"./../../../a/./d/e"⟩ ⟨"/a//d/./e"⟩ :=
    ⟨by decide, by decide⟩
  obtain ⟨-, -, hshortest⟩ := relativeTo_shortest hbase htarget
  exact ⟨hbase, htarget, hdetour, by decide, by decide, hshortest _ hdetour⟩

end Path

end GrammarBindings
