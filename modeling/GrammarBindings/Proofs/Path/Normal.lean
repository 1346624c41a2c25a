/-
  GrammarBindings.Proofs.Path.Normal

  The texts of normal spellings.  Folding a path keeps a route of an anchor and names; what it
  is spelled as can be told from the text alone, and such a text is not changed by folding.

    * `IsNormal` — the normal texts.
    * `isNormal_iff` — they are the spellings of routes.
    * `foldl_join_components` — the components of a route, joined one after the other, give
      its spelling, so joining puts in every slash and none too many.

  Main statement: `normalize_text`.
-/
import GrammarBindings.Proofs.Path.Inside

namespace GrammarBindings

open Component

namespace Path

/-! ## Normal texts -/

/-- A normal text is relative, some `..` and then names, or absolute, a slash and then names;
    single slashes stand between these, and none behind them.  With no `..` and no name a
    relative one is empty, with no name an absolute one is the slash. -/
inductive IsNormal : Path → Prop
  | relative (climbs : Nat) {names : List String} (h : ∀ n ∈ names, IsName n) :
      IsNormal ⟨"/".intercalate (List.replicate climbs ".." ++ names)⟩
  | absolute {names : List String} (h : ∀ n ∈ names, IsName n) :
      IsNormal ⟨"/" ++ "/".intercalate names⟩

theorem isNormal_iff {p : Path} :
    p.IsNormal ↔ ∃ r : Route, Location.Proper r.names ∧ r.toPath = p := by
  constructor
  · intro h
    cases h with
    | @relative climbs names h => exact ⟨⟨.above climbs, names⟩, h, rfl⟩
    | @absolute names h => exact ⟨⟨.root, names⟩, h, rfl⟩
  · rintro ⟨⟨anchor, names⟩, h, rfl⟩
    cases anchor with
    | root => exact .absolute h
    | above climbs => exact .relative climbs h

theorem IsNormal.normalize_eq {p : Path} (h : p.IsNormal) : p.normalize = p := by
  obtain ⟨r, hr, rfl⟩ := isNormal_iff.1 h
  rw [normalize, Route.route_toPath hr]

theorem isNormal_normalize (p : Path) : p.normalize.IsNormal :=
  isNormal_iff.2 ⟨p.route, p.proper_route_names, rfl⟩

theorem isAbsolute_normalize (p : Path) : p.normalize.isAbsolute = p.isAbsolute := by
  rw [← isRooted_route, route_normalize, isRooted_route]

/-- At the root there is nothing to climb to. -/
theorem up_notMem_pieces_normalize {p : Path} (h : p.isAbsolute = true) :
    ".." ∉ p.normalize.pieces := by
  rw [normalize_of_isAbsolute h]
  by_cases hne : p.place = []
  · rw [hne, Location.pieces_toPath_nil]
    decide
  · rw [Location.pieces_toPath p.proper_place hne, List.mem_cons, not_or]
    exact ⟨by decide, fun hmem => (p.proper_place _ hmem).ne_up rfl⟩

/-! ## Spelling by joining -/

theorem separator_of_no_slash {t : String} (hne : t ≠ "") (hslash : '/' ∉ t.toList) :
    separator ⟨t⟩ = "/" := by
  refine if_neg ?_
  rintro (hempty | hlast)
  · exact hne hempty
  · exact hslash (List.mem_of_getLast? hlast)

theorem isAbsolute_of_no_slash {t : String} (hslash : '/' ∉ t.toList) :
    isAbsolute ⟨t⟩ = false := by
  rw [isAbsolute, beq_eq_false_iff_ne]
  exact fun h => hslash (List.mem_of_mem_head? h)

/-- Texts without slashes that are joined one after the other have single slashes between
    them. -/
theorem foldl_join {ts : List String} (hts : ∀ t ∈ ts, t ≠ "" ∧ '/' ∉ t.toList) (hne : ts ≠ [])
    (p : Path) :
    ts.foldl (fun q t => q.join ⟨t⟩) p = ⟨p.text ++ p.separator ++ "/".intercalate ts⟩ := by
  induction ts generalizing p with
  | nil => exact absurd rfl hne
  | cons t ts ih =>
    rw [List.forall_mem_cons] at hts
    obtain ⟨⟨ht, hslash⟩, hts⟩ := hts
    have hjoin : p.join ⟨t⟩ = ⟨p.text ++ p.separator ++ t⟩ :=
      join_of_relative (isAbsolute_of_no_slash hslash) p
    rw [List.foldl_cons, hjoin]
    by_cases hempty : ts = []
    · rw [hempty, List.foldl_nil, String.intercalate_singleton]
    · -- `t` ends in no slash, so the next text gets one in front
      have hseparator : separator ⟨p.text ++ p.separator ++ t⟩ = "/" := by
        rw [separator_append _ (q := ⟨t⟩) ht, separator_of_no_slash ht hslash]
      rw [ih hts hempty, hseparator, String.intercalate_cons_of_ne_nil hempty]
      simp only [String.append_assoc]

/-- The components of a route, joined one after the other, give its spelling. -/
theorem foldl_join_components {r : Route} (hr : Location.Proper r.names) :
    r.components.foldl (fun q c => q.join ⟨c.text⟩) ⟨""⟩ = r.toPath := by
  have hnames : ∀ n ∈ r.names, n ≠ "" ∧ '/' ∉ n.toList := fun n hn =>
    ⟨(hr n hn).ne_empty, (hr n hn).no_slash⟩
  have htext : ∀ (cs : List Component) (p : Path),
      cs.foldl (fun q c => q.join ⟨c.text⟩) p =
        (cs.map Component.text).foldl (fun q t => q.join ⟨t⟩) p := by
    intro cs p
    rw [List.foldl_map]
  have hmap : (r.names.map name).map Component.text = r.names := by
    rw [List.map_map]
    exact List.map_id' _
  cases hanchor : r.anchor with
  | root =>
    -- the slash of the root takes the place of the empty path and ends in a slash itself
    have hroot : join ⟨""⟩ ⟨"/"⟩ = ⟨"/"⟩ := by decide
    have hseparator : separator ⟨"/"⟩ = "" := by decide
    simp only [Route.components, Route.toPath, hanchor]
    rw [List.singleton_append, List.foldl_cons, Component.text, hroot, htext, hmap]
    by_cases hempty : r.names = []
    · rw [hempty]
      rfl
    · rw [foldl_join hnames hempty, hseparator, String.append_empty]
  | above k =>
    have hseparator : separator ⟨""⟩ = "" := by decide
    have htexts : r.components.map Component.text = List.replicate k ".." ++ r.names := by
      rw [Route.components, hanchor, List.map_append, hmap, List.map_replicate]
      rfl
    have hparts : ∀ t ∈ List.replicate k ".." ++ r.names, t ≠ "" ∧ '/' ∉ t.toList := by
      intro t ht
      rcases List.mem_append.1 ht with ht | ht
      · rw [List.eq_of_mem_replicate ht]
        decide
      · exact hnames t ht
    rw [htext, htexts, Route.toPath, hanchor]
    by_cases hempty : List.replicate k ".." ++ r.names = []
    · simp only [hempty]
      rfl
    · rw [foldl_join hparts hempty, hseparator, String.empty_append, String.empty_append]

/-! ## Normal spellings -/

/-- The normal spelling of a path is a normal text, absolute exactly if the path is, and then
    without any `..`.  It is what the components that are left give when they are joined one
    after the other.  The paths that are their own normal spellings are the normal texts, so
    nothing is changed a second time. -/
theorem normalize_text (p : Path) :
    p.normalize.IsNormal ∧
      p.normalize.isAbsolute = p.isAbsolute ∧
      (p.isAbsolute = true → ".." ∉ p.normalize.pieces) ∧
      p.normalize.components.foldl (fun q c => q.join ⟨c.text⟩) ⟨""⟩ = p.normalize ∧
      (p.normalize = p ↔ p.IsNormal) ∧
      p.normalize.normalize = p.normalize := by
  refine ⟨p.isNormal_normalize, p.isAbsolute_normalize, up_notMem_pieces_normalize, ?_, ?_,
    p.isNormal_normalize.normalize_eq⟩
  · rw [components_normalize]
    exact foldl_join_components p.proper_route_names
  · exact ⟨fun h => h ▸ p.isNormal_normalize, fun h => h.normalize_eq⟩

/-- The theorem at a path that climbs above the root and has a name of three dots. -/
theorem normalize_text_aboveRoot :
    (Path.mk "/..//a/./.../../../b/").isAbsolute = true ∧
      (Path.mk "/..//a/./.../../../b/").normalize = ⟨"/b"⟩ ∧
      ".." ∉ (Path.mk "/b").pieces ∧ (Path.mk "/b").IsNormal := by
  have habsolute : (Path.mk "/..//a/./.../../../b/").isAbsolute = true := by decide
  have hnormalize : (Path.mk "/..//a/./.../../../b/").normalize = ⟨"/b"⟩ := by decide
  obtain ⟨hnormal, -, hclimb, -⟩ := normalize_text ⟨"/..//a/./.../../../b/"⟩
  rw [hnormalize] at hnormal hclimb
  exact ⟨habsolute, hnormalize, hclimb habsolute, hnormal⟩

end Path

end GrammarBindings
