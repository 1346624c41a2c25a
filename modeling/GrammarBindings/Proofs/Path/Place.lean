/-
  GrammarBindings.Proofs.Path.Place

  Absolute paths in normal spelling and places in a tree are the same thing: such
  a path is a slash and the names of its place with slashes between them.

    * `IsName`, `Location.Proper` — texts that name an entry, places made of them.
    * `Path.place` — the place that the text of an absolute path leads to.
    * `Path.Canonical` — absolute and in normal spelling.

  `Canonical.eq_toPath` and `place_toPath` are the two directions.  The rest says
  on places what the operations on paths do: `child` adds a name, `parent?` takes
  the last one back, `ancestors` lists the places above.
-/
import GrammarBindings.FileTree.Access
import GrammarBindings.Path.Route
import GrammarBindings.Proofs.Text.Lines
import Mathlib.Data.List.Basic

namespace GrammarBindings

/-! ## Names -/

/-- A text that can name an entry of a directory. -/
structure IsName (s : String) : Prop where
  ne_empty : s ≠ ""
  ne_here : s ≠ "."
  ne_up : s ≠ ".."
  no_slash : '/' ∉ s.toList

/-- A place of which every part is a name. -/
def Location.Proper (l : Location) : Prop := ∀ s ∈ l, IsName s

namespace Location

theorem proper_nil : Proper [] := fun _ h => absurd h List.not_mem_nil

theorem proper_append {l m : Location} : Proper (l ++ m) ↔ Proper l ∧ Proper m := by
  simp only [Proper, List.mem_append, or_imp, forall_and]

theorem proper_singleton {s : String} : Proper [s] ↔ IsName s := by
  simp only [Proper, List.mem_singleton, forall_eq]

theorem Proper.dropLast {l : Location} (h : l.Proper) : Proper l.dropLast :=
  fun s hs => h s (List.dropLast_subset l hs)

end Location

namespace Path

/-! ## Pieces -/

theorem pieces_ne_nil (p : Path) : p.pieces ≠ [] := parts_ne_nil p.text

/-- Pieces without slashes are found again. -/
theorem pieces_intercalate {ps : List String} (hne : ps ≠ [])
    (hps : ∀ s ∈ ps, '/' ∉ s.toList) : pieces ⟨"/".intercalate ps⟩ = ps :=
  parts_intercalate hne hps

theorem no_slash_of_mem_pieces {p : Path} {s : String} (h : s ∈ p.pieces) :
    '/' ∉ s.toList :=
  notMem_of_mem_parts h

/-! ## Names among components -/

theorem ofPiece?_of_isName {s : String} (h : IsName s) :
    Component.ofPiece? s = some (.name s) := by
  rw [Component.ofPiece?, if_neg (by simp [h.ne_empty, h.ne_here]), if_neg h.ne_up]

theorem isName_of_ofPiece? {piece s : String} (hslash : '/' ∉ piece.toList)
    (h : Component.ofPiece? piece = some (.name s)) : IsName s := by
  unfold Component.ofPiece? at h
  split_ifs at h with hnone hup
  · cases h
  · obtain rfl : piece = s := by simpa using h
    rw [not_or] at hnone
    exact ⟨hnone.1, hnone.2, hup, hslash⟩

theorem isName_of_mem_components {p : Path} {s : String} (h : .name s ∈ p.components) :
    IsName s := by
  obtain ⟨first, rest, hpieces⟩ := List.exists_cons_of_ne_nil p.pieces_ne_nil
  have hslash : ∀ piece ∈ first :: rest, '/' ∉ piece.toList := by
    rw [← hpieces]
    exact fun _ => no_slash_of_mem_pieces
  simp only [components, hpieces, List.mem_append, List.mem_filterMap] at h
  rcases h with h | ⟨piece, hmem, hpiece⟩
  · split_ifs at h with habsolute hhere
    · simp at h
    · simp at h
    · rw [Option.mem_toList] at h
      exact isName_of_ofPiece? (hslash first List.mem_cons_self) h
  · exact isName_of_ofPiece? (hslash piece (List.mem_cons_of_mem _ hmem)) hpiece

/-! ## Routes -/

theorem proper_names_step {r : Route} {c : Component} (hr : Location.Proper r.names)
    (hc : ∀ s, c = .name s → IsName s) : Location.Proper (r.step c).names := by
  cases c with
  | root => exact Location.proper_nil
  | here => exact hr
  | up =>
    simp only [Route.step, Route.climb]
    split_ifs with hnames
    · -- climbing above the names adds none
      cases hanchor : r.anchor with
      | root => simpa [hanchor] using hr
      | above k => exact Location.proper_nil
    · exact hr.dropLast
  | name s =>
    exact Location.proper_append.2 ⟨hr, Location.proper_singleton.2 (hc s rfl)⟩

theorem proper_names_foldl {cs : List Component} {r : Route} (hr : Location.Proper r.names)
    (hcs : ∀ s, .name s ∈ cs → IsName s) :
    Location.Proper (cs.foldl Route.step r).names := by
  induction cs generalizing r with
  | nil => exact hr
  | cons c cs ih =>
    have hstep : Location.Proper (r.step c).names :=
      proper_names_step hr fun s hc => hcs s (by rw [hc]; exact List.mem_cons_self)
    exact ih hstep fun s hs => hcs s (List.mem_cons_of_mem _ hs)

/-- The names of a route are names. -/
theorem proper_route_names (p : Path) : Location.Proper p.route.names :=
  proper_names_foldl Location.proper_nil fun _ => isName_of_mem_components

/-- A route that began at the root goes on from there. -/
theorem anchor_foldl_root {cs : List Component} {r : Route} (hr : r.anchor = .root) :
    (cs.foldl Route.step r).anchor = .root := by
  induction cs generalizing r with
  | nil => exact hr
  | cons c cs ih =>
    apply ih
    cases c with
    | root => rfl
    | here => exact hr
    | up =>
      simp only [Route.step, Route.climb, hr]
      split_ifs
      · exact hr
      · rfl
    | name s => exact hr

theorem anchor_route_of_isAbsolute {p : Path} (h : p.isAbsolute = true) :
    p.route.anchor = .root := by
  obtain ⟨first, rest, hpieces⟩ := List.exists_cons_of_ne_nil p.pieces_ne_nil
  have hcomponents : p.components = .root :: rest.filterMap Component.ofPiece? := by
    simp only [components, hpieces, if_pos h, List.singleton_append]
  rw [route, hcomponents, List.foldl_cons]
  exact anchor_foldl_root rfl

/-! ## The place of an absolute path -/

/-- The place that the text of an absolute path leads to. -/
def place (p : Path) : Location := p.route.names

theorem proper_place (p : Path) : p.place.Proper := proper_route_names p

/-- The normal spelling of an absolute path is the path of its place. -/
theorem normalize_of_isAbsolute {p : Path} (h : p.isAbsolute = true) :
    p.normalize = p.place.toPath := by
  rw [normalize, Route.toPath, anchor_route_of_isAbsolute h]
  rfl

/-- An absolute path in normal spelling. -/
structure Canonical (p : Path) : Prop where
  absolute : p.isAbsolute = true
  normal : p.normalize = p

/-- A canonical path is the path of its place. -/
theorem Canonical.eq_toPath {p : Path} (h : p.Canonical) : p = p.place.toPath := by
  rw [← normalize_of_isAbsolute h.absolute, h.normal]

/-- Canonical paths with the same place are the same. -/
theorem Canonical.eq_of_place_eq {p q : Path} (hp : p.Canonical) (hq : q.Canonical)
    (h : p.place = q.place) : p = q := by
  rw [hp.eq_toPath, hq.eq_toPath, h]

end Path

/-! ## The path of a place -/

namespace Location

variable {l : Location} {n : String}

theorem isAbsolute_toPath (l : Location) : l.toPath.isAbsolute = true := by
  have hslash : "/".toList = ['/'] := rfl
  simp [Path.isAbsolute, toPath, String.toList_append, hslash]

theorem toPath_text_ne_empty (l : Location) : l.toPath.text ≠ "" := by
  intro h
  have habsolute := isAbsolute_toPath l
  simp [Path.isAbsolute, h] at habsolute

theorem toPath_eq_intercalate (hne : l ≠ []) : l.toPath = ⟨"/".intercalate ("" :: l)⟩ := by
  rw [toPath, String.intercalate_cons_of_ne_nil hne, String.empty_append]

theorem pieces_toPath (hl : l.Proper) (hne : l ≠ []) : l.toPath.pieces = "" :: l := by
  rw [toPath_eq_intercalate hne]
  refine Path.pieces_intercalate (List.cons_ne_nil _ _) fun s hs => ?_
  rcases List.mem_cons.1 hs with rfl | hs
  · simp
  · exact (hl s hs).no_slash

theorem pieces_toPath_nil : (toPath []).pieces = ["", ""] := by
  have htext : toPath [] = ⟨"/".intercalate ["", ""]⟩ := rfl
  rw [htext]
  exact Path.pieces_intercalate (by simp) (by simp)

theorem filterMap_ofPiece? (hl : l.Proper) : l.filterMap Component.ofPiece? = l.map .name := by
  induction l with
  | nil => rfl
  | cons s l ih =>
    rw [List.filterMap_cons, Path.ofPiece?_of_isName (hl s List.mem_cons_self), List.map_cons,
      ih fun s hs => hl s (List.mem_cons_of_mem _ hs)]

theorem components_toPath (hl : l.Proper) : l.toPath.components = .root :: l.map .name := by
  by_cases hne : l = []
  · rw [hne]
    simp only [Path.components, pieces_toPath_nil, isAbsolute_toPath]
    rfl
  · simp only [Path.components, pieces_toPath hl hne, isAbsolute_toPath, if_true,
      filterMap_ofPiece? hl, List.singleton_append]

theorem foldl_step_names (names : List String) (r : Route) :
    (names.map Component.name).foldl Route.step r = { r with names := r.names ++ names } := by
  induction names generalizing r with
  | nil => simp
  | cons s names ih => simp [Route.step, ih]

theorem route_toPath (hl : l.Proper) : l.toPath.route = ⟨.root, l⟩ := by
  rw [Path.route, components_toPath hl, List.foldl_cons, foldl_step_names]
  rfl

@[simp] theorem place_toPath (hl : l.Proper) : l.toPath.place = l := by
  rw [Path.place, route_toPath hl]

theorem canonical_toPath (hl : l.Proper) : l.toPath.Canonical where
  absolute := isAbsolute_toPath l
  normal := by rw [Path.normalize_of_isAbsolute (isAbsolute_toPath l), place_toPath hl]

/-! ## Going down -/

theorem not_isAbsolute_of_isName (hn : IsName n) : Path.isAbsolute ⟨n⟩ = false := by
  rw [Path.isAbsolute, beq_eq_false_iff_ne]
  intro h
  exact hn.no_slash (List.mem_of_mem_head? h)

theorem getLast?_toPath (hl : l.Proper) (hne : l ≠ []) :
    l.toPath.text.toList.getLast? ≠ some '/' := by
  obtain ⟨m, s, rfl⟩ := (List.eq_nil_or_concat' l).resolve_left hne
  have hs : IsName s := hl s (by simp)
  have htext : (toPath (m ++ [s])).text = "/".intercalate ("" :: m) ++ "/" ++ s := by
    rw [toPath_eq_intercalate (by simp), ← List.cons_append,
      String.intercalate_append_of_ne_nil (by simp) (by simp), String.intercalate_singleton]
  -- the last character is that of the last name
  rw [htext, String.toList_append, List.getLast?_append_of_ne_nil]
  · intro h
    exact hs.no_slash (List.mem_of_getLast? h)
  · simpa using hs.ne_empty

/-- Below a place a name leads one step down. -/
theorem child_toPath (hl : l.Proper) (hn : IsName n) :
    l.toPath.child n = toPath (l ++ [n]) := by
  rw [Path.child, Path.join, not_isAbsolute_of_isName hn]
  simp only [Bool.false_eq_true, if_false, toPath_text_ne_empty, false_or]
  by_cases hne : l = []
  · subst hne
    rfl
  · rw [if_neg (getLast?_toPath hl hne), toPath, toPath,
      String.intercalate_append_of_ne_nil hne (by simp), String.intercalate_singleton]
    simp only [String.append_assoc]

/-! ## Going up -/

theorem trimPieces_of_proper (hl : l.Proper) : Path.trimPieces l = l := by
  have hkeep : ∀ s ∈ l, ¬ (s = "" ∨ s = ".") := fun s hs h =>
    h.elim (hl s hs).ne_empty (hl s hs).ne_here
  have hreverse : l.reverse.dropWhile (fun s => s = "" ∨ s = ".") = l.reverse := by
    cases hr : l.reverse with
    | nil => rfl
    | cons s rest =>
      have hs : s ∈ l := by
        rw [← List.mem_reverse, hr]
        exact List.mem_cons_self
      rw [List.dropWhile_cons_of_neg (by simpa using hkeep s hs)]
  rw [Path.trimPieces, hreverse, List.reverse_reverse]

/-- The directory of a place is the place without its last name. -/
theorem parent?_toPath_append (hl : l.Proper) (hn : IsName n) :
    (toPath (l ++ [n])).parent? = some l.toPath := by
  have hproper : Proper (l ++ [n]) := proper_append.2 ⟨hl, proper_singleton.2 hn⟩
  have hlead : (toPath (l ++ [n])).splitLead = ([""], l ++ [n]) := by
    simp only [Path.splitLead, pieces_toPath hproper (by simp), isAbsolute_toPath, true_or,
      if_true]
  -- `parent?` asks whether any piece is left, so the list is shown to begin with one
  obtain ⟨first, rest, hcons⟩ := List.exists_cons_of_ne_nil
    (show l ++ [n] ≠ [] by simp)
  simp only [Path.parent?, hlead, trimPieces_of_proper hproper]
  rw [hcons]
  simp only [← hcons, List.dropLast_concat, trimPieces_of_proper hl, isAbsolute_toPath, and_true]
  by_cases hne : l = []
  · rw [if_pos hne, hne]
    rfl
  · rw [if_neg hne, toPath_eq_intercalate hne]
    rfl

/-- Nothing lies above the root. -/
theorem parent?_toPath_nil : (toPath []).parent? = none := by
  have hlead : (toPath []).splitLead = ([""], [""]) := by
    simp only [Path.splitLead, pieces_toPath_nil, isAbsolute_toPath, true_or, if_true]
  simp only [Path.parent?, hlead]
  rfl

theorem ancestorsFrom_toPath_append (fuel : Nat) (hl : l.Proper) (hn : IsName n) :
    Path.ancestorsFrom (fuel + 1) (toPath (l ++ [n])) =
      toPath (l ++ [n]) :: Path.ancestorsFrom fuel l.toPath := by
  rw [Path.ancestorsFrom, parent?_toPath_append hl hn]
  rfl

theorem ancestorsFrom_toPath_nil (fuel : Nat) :
    Path.ancestorsFrom (fuel + 1) (toPath []) = [toPath []] := by
  rw [Path.ancestorsFrom, parent?_toPath_nil]
  rfl

end Location

/-! ## The last piece -/

namespace Path

theorem pieces_append_slash (s r : String) :
    pieces ⟨s ++ "/" ++ r⟩ = pieces ⟨s⟩ ++ pieces ⟨r⟩ :=
  parts_append s r

/-- An entry in a directory has its name for the last piece. -/
theorem exists_pieces_child (p : Path) {n : String} (hn : IsName n) :
    ∃ ps, (p.child n).pieces = ps ++ [n] := by
  have hsingle := pieces_intercalate (List.cons_ne_nil n []) (by simpa using hn.no_slash)
  rw [String.intercalate_singleton] at hsingle
  rw [child, join, Location.not_isAbsolute_of_isName hn, if_neg Bool.false_ne_true]
  split_ifs with h
  · rcases h with hempty | hend
    · exact ⟨[], by rw [hempty, String.empty_append, hsingle, List.nil_append]⟩
    · -- the slash at the end of `p` stands between its pieces and the name
      obtain ⟨front, htext⟩ : ∃ front, p.text = front ++ "/" := exists_append_singleton hend
      exact ⟨pieces ⟨front⟩, by rw [htext, pieces_append_slash, hsingle]⟩
  · exact ⟨p.pieces, by rw [pieces_append_slash, hsingle]⟩

end Path

/-! ## Absolute paths from a working directory -/

namespace Path

theorem isAbsolute_join {p q : Path} (hp : p.isAbsolute = true) :
    (p.join q).isAbsolute = true := by
  have hhead : ∀ s : String, (Path.mk (p.text ++ s)).isAbsolute = true := by
    intro s
    simp only [isAbsolute, beq_iff_eq, String.toList_append, List.head?_append] at hp ⊢
    rw [hp]
    rfl
  unfold join
  split_ifs with hq hend
  · exact hq
  · exact hhead q.text
  · rw [String.append_assoc]
    exact hhead ("/" ++ q.text)

/-- Read from an absolute directory, every path becomes canonical. -/
theorem canonical_absolute {cwd p : Path} (hcwd : cwd.isAbsolute = true) :
    (absolute cwd p).Canonical := by
  have hnormalize {q : Path} (hq : q.isAbsolute = true) : q.normalize.Canonical := by
    rw [normalize_of_isAbsolute hq]
    exact Location.canonical_toPath q.proper_place
  unfold absolute
  split_ifs with hp
  · exact hnormalize hp
  · exact hnormalize (isAbsolute_join hcwd)

end Path

end GrammarBindings
