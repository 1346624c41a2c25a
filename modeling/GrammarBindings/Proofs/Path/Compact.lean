/-
  GrammarBindings.Proofs.Path.Compact

  The compact spelling of a path.  A path is written component by component, each joined to
  the text so far, which decides whether a slash has to come in between.  Whatever has been
  written has exactly the components that were put in, and no slash too many.

    * `components_eq_lead_append` — a path is what begins it, and then steps.
    * `components_join_of_relative` — a joined path has the components of the first one and
      then the steps of the second one.
    * `components_foldl_join`, `Tidy.foldl_join` — what joining one component keeps, many of
      them keep.
    * `compact_eq_ofComponents` — the compact spelling is what is written in this way.

  Main statement: `compact_text`.
-/
import GrammarBindings.Proofs.Path.Normal
import Mathlib.Data.List.Chain

namespace GrammarBindings

open Component

namespace Path

variable {p q : Path} {s t : String} {c : Component} {cs : List Component}

/-! ## What begins a path -/

/-- The component in front of the steps of a path: the root of an absolute one, or the `.`
    that a relative one begins with. -/
def lead (p : Path) : List Component :=
  if p.isAbsolute then [.root]
  else if p.pieces.head? = some "." then [.here]
  else []

theorem components_eq_lead_append (p : Path) : p.components = p.lead ++ p.steps := by
  obtain ⟨first, rest, hpieces⟩ := List.exists_cons_of_ne_nil p.pieces_ne_nil
  by_cases habsolute : p.isAbsolute = true
  · -- the piece before the first slash is empty and no step
    obtain ⟨rest', hrest⟩ := pieces_of_isAbsolute habsolute
    obtain ⟨rfl, rfl⟩ := List.cons.inj (hpieces.symm.trans hrest)
    have hfirst : ofPiece? "" = none := rfl
    simp only [components, lead, steps, hpieces, habsolute, if_true, List.filterMap_cons, hfirst]
  · simp only [components, lead, steps, hpieces, habsolute, Bool.false_eq_true, if_false,
      List.head?_cons, Option.some.injEq]
    by_cases hhere : first = "."
    · have hfirst : ofPiece? "." = none := rfl
      rw [if_pos hhere, if_pos hhere, hhere, List.filterMap_cons, hfirst]
    · rw [if_neg hhere, if_neg hhere, List.nil_append, List.filterMap_cons]
      cases ofPiece? first <;> rfl

theorem isMove_of_mem_steps (hc : c ∈ p.steps) : c.IsMove := by
  obtain ⟨piece, hpiece, hread⟩ := List.mem_filterMap.1 hc
  cases c with
  | up => trivial
  | name s => exact isName_of_ofPiece? (no_slash_of_mem_pieces hpiece) hread
  | root | here =>
    -- no piece is read as one of these
    unfold ofPiece? at hread
    split_ifs at hread <;> cases hread

/-! ## Components of joined paths -/

/-- The piece before the first slash of a path is not changed by what is put behind a slash. -/
theorem head?_pieces_append_slash (s r : String) :
    (pieces ⟨s ++ "/" ++ r⟩).head? = (pieces ⟨s⟩).head? := by
  rw [pieces_append_slash, List.head?_append_of_ne_nil _ (pieces_ne_nil _)]

theorem head?_pieces_slash (s : String) : (pieces ⟨s ++ "/"⟩).head? = (pieces ⟨s⟩).head? := by
  have happend := head?_pieces_append_slash s ""
  rwa [String.append_empty] at happend

theorem components_append_slash (s r : String) :
    components ⟨s ++ "/" ++ r⟩ = components ⟨s ++ "/"⟩ ++ steps ⟨r⟩ := by
  have hne : s ++ "/" ≠ "" := by simp
  have hlead : lead ⟨s ++ "/" ++ r⟩ = lead ⟨s ++ "/"⟩ := by
    rw [lead, lead, isAbsolute_append hne, head?_pieces_append_slash, head?_pieces_slash]
  rw [components_eq_lead_append, components_eq_lead_append ⟨s ++ "/"⟩, hlead,
    steps_append_slash, steps_slash, List.append_assoc]

/-- A slash behind a text that is not empty adds no component. -/
theorem components_slash (hs : s ≠ "") : components ⟨s ++ "/"⟩ = components ⟨s⟩ := by
  rw [components_eq_lead_append, components_eq_lead_append ⟨s⟩, steps_slash, lead, lead,
    isAbsolute_append hs, head?_pieces_slash]

theorem components_join_of_relative (hp : p.text ≠ "") (hq : q.isAbsolute = false) :
    (p.join q).components = p.components ++ q.steps := by
  rw [join_of_relative hq, separator]
  by_cases hend : p.text.toList.getLast? = some '/'
  · -- the slash at the end of `p` is the one between the two
    obtain ⟨front, htext⟩ : ∃ front, p.text = front ++ "/" := exists_append_singleton hend
    rw [if_pos (Or.inr hend), String.append_empty, htext, components_append_slash, ← htext]
  · rw [if_neg (not_or.2 ⟨hp, hend⟩), components_append_slash, components_slash hp]

/-- A move that is joined to a path becomes its last component. -/
theorem components_join_text (hc : c.IsMove) (p : Path) :
    (p.join ⟨c.text⟩).components = p.components ++ [c] := by
  have hmoves : ∀ d ∈ [c], d.IsMove := by
    intro d hd
    rwa [List.mem_singleton.1 hd]
  have hspell : ofMoves [c] = ⟨c.text⟩ := congrArg Path.mk String.intercalate_singleton
  have hsteps := steps_ofMoves hmoves
  have hrelative := isAbsolute_ofMoves hmoves
  have hcomponents := components_ofMoves hmoves (List.cons_ne_nil c [])
  rw [hspell] at hsteps hrelative hcomponents
  by_cases hempty : p.text = ""
  · -- behind nothing the text of `c` stands alone
    obtain rfl : p = ⟨""⟩ := congrArg Path.mk hempty
    rw [join_empty_left, hcomponents]
    rfl
  · rw [components_join_of_relative hempty hrelative, hsteps]

/-- Moves that are joined to a path one after the other become its last components. -/
theorem components_foldl_join (hcs : ∀ c ∈ cs, c.IsMove) (p : Path) :
    (cs.foldl (fun q c => q.join ⟨c.text⟩) p).components = p.components ++ cs := by
  -- move by move; `p` is what has been written before
  induction cs generalizing p with
  | nil => rw [List.foldl_nil, List.append_nil]
  | cons c cs ih =>
    rw [List.forall_mem_cons] at hcs
    rw [List.foldl_cons, ih hcs.2, components_join_text hcs.1, List.append_assoc,
      List.singleton_append]

/-- Names that are gone down by become the last components. -/
theorem components_foldl_child {names : List String} (hnames : Location.Proper names) (p : Path) :
    (names.foldl child p).components = p.components ++ names.map .name := by
  have hmoves : ∀ c ∈ names.map Component.name, c.IsMove := by
    intro c hc
    obtain ⟨n, hn, rfl⟩ := List.mem_map.1 hc
    exact hnames n hn
  rw [← components_foldl_join hmoves, List.foldl_map]
  rfl

/-! ## Slashes -/

/-- A path without two slashes in a row, and without one at its end unless it is the root. -/
structure Tidy (p : Path) : Prop where
  single : ¬ "//".toList <:+: p.text.toList
  last : p.text.toList.getLast? = some '/' → p = ⟨"/"⟩

theorem single_iff_isChain {cs : List Char} :
    ¬ "//".toList <:+: cs ↔ cs.IsChain fun a b => ¬ (a = '/' ∧ b = '/') := by
  rw [List.isChain_iff_forall_rel_of_append_cons_cons]
  constructor
  · rintro h a b front back hcs ⟨rfl, rfl⟩
    exact h ⟨front, back, by rw [hcs, List.append_assoc]; rfl⟩
  · rintro h ⟨front, back, hcs⟩
    rw [List.append_assoc] at hcs
    exact h hcs.symm ⟨rfl, rfl⟩

/-- Two texts that are put together have two slashes in a row only if one of them has, or if
    the one ends and the other begins with a slash. -/
theorem single_append {cs ds : List Char} (hcs : ¬ "//".toList <:+: cs)
    (hds : ¬ "//".toList <:+: ds) (h : cs.getLast? = some '/' → ds.head? ≠ some '/') :
    ¬ "//".toList <:+: cs ++ ds := by
  rw [single_iff_isChain] at hcs hds ⊢
  refine hcs.append hds ?_
  rintro a ha b hb ⟨rfl, rfl⟩
  exact h ha hb

theorem single_of_notMem {cs : List Char} (h : '/' ∉ cs) : ¬ "//".toList <:+: cs :=
  fun hslashes => h (hslashes.subset List.mem_cons_self)

/-- A path that is ready to be joined to has no slash too many. -/
theorem Tidy.single_separated (h : p.Tidy) :
    ¬ "//".toList <:+: (p.text ++ p.separator).toList := by
  rw [separator]
  split_ifs with hend
  · rw [String.append_empty]
    exact h.single
  · rw [String.toList_append]
    exact single_append h.single (by decide) fun hlast => absurd (Or.inr hlast) hend

/-- Joining a text without slashes puts in the one that is missing, and no other. -/
theorem Tidy.join (h : p.Tidy) (hne : t ≠ "") (hslash : '/' ∉ t.toList) : (p.join ⟨t⟩).Tidy := by
  have htext : (p.join ⟨t⟩).text.toList = (p.text ++ p.separator).toList ++ t.toList := by
    rw [join_of_relative (isAbsolute_of_no_slash hslash), String.toList_append]
  constructor
  · rw [htext]
    exact single_append h.single_separated (single_of_notMem hslash) fun _ hhead =>
      hslash (List.mem_of_mem_head? hhead)
  · rw [htext, List.getLast?_append_of_ne_nil _ (by simpa using hne)]
    -- the last character is that of `t`
    intro hlast
    exact absurd (List.mem_of_getLast? hlast) hslash

/-- A move is written as a text that is not empty and has no slash. -/
theorem text_of_isMove (hc : c.IsMove) : c.text ≠ "" ∧ '/' ∉ c.text.toList := by
  refine ⟨?_, no_slash_text hc⟩
  cases c with
  | root | here => exact hc.elim
  | up => decide
  | name s => exact hc.ne_empty

theorem Tidy.foldl_join (hcs : ∀ c ∈ cs, c.IsMove) (h : p.Tidy) :
    (cs.foldl (fun q c => q.join ⟨c.text⟩) p).Tidy := by
  -- the text so far stays tidy, so the next slash is put in where it has to be
  induction cs generalizing p with
  | nil => exact h
  | cons c cs ih =>
    rw [List.forall_mem_cons] at hcs
    obtain ⟨hempty, hslash⟩ := text_of_isMove hcs.1
    exact ih hcs.2 (h.join hempty hslash)

/-! ## Writing components -/

/-- The path that some components give when they are joined one after the other. -/
def ofComponents (cs : List Component) : Path := cs.foldl (fun q c => q.join ⟨c.text⟩) ⟨""⟩

/-- The components of a path are written from what begins it on. -/
theorem ofComponents_components (p : Path) :
    ofComponents p.components = p.steps.foldl (fun q c => q.join ⟨c.text⟩) (ofComponents p.lead) := by
  rw [components_eq_lead_append, ofComponents, List.foldl_append, ofComponents]

theorem ofComponents_lead (p : Path) :
    (ofComponents p.lead).components = p.lead ∧ (ofComponents p.lead).Tidy := by
  rw [lead]
  split_ifs
  · exact ⟨by decide, by decide, fun _ => by decide⟩
  · exact ⟨by decide, by decide, by decide⟩
  · exact ⟨by decide, by decide, by decide⟩

/-- The components of a path are found again in what they give. -/
theorem components_ofComponents (p : Path) :
    (ofComponents p.components).components = p.components := by
  rw [ofComponents_components, components_foldl_join fun _ => isMove_of_mem_steps,
    (ofComponents_lead p).1, ← components_eq_lead_append]

theorem tidy_ofComponents (p : Path) : (ofComponents p.components).Tidy := by
  rw [ofComponents_components]
  exact (ofComponents_lead p).2.foldl_join fun _ => isMove_of_mem_steps

/-! ## The compact spelling -/

theorem text_of_mem_components (hc : c ∈ p.components) (hroot : c ≠ .root) :
    c.text ≠ "" ∧ '/' ∉ c.text.toList := by
  rw [components_eq_lead_append, List.mem_append] at hc
  rcases hc with hlead | hstep
  · obtain rfl : c = .here := by
      unfold lead at hlead
      split_ifs at hlead <;> simp_all
    exact ⟨by decide, by decide⟩
  · exact text_of_isMove (isMove_of_mem_steps hstep)

/-- Components other than the root are written with a slash in front of each but the first. -/
theorem foldl_join_text (hcs : ∀ c ∈ cs, c.text ≠ "" ∧ '/' ∉ c.text.toList) (hne : cs ≠ [])
    (p : Path) :
    cs.foldl (fun q c => q.join ⟨c.text⟩) p =
      ⟨p.text ++ p.separator ++ "/".intercalate (cs.map Component.text)⟩ := by
  have htexts : ∀ t ∈ cs.map Component.text, t ≠ "" ∧ '/' ∉ t.toList := by
    intro t ht
    obtain ⟨c, hc, rfl⟩ := List.mem_map.1 ht
    exact hcs c hc
  rw [← foldl_join htexts (by simpa using hne), List.foldl_map]

theorem components_of_isAbsolute (h : p.isAbsolute = true) : p.components = .root :: p.steps := by
  rw [components_eq_lead_append, lead, if_pos h, List.singleton_append]

theorem compact_of_isAbsolute (h : p.isAbsolute = true) :
    p.compact = ⟨"/" ++ "/".intercalate (p.steps.map Component.text)⟩ := by
  simp only [compact, components_of_isAbsolute h]

theorem compact_of_relative (h : p.isAbsolute = false) (hne : p.components ≠ []) :
    p.compact = ⟨"/".intercalate (p.components.map Component.text)⟩ := by
  have hroot := root_notMem_components h
  unfold compact
  split
  case h_1 hnil => exact absurd hnil hne
  case h_2 steps hcons => exact absurd (hcons ▸ List.mem_cons_self) hroot
  case h_3 => rfl

/-- The compact spelling of a path with components is what these give when they are joined. -/
theorem compact_eq_ofComponents (hne : p.components ≠ []) :
    p.compact = ofComponents p.components := by
  have hseparator : separator ⟨""⟩ = "" := by decide
  by_cases habsolute : p.isAbsolute = true
  · -- the root takes the place of the empty path, and no slash is put behind it
    have hroot : ofComponents [.root] = ⟨"/"⟩ := by decide
    have hend : separator ⟨"/"⟩ = "" := by decide
    have hlead : p.lead = [.root] := if_pos habsolute
    rw [compact_of_isAbsolute habsolute, ofComponents_components, hlead, hroot]
    by_cases hsteps : p.steps = []
    · rw [hsteps]
      rfl
    · have htexts : ∀ c ∈ p.steps, c.text ≠ "" ∧ '/' ∉ c.text.toList := fun _ hc =>
        text_of_isMove (isMove_of_mem_steps hc)
      rw [foldl_join_text htexts hsteps, hend, String.append_empty]
  · rw [Bool.not_eq_true] at habsolute
    have htexts : ∀ c ∈ p.components, c.text ≠ "" ∧ '/' ∉ c.text.toList := fun c hc =>
      text_of_mem_components hc fun heq => root_notMem_components habsolute (heq ▸ hc)
    rw [compact_of_relative habsolute hne, ofComponents, foldl_join_text htexts hne, hseparator,
      String.empty_append, String.empty_append]

theorem compact_of_components_nil (h : p.components = []) : p.compact = ⟨"."⟩ := by
  simp only [compact, h]

theorem components_compact (hne : p.components ≠ []) : p.compact.components = p.components := by
  rw [compact_eq_ofComponents hne, components_ofComponents]

theorem tidy_compact (p : Path) : p.compact.Tidy := by
  by_cases hempty : p.components = []
  · rw [compact_of_components_nil hempty]
    exact ⟨by decide, by decide⟩
  · rw [compact_eq_ofComponents hempty]
    exact tidy_ofComponents p

theorem compact_compact (p : Path) : p.compact.compact = p.compact := by
  by_cases hempty : p.components = []
  · rw [compact_of_components_nil hempty]
    decide
  · -- the spelling depends on nothing but the components, and these are the same
    have hcomponents := components_compact hempty
    have hne : p.compact.components ≠ [] := by
      rw [hcomponents]
      exact hempty
    rw [compact_eq_ofComponents hne, hcomponents, ← compact_eq_ofComponents hempty]

theorem normalize_compact (p : Path) : p.compact.normalize = p.normalize := by
  by_cases hempty : p.components = []
  · -- `.` leads nowhere else than no components do
    have hhere : (Path.mk ".").route = Route.start := by decide
    rw [compact_of_components_nil hempty, normalize, normalize, hhere, route, hempty,
      List.foldl_nil]
  · rw [normalize, normalize, route, route, components_compact hempty]

/-- The compact spelling of a path with components has the same ones, a `.` in front and every
    `..` included, and is what they give when they are joined one after the other; that of a
    path with none is `.`.  In either case slashes stand alone and none at the end, but for the
    root; spelling it again changes nothing, and neither does it change where the path leads. -/
theorem compact_text (p : Path) :
    (p.components ≠ [] →
        p.compact.components = p.components ∧ p.compact = ofComponents p.components) ∧
      (p.components = [] → p.compact = ⟨"."⟩) ∧
      p.compact.Tidy ∧
      p.compact.compact = p.compact ∧
      p.compact.normalize = p.normalize :=
  ⟨fun hne => ⟨components_compact hne, compact_eq_ofComponents hne⟩, compact_of_components_nil,
    p.tidy_compact, p.compact_compact, p.normalize_compact⟩

/-- The theorem at a path with a `.` in front and one inside, at the root with a `..` behind it,
    and at the empty path. -/
theorem compact_text_mixture :
    (Path.mk ".//./a/.././/b c//").components ≠ [] ∧
      (Path.mk "./a/../b c").components = [.here, .name "a", .up, .name "b c"] ∧
      (Path.mk "./a/../b c").Tidy ∧
      (Path.mk "//./..//").components ≠ [] ∧
      (Path.mk "/..").components = [.root, .up] ∧
      (Path.mk "").components = [] ∧ (Path.mk "").compact = ⟨"."⟩ := by
  have hspelled : (Path.mk ".//./a/.././/b c//").compact = ⟨"./a/../b c"⟩ := by decide
  have hrooted : (Path.mk "//./..//").compact = ⟨"/.."⟩ := by decide
  have hne : (Path.mk ".//./a/.././/b c//").components ≠ [] := by decide
  have hne' : (Path.mk "//./..//").components ≠ [] := by decide
  have hempty : (Path.mk "").components = [] := by decide
  obtain ⟨hkept, -, htidy, -⟩ := compact_text ⟨".//./a/.././/b c//"⟩
  obtain ⟨hkept', -⟩ := compact_text ⟨"//./..//"⟩
  rw [hspelled] at hkept htidy
  rw [hrooted] at hkept'
  exact ⟨hne, (hkept hne).1.trans (by decide), htidy, hne', (hkept' hne').1.trans (by decide),
    hempty, (compact_text ⟨""⟩).2.1 hempty⟩

end Path

end GrammarBindings
