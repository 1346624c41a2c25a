/-
  GrammarBindings.Proofs.Template.Piecewise

  Rendering and the search for placeholders go through a text piece by piece.  At a character
  that is neither a marker nor in a name, no placeholder is open: what stands before it ends
  there, and what stands behind it is read as if it were a text of its own.

    * `Separates` — the characters between which texts are pieces.
    * `mem_placeholders_append` — the placeholders around such a character are those of the
      two texts.
    * `pairwise_placeholders` — they are listed in ascending order.

  Main statement: `render_piecewise`.
-/
import GrammarBindings.Proofs.Accessors
import GrammarBindings.Proofs.Template.Render
import GrammarBindings.Proofs.Text.Ascii

namespace GrammarBindings

namespace Template

/-! ## Separators -/

/-- A character that is neither a marker nor a letter or digit of ASCII nor an underscore. -/
def Separates (c : Char) : Prop :=
  c ≠ '@' ∧ ¬ ('A' ≤ c ∧ c ≤ 'Z') ∧ ¬ ('a' ≤ c ∧ c ≤ 'z') ∧ ¬ ('0' ≤ c ∧ c ≤ '9') ∧ c ≠ '_'

instance : DecidablePred Separates := fun c => inferInstanceAs (Decidable (c ≠ '@' ∧ _))

variable {c : Char} {name : String}

/-- The characters of names are those that separate nothing, the marker apart. -/
theorem isNameChar_iff :
    isNameChar c = true ↔
      ('A' ≤ c ∧ c ≤ 'Z') ∨ ('a' ≤ c ∧ c ≤ 'z') ∨ ('0' ≤ c ∧ c ≤ '9') ∨ c = '_' := by
  rw [isNameChar, Char.isAlphanum, Bool.or_eq_true, Bool.or_eq_true, isAlpha_iff, isDigit_iff,
    beq_iff_eq, or_assoc, or_assoc]

theorem Separates.isNameChar_eq_false (h : Separates c) : isNameChar c = false := by
  obtain ⟨-, hupper, hlower, hdigit, hunderscore⟩ := h
  rw [Bool.eq_false_iff, Ne, isNameChar_iff]
  rintro (h | h | h | h)
  · exact hupper h
  · exact hlower h
  · exact hdigit h
  · exact hunderscore h

/-! ## The placeholders of a text -/

/-- No placeholder reaches over a separator. -/
theorem mem_placeholders_append (hc : Separates c) (s t : String) :
    name ∈ placeholders (s ++ String.singleton c ++ t) ↔
      name ∈ placeholders s ∨ name ∈ placeholders t := by
  have hchars : (s ++ String.singleton c ++ t).toList = s.toList ++ c :: t.toList := by
    rw [String.toList_append, String.toList_append, String.toList_singleton, List.append_assoc,
      List.singleton_append]
  rw [mem_placeholders_iff_mem_cut, mem_placeholders_iff_mem_cut, mem_placeholders_iff_mem_cut,
    hchars, cut_append_cons hc.1 hc.isNameChar_eq_false, List.filterMap_append,
    List.filterMap_cons_none rfl, List.mem_append]

theorem mem_placeholders_intercalate (hc : Separates c) (ts : List String) :
    name ∈ placeholders ((String.singleton c).intercalate ts) ↔
      ∃ t ∈ ts, name ∈ placeholders t := by
  induction ts with
  | nil =>
    rw [String.intercalate_nil, mem_placeholders_iff_mem_cut]
    simp [cut]
  | cons t ts ih =>
    by_cases hempty : ts = []
    · simp [hempty]
    · rw [String.intercalate_cons_of_ne_nil hempty, mem_placeholders_append hc, ih,
        List.exists_mem_cons_iff]

/-- The placeholders of a text are listed in ascending order, each once. -/
theorem pairwise_placeholders (template : String) : (placeholders template).Pairwise (· < ·) := by
  let names := (cut everyName template.toList).filterMap Piece.name?
  have hsorted : (placeholders template).Pairwise (· ≤ ·) := by
    have hmerge := @List.pairwise_mergeSort String (fun a b => decide (a ≤ b))
      (fun a b c hab hbc => by simpa using String.le_trans (by simpa using hab) (by simpa using hbc))
      (fun a b => by simpa using String.le_total a b) names.eraseDups
    exact hmerge.imp fun h => by simpa using h
  have hnodup : (placeholders template).Nodup :=
    (List.mergeSort_perm _ _).nodup_iff.2 (firstOccurrences_eraseDups names).nodup
  exact (hsorted.and hnodup).imp fun h => String.not_le.1 fun hle => h.2 (String.le_antisymm h.1 hle)

/-! ## Pieces -/

/-- Two texts around a separator are rendered by themselves, and the placeholders of the whole
    are the union of those of the two.  So a template is rendered part by part between the
    separators, and its placeholders are those of its parts; with the end of a line for the
    separator the parts are its lines. -/
theorem render_piecewise (hc : Separates c) (subs : Substitution) :
    (∀ a b : String,
      render (a ++ String.singleton c ++ b) subs =
          render a subs ++ String.singleton c ++ render b subs ∧
        (∀ name, name ∈ placeholders (a ++ String.singleton c ++ b) ↔
          name ∈ placeholders a ∨ name ∈ placeholders b) ∧
        (placeholders (a ++ String.singleton c ++ b)).Pairwise (· < ·)) ∧
      ∀ template : String,
        render template subs =
            (String.singleton c).intercalate ((parts c template).map fun t => render t subs) ∧
          ∀ name, name ∈ placeholders template ↔
            ∃ t ∈ parts c template, name ∈ placeholders t := by
  have hname := hc.isNameChar_eq_false
  refine ⟨fun a b => ⟨render_append hc.1 hname a b, fun name => mem_placeholders_append hc a b,
    pairwise_placeholders _⟩, fun template => ⟨render_eq_intercalate hc.1 hname template, ?_⟩⟩
  intro name
  rw [← mem_placeholders_intercalate hc, intercalate_parts]

/-- The theorem at two separators, a letter beyond ASCII and the end of a line.  The marker
    before `B` is open when the letter comes, so the next one opens a placeholder, and so it is
    with the marker at the end of the first line. -/
theorem render_piecewise_openMarkers :
    Separates 'é' ∧ Separates '\n' ∧
      render "@A@@Bé@A@ @B" [("A", "@B@")] = "@B@@B" ++ "é" ++ "@B@ @B" ∧
      (∀ name, name ∈ placeholders "@A@@Bé@C@ @B" ↔
        name ∈ placeholders "@A@@B" ∨ name ∈ placeholders "@C@ @B") ∧
      render "x@A\n@A@" [("A", "@B@")] = "\n".intercalate ["x@A", "@B@"] ∧
      ∀ name, name ∈ placeholders "x@A\n@C@" ↔
        ∃ t ∈ ["x@A", "@C@"], name ∈ placeholders t := by
  have hletter : Separates 'é' := by decide
  have hend : Separates '\n' := by decide
  obtain ⟨hpair, -⟩ := render_piecewise hletter [("A", "@B@")]
  obtain ⟨-, hall⟩ := render_piecewise hend [("A", "@B@")]
  have hleft : render "@A@@B" [("A", "@B@")] = "@B@@B" := by decide
  have hright : render "@A@ @B" [("A", "@B@")] = "@B@ @B" := by decide
  have hrender := (hpair "@A@@B" "@A@ @B").1
  rw [hleft, hright] at hrender
  have hlines : parts '\n' "x@A\n@A@" = ["x@A", "@A@"] := by decide
  have hlines' : parts '\n' "x@A\n@C@" = ["x@A", "@C@"] := by decide
  have hopen : render "x@A" [("A", "@B@")] = "x@A" := by decide
  have hclosed : render "@A@" [("A", "@B@")] = "@B@" := by decide
  have hbreak := (hall "x@A\n@A@").1
  rw [hlines, List.map_cons, List.map_singleton, hopen, hclosed] at hbreak
  have hnames := (hall "x@A\n@C@").2
  rw [hlines'] at hnames
  exact ⟨hletter, hend, hrender, (hpair "@A@@B" "@C@ @B").2.1, hbreak, hnames⟩

end Template

end GrammarBindings
