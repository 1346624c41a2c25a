/-
  GrammarBindings.Proofs.Template.Coverage

  Files made from templates without a warning.  The names that a warning is looked for in are
  those of the leftmost cutting at all words.  If each of them is declared by the kind of the
  file, it has a value, and rendering cuts the template in the same way.

    * `mem_placeholders_iff_mem_names` — the placeholders of a text are the names of that cutting.
    * `scan_of_unknownPlaceholders` — without a warning rendering finds the same cutting.

  Main statement: `generate_without_warning`.
-/
import GrammarBindings.Proofs.Kotlin.Clash
import GrammarBindings.Proofs.Template.Replacement
import GrammarBindings.Proofs.Template.Warning

namespace GrammarBindings

namespace Template

/-- The placeholders of a text are the names of its leftmost cutting at all words. -/
theorem mem_placeholders_iff_mem_names {template name : String} :
    name ∈ placeholders template ↔
      name ∈ (Cutting.scan everyName template.toList).names.map String.ofList := by
  rw [mem_placeholders_iff_mem_cut, Cutting.scan, Cutting.names_ofPieces]

end Template

open Template

namespace TemplateCollection

variable {kind : ArtifactKind} {subs : Substitution} {ts : TemplateCollection}

/-- Without a warning every name that is looked up has a value. -/
theorem hasValue_of_unknownPlaceholders (hsubs : subs.map Prod.fst = kind.placeholders)
    (h : ts.unknownPlaceholders kind = []) {n : List Char}
    (hn : n ∈ lookups everyName (ts.get kind).toList) : subs.hasValue n = true := by
  by_contra hnone
  have hwarned : String.ofList n ∈ ts.unknownPlaceholders kind := by
    rw [mem_unknownPlaceholders_iff hsubs]
    exact List.mem_map_of_mem (List.mem_filter.2 ⟨hn, by simpa using hnone⟩)
  rw [h] at hwarned
  cases hwarned

/-- Without a warning a template is cut as if every word had a value. -/
theorem scan_of_unknownPlaceholders (hsubs : subs.map Prod.fst = kind.placeholders)
    (h : ts.unknownPlaceholders kind = []) :
    Cutting.scan subs.hasValue (ts.get kind).toList =
      Cutting.scan everyName (ts.get kind).toList := by
  have hcut : cut subs.hasValue (ts.get kind).toList = cut everyName (ts.get kind).toList :=
    cut_congr fun _ hn => hasValue_of_unknownPlaceholders hsubs h hn
  rw [Cutting.scan, Cutting.scan, hcut]

end TemplateCollection

/-! ## Generated files -/

theorem filter_generate (v : ValidSpec) (ts : TemplateCollection) (l : Layout)
    (kind : ArtifactKind) :
    (generate v ts l).filter (fun a => a.kind = kind) = [v.spec.artifact ts l kind] := by
  have hkind (k : ArtifactKind) : (v.spec.artifact ts l k).kind = k := rfl
  have hall : ArtifactKind.all.filter (fun k => k = kind) = [kind] := by
    cases kind <;> rfl
  simp only [generate, List.filter_map, Function.comp_def, hkind, hall, List.map_singleton]

/-- If there is no warning about the template of a kind, then the one file of this kind is the
    template with the value of its name in place of each placeholder that the search for
    warnings finds, and with all text between them.  Rendering finds the same placeholders, and
    the names with a value are those that the kind declares. -/
theorem generate_without_warning (v : ValidSpec) (ts : TemplateCollection) (l : Layout)
    (kind : ArtifactKind) (h : ts.unknownPlaceholders kind = []) :
    ∃ (c : Cutting) (value : List Char → String),
      (∀ d : Cutting, d.Leftmost everyName (ts.get kind).toList ↔ d = c) ∧
      (∀ name, name ∈ placeholders (ts.get kind) ↔ name ∈ c.names.map String.ofList) ∧
      (∀ d : Cutting, d.Leftmost (v.spec.substitution l kind).hasValue (ts.get kind).toList ↔
        d = c) ∧
      (v.spec.substitution l kind).map Prod.fst = kind.placeholders ∧
      (∀ s ∈ c.segments, String.ofList s.name ∈ kind.placeholders ∧
        (v.spec.substitution l kind).value? s.name = some (value s.name)) ∧
      ((generate v ts l).filter fun a => a.kind = kind).map (fun a => a.contents) =
        [String.ofList (c.fill fun name => (value name).toList)] := by
  have hsubs := v.spec.map_fst_substitution l kind
  have hscan := TemplateCollection.scan_of_unknownPlaceholders hsubs h
  refine ⟨Cutting.scan everyName (ts.get kind).toList, (v.spec.substitution l kind).valueOf,
    fun d => leftmost_iff_eq_scan, fun name => mem_placeholders_iff_mem_names, fun d => ?_, hsubs,
    fun s hs => ?_, ?_⟩
  · rw [leftmost_iff_eq_scan, hscan]
  · rw [← hscan] at hs
    have hvalue := ((leftmost_scan _ _).slots s hs).accepted
    refine ⟨?_, value?_eq_some hvalue⟩
    rwa [hasValue_eq_contains hsubs, List.contains_iff_mem] at hvalue
  · rw [filter_generate, List.map_singleton, Spec.artifact, render_eq_fill, hscan]

/-- A template in which markers of placeholders meet stray ones. -/
def strayMarkers : String := "x@@CLASS@PACKAGE@ @METHODS@"

/-- The theorem at a spec with one accessor and a template with stray markers. -/
theorem generate_without_warning_strayMarkers :
    ∃ v : ValidSpec, v.spec = Spec.oneAccessor "language" "tree_sitter_foo" ∧
      (TemplateCollection.withCommon strayMarkers).unknownPlaceholders .common = [] ∧
      ∃ (c : Cutting) (value : List Char → String),
        c = ⟨[⟨"x@".toList, "CLASS".toList⟩, ⟨"PACKAGE@ ".toList, "METHODS".toList⟩], []⟩ ∧
        (∀ s ∈ c.segments,
          (v.spec.substitution ⟨⟨"/out"⟩⟩ .common).value? s.name = some (value s.name)) ∧
        ((generate v (.withCommon strayMarkers) ⟨⟨"/out"⟩⟩).filter fun a => a.kind = .common).map
            (fun a => a.contents) =
          [String.ofList (c.fill fun name => (value name).toList)] := by
  have hsubs : TemplateCollection.blank.map Prod.fst = ArtifactKind.common.placeholders := rfl
  have hlookups : (lookups everyName strayMarkers.toList).filter
      (fun n => !TemplateCollection.blank.hasValue n) = [] := by
    decide
  have hnone : (TemplateCollection.withCommon strayMarkers).unknownPlaceholders .common = [] := by
    rw [List.eq_nil_iff_forall_not_mem]
    intro name hname
    rw [TemplateCollection.mem_unknownPlaceholders_iff hsubs, TemplateCollection.withCommon,
      TemplateCollection.get, hlookups] at hname
    cases hname
  obtain ⟨c, value, hleftmost, -, -, -, hvalue, hcontents⟩ := generate_without_warning
    ⟨_, Spec.language_valid⟩ (.withCommon strayMarkers) ⟨⟨"/out"⟩⟩ .common hnone
  have hc : c = ⟨[⟨"x@".toList, "CLASS".toList⟩, ⟨"PACKAGE@ ".toList, "METHODS".toList⟩], []⟩ := by
    rw [← (hleftmost _).1 (leftmost_scan _ _)]
    decide
  exact ⟨⟨_, Spec.language_valid⟩, rfl, hnone, c, value, hc, fun s hs => (hvalue s hs).2, hcontents⟩

end GrammarBindings
