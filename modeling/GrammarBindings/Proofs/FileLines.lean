/-
  GrammarBindings.Proofs.FileLines

  The lines of the files that are made from the built-in templates.  What is made from the
  accessors comes in place of template lines that are nothing but a placeholder.  The other
  lines of a template have at most one placeholder, which stands for a name of the spec;
  such a name may itself have several lines.

    * `filled` — the lines of a template with given lines in place of some of its own.
    * `lines_contents_methods`, `lines_contents_native`, `lines_contents_jni` — the lines of
      files, the build script and the interop definition apart.
    * `perm_filled` — lines in another order in one place give all lines in another order.
-/
import GrammarBindings.Proofs.Kotlin.Contents
import Mathlib.Data.List.Perm.Basic

namespace GrammarBindings

namespace Spec

open Kotlin Template

/-! ## Filled templates -/

/-- The values of the placeholders that stand for names. -/
def nameValues (s : Spec) : Substitution :=
  [("PACKAGE", s.package), ("CLASS", s.className), ("LIBRARY", s.library),
    ("GRAMMAR", s.grammar)]

/-- The lines of the template of a kind, with the lines that `inserted` gives in place of
    the line that it gives them for, and with the spec's names in all other lines. -/
def filled (s : Spec) (kind : ArtifactKind) (inserted : List (String × List String)) :
    List String :=
  (lines kind.builtinTemplate).flatMap fun line =>
    (inserted.lookup line).getD (lines (render line s.nameValues))

/-- A placeholder for a name has the same value in every file that has it. -/
theorem lookup_substitution {s : Spec} (l : Layout) {kind : ArtifactKind} {name : String}
    (hname : name ∈ ["PACKAGE", "CLASS", "LIBRARY", "GRAMMAR"])
    (hkind : name ∈ kind.placeholders) :
    ∃ value, (s.substitution l kind).lookup name = some value ∧
      s.nameValues.lookup name = some value := by
  simp only [List.mem_cons, List.not_mem_nil, or_false] at hname
  rcases hname with rfl | rfl | rfl | rfl <;>
    cases kind <;>
      simp [ArtifactKind.placeholders, substitution, nameValues, List.lookup_cons] at hkind ⊢

/-- A file has the lines of its filled template, if those that are inserted are what their
    placeholders stand for and the others get no other values than names. -/
theorem lines_contents_eq (s : Spec) (l : Layout) {kind : ArtifactKind}
    {inserted : List (String × List String)}
    (hinserted : ∀ p ∈ inserted, lines (render p.1 (s.substitution l kind)) = p.2)
    (hothers : ∀ line ∈ lines kind.builtinTemplate, inserted.lookup line = none →
      render line (s.substitution l kind) = render line s.nameValues) :
    lines (s.artifact .builtin l kind).contents = s.filled kind inserted := by
  rw [artifact, TemplateCollection.get_builtin, lines_render, filled]
  -- line by line, since no placeholder goes over the end of a line
  refine List.flatMap_congr fun line hline => ?_
  cases hlookup : inserted.lookup line with
  | none => rw [hothers line hline hlookup, Option.getD_none]
  | some ls =>
    obtain ⟨before, after, hsplit, -⟩ := List.lookup_eq_some_iff.1 hlookup
    have hmem : (line, ls) ∈ inserted := by simp [hsplit]
    rw [Option.getD_some]
    exact hinserted (line, ls) hmem

/-- A line with a name in place of its placeholder. -/
theorem render_eq_nameValues {s : Spec} (l : Layout) {kind : ArtifactKind} {line : String}
    (h : lookups everyName line.toList = [] ∨
      ∃ v : ValueLine, line = v.text ∧ v.Single ∧ v.name ∈ kind.placeholders ∧
        v.name ∈ ["PACKAGE", "CLASS", "LIBRARY", "GRAMMAR"]) :
    render line (s.substitution l kind) = render line s.nameValues := by
  rcases h with hplain | ⟨v, rfl, hsingle, hkind, hname⟩
  · rw [render_of_lookups hplain, render_of_lookups hplain]
  · obtain ⟨value, hfile, hvalue⟩ := lookup_substitution (s := s) l hname hkind
    rw [hsingle.render_text hfile, hsingle.render_text hvalue]

/-! ## The files -/

section Files

variable (s : Spec) (l : Layout)

/-- The Kotlin files, with lines for their methods and imports. -/
theorem lines_contents_kotlin {kind : ArtifactKind} {inserted : List (String × List String)}
    (hkind : "METHODS" ∈ kind.placeholders)
    (hinserted : ∀ p ∈ inserted, lines (render p.1 (s.substitution l kind)) = p.2)
    (hmethods : inserted.lookup "@METHODS@" ≠ none)
    (himports : kind = .native → inserted.lookup "@IMPORTS@" ≠ none) :
    lines (s.artifact .builtin l kind).contents = s.filled kind inserted := by
  refine lines_contents_eq s l hinserted fun line hline hother => render_eq_nameValues l ?_
  obtain ⟨-, hplain | hslot | ⟨hslot, hnative⟩ | ⟨v, hv, hname, hchars⟩⟩ :=
    (templateLines hkind).line line hline
  · exact Or.inl hplain
  -- a line that is all placeholder is replaced, so it is none of the others
  · exact absurd (String.toList_inj.1 hslot ▸ hother) hmethods
  · exact absurd (String.toList_inj.1 hslot ▸ hother) (himports hnative)
  · have hnames : ∀ v ∈ valueLines, v.name ∈ ["PACKAGE", "CLASS", "LIBRARY", "GRAMMAR"] := by
      decide
    have htext : line = v.text := String.toList_inj.1 (hchars.trans v.toList_text.symm)
    exact Or.inr ⟨v, htext, single_of_mem_valueLines hv, hname, hnames v hv⟩

/-- A Kotlin file without imports. -/
theorem lines_contents_methods {kind : ArtifactKind} {methods : String}
    (hkind : "METHODS" ∈ kind.placeholders) (hnative : kind ≠ .native)
    (hmethods : (s.substitution l kind).lookup "METHODS" = some methods) :
    lines (s.artifact .builtin l kind).contents =
      s.filled kind [("@METHODS@", lines methods)] := by
  have hslot : lines (render "@METHODS@" (s.substitution l kind)) = lines methods := by
    rw [render_slot (by decide) (by decide) (by decide) hmethods]
  exact lines_contents_kotlin s l hkind (List.forall_mem_singleton.2 hslot) (by simp)
    fun h => absurd h hnative

/-- The Kotlin/Native file. -/
theorem lines_contents_native :
    lines (s.artifact .builtin l .native).contents =
      s.filled .native
        [("@IMPORTS@", lines s.nativeImports), ("@METHODS@", lines s.nativeMethods)] := by
  have himports : (s.substitution l .native).lookup "IMPORTS" = some s.nativeImports := by
    simp [substitution, List.lookup_cons]
  have hmethods : (s.substitution l .native).lookup "METHODS" = some s.nativeMethods := by
    simp [substitution, List.lookup_cons]
  have hfirst : lines (render "@IMPORTS@" (s.substitution l .native)) = lines s.nativeImports := by
    rw [render_slot (by decide) (by decide) (by decide) himports]
  have hsecond : lines (render "@METHODS@" (s.substitution l .native)) =
      lines s.nativeMethods := by
    rw [render_slot (by decide) (by decide) (by decide) hmethods]
  exact lines_contents_kotlin s l (by decide)
    (List.forall_mem_cons.2 ⟨hfirst, List.forall_mem_singleton.2 hsecond⟩)
    (by simp [List.lookup_cons]) fun _ => by simp

/-- The line of the C file that includes the header of the grammar. -/
def headerLine : ValueLine := ⟨"#include <tree-sitter-", "GRAMMAR", ".h>"⟩

/-- The lines in the template of the C file; one of them is that of the functions. -/
theorem jniTemplateLines :
    (∀ line ∈ lines ArtifactKind.jni.builtinTemplate, OneLine line ∧
      (lookups everyName line.toList = [] ∨ line.toList = headerLine.chars ∨
        line.toList = "@FUNCTIONS@".toList)) ∧
      (lines ArtifactKind.jni.builtinTemplate).count "@FUNCTIONS@" = 1 := by
  have hcharacters : ∃ css : List (List Char),
      ArtifactKind.jni.builtinTemplate = String.join (css.map String.ofList) ∧
        (∀ cs ∈ css, cs.getLast? = some '\n' ∧ '\n' ∉ cs.dropLast ∧
          (lookups everyName cs.dropLast = [] ∨ cs.dropLast = headerLine.chars ∨
            cs.dropLast = "@FUNCTIONS@".toList)) ∧
        (css.map List.dropLast).count "@FUNCTIONS@".toList = 1 := by
    -- as for the Kotlin files, unification gives the characters of the lines
    apply exists_characters
    case h => repeat' constructor
    case hP => decide
  obtain ⟨css, htemplate, hline, hcount⟩ := hcharacters
  constructor
  · exact forall_lines_of_characters (P := fun cs => lookups everyName cs = [] ∨
      cs = headerLine.chars ∨ cs = "@FUNCTIONS@".toList) (Or.inl rfl) ⟨css, htemplate, hline⟩
  · rw [htemplate, count_lines_of_characters
      (fun cs hcs => ⟨(hline cs hcs).1, (hline cs hcs).2.1⟩) (by decide), hcount]

/-- The C file. -/
theorem lines_contents_jni :
    lines (s.artifact .builtin l .jni).contents =
      s.filled .jni [("@FUNCTIONS@", lines s.nativeFunctions)] := by
  have hvalue : (s.substitution l .jni).lookup "FUNCTIONS" = some s.nativeFunctions := by
    simp [substitution, List.lookup_cons]
  have hslot : lines (render "@FUNCTIONS@" (s.substitution l .jni)) = lines s.nativeFunctions := by
    rw [render_slot (by decide) (by decide) (by decide) hvalue]
  have hsingle : headerLine.Single := by
    constructor <;> decide
  refine lines_contents_eq s l (List.forall_mem_singleton.2 hslot)
    fun line hline hother => render_eq_nameValues l ?_
  obtain ⟨-, hplain | hheader | hfunctions⟩ := jniTemplateLines.1 line hline
  · exact Or.inl hplain
  · have htext : line = headerLine.text :=
      String.toList_inj.1 (hheader.trans headerLine.toList_text.symm)
    exact Or.inr ⟨headerLine, htext, hsingle, by decide, by decide⟩
  · rw [String.toList_inj.1 hfunctions, List.lookup_cons_self] at hother
    cases hother

end Files

/-! ## Lines in another order -/

/-- If each of the inserted pieces is in another order, so are all lines. -/
theorem perm_filled (s : Spec) (kind : ArtifactKind) {inserted others : List (String × List String)}
    (h : List.Forall₂ (fun p q => p.1 = q.1 ∧ p.2.Perm q.2) inserted others) :
    (s.filled kind inserted).Perm (s.filled kind others) := by
  -- every line of the template keeps its place and brings what it brought before
  refine List.Perm.flatMap_left _ fun line _ => ?_
  induction h with
  | nil => exact List.Perm.refl _
  | @cons p q _ _ hpq _ ih =>
    obtain ⟨name, ls⟩ := p
    obtain ⟨_, ms⟩ := q
    obtain ⟨rfl, hperm⟩ := hpq
    rw [List.lookup_cons, List.lookup_cons]
    cases line == name with
    | true => exact hperm
    | false => exact ih

end Spec

end GrammarBindings
