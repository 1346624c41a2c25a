/-
  GrammarBindings.Proofs.Recovery

  What the files of a binding tell about its spec.  The grammar and the library may have
  any names, also such as look like the text around them; they are told from their files
  once all other values in these are known.

    * `grammar_eq`, `library_eq` — the two free names, from the interop definition and
      the Android object.
    * `interop_eq` — the name of the interop definition, from its path.

  Main statement: `eq_of_same_artifacts`.
-/
import GrammarBindings.Proofs.Kotlin.Clash
import GrammarBindings.Proofs.Kotlin.Reading
import GrammarBindings.Proofs.Layout
import GrammarBindings.Proofs.Path.Relative
import GrammarBindings.Proofs.Template.Value

namespace GrammarBindings

/-- Two files are the same if they are of one kind, have one path, component by component,
    and the same contents. -/
structure Artifact.Same (a b : Artifact) : Prop where
  kind : a.kind = b.kind
  path : a.path.components = b.path.components
  contents : a.contents = b.contents

namespace Spec

open Kotlin Template

variable {s t : Spec} {l m : Layout}

/-! ## Free names -/

/-- The pieces of a template that is given by the characters of its lines. -/
theorem mem_cut_of_characters {template : String} {accepts : List Char → Bool} {p : Piece}
    (h : ∃ css : List (List Char), template = String.join (css.map String.ofList) ∧
      p ∈ cut accepts css.flatten) : p ∈ cut accepts template.toList := by
  obtain ⟨css, rfl, hp⟩ := h
  have hchars : (String.join (css.map String.ofList)).toList = css.flatten := by
    rw [String.toList_join, List.flatMap_map]
    simp only [String.toList_ofList, List.flatMap_id']
  rwa [hchars]

theorem grammar_eq (hpackage : s.package = t.package)
    (h : (s.artifact .builtin l .interop).contents = (t.artifact .builtin m .interop).contents) :
    s.grammar = t.grammar := by
  have hslot : .slot "GRAMMAR".toList ∈
      cut (fun n => ["PACKAGE", "GRAMMAR"].contains (String.ofList n))
        ArtifactKind.interop.builtinTemplate.toList := by
    apply mem_cut_of_characters
    apply exists_characters
    case h => repeat' constructor
    case hP => decide
  rw [artifact, artifact, substitution, substitution, hpackage, TemplateCollection.get_builtin] at h
  exact eq_of_render_eq [("PACKAGE", t.package)] [] rfl (by simp) hslot h

theorem library_eq (hpackage : s.package = t.package) (hclass : s.className = t.className)
    (haccessors : s.accessors = t.accessors)
    (h : (s.artifact .builtin l .android).contents = (t.artifact .builtin m .android).contents) :
    s.library = t.library := by
  have hslot : .slot "LIBRARY".toList ∈
      cut (fun n => ["PACKAGE", "CLASS", "LIBRARY", "METHODS"].contains (String.ofList n))
        ArtifactKind.android.builtinTemplate.toList := by
    apply mem_cut_of_characters
    apply exists_characters
    case h => repeat' constructor
    case hP => decide
  have hmethods : s.managedMethods androidAnnotations = t.managedMethods androidAnnotations := by
    rw [managedMethods, managedMethods, haccessors]
  rw [artifact, artifact, substitution, substitution, hpackage, hclass, hmethods,
    TemplateCollection.get_builtin] at h
  exact eq_of_render_eq [("PACKAGE", t.package), ("CLASS", t.className)]
    [("METHODS", t.managedMethods androidAnnotations)] rfl (by simp) hslot h

/-! ## The name of the interop definition -/

theorem interop_eq (hs : s.Valid) (ht : t.Valid)
    (h : (s.artifactPath l .interop).components = (t.artifactPath l .interop).components) :
    s.interop = t.interop := by
  have hsame : (s.artifactPath l .interop).route = (t.artifactPath l .interop).route := by
    rw [Path.route, Path.route, h]
  rw [route_artifactPath hs, route_artifactPath ht, Route.mk.injEq, List.append_cancel_left_eq] at hsame
  -- the file's name is the last part of its place
  have hname := congrArg List.getLast? hsame.2
  rw [belowRoot, belowRoot, List.getLast?_concat, List.getLast?_concat, Option.some.injEq, fileName,
    fileName, String.append_left_inj] at hname
  exact hname

/-! ## All names -/

/-- The file of a kind is the same in two bindings that have the same files. -/
theorem same_artifact {v w : ValidSpec} {ts us : TemplateCollection}
    (h : List.Forall₂ Artifact.Same (generate v ts l) (generate w us m)) (kind : ArtifactKind) :
    (v.spec.artifact ts l kind).Same (w.spec.artifact us m kind) := by
  rw [generate, generate, List.forall₂_map_left_iff, List.forall₂_map_right_iff,
    List.forall₂_same] at h
  exact h kind kind.mem_all

/-- The Kotlin/Native file made from the built-in template tells the package, the class and
    the accessors with their functions, in order, wherever it is put.  All seven files below
    one output directory tell the names of the interop definition, the library and the
    grammar besides. -/
theorem eq_of_same_artifacts (v w : ValidSpec) (l m : Layout) :
    ((v.spec.artifact .builtin l .native).contents =
        (w.spec.artifact .builtin m .native).contents →
      v.spec.package = w.spec.package ∧ v.spec.className = w.spec.className ∧
        v.spec.accessors.entries = w.spec.accessors.entries) ∧
    (List.Forall₂ Artifact.Same (generate v .builtin l) (generate w .builtin l) →
      v.spec.package = w.spec.package ∧ v.spec.className = w.spec.className ∧
        v.spec.interop = w.spec.interop ∧ v.spec.library = w.spec.library ∧
        v.spec.grammar = w.spec.grammar ∧
        v.spec.accessors.entries = w.spec.accessors.entries) := by
  constructor
  · intro h
    obtain ⟨hpackage, hclass, haccessors⟩ := eq_of_nativeContents_eq v.valid w.valid h
    exact ⟨hpackage, hclass, by rw [haccessors]⟩
  · intro h
    obtain ⟨hpackage, hclass, haccessors⟩ :=
      eq_of_nativeContents_eq v.valid w.valid (same_artifact h .native).contents
    have hinterop := interop_eq v.valid w.valid (same_artifact h .interop).path
    have hlibrary := library_eq hpackage hclass haccessors (same_artifact h .android).contents
    have hgrammar := grammar_eq hpackage (same_artifact h .interop).contents
    exact ⟨hpackage, hclass, hinterop, hlibrary, hgrammar, by rw [haccessors]⟩

/-- A spec whose source is spelled with a slash too many. -/
def doubleSlash : Spec :=
  { oneAccessor "language" "tree_sitter_foo" with sources := [⟨"src//parser.c"⟩] }

/-- The theorem at two specs that lead to the same files: they differ in how a source is
    spelled, which no file tells. -/
theorem eq_of_same_artifacts_doubleSlash :
    ∃ v w : ValidSpec, v.spec = doubleSlash ∧ w.spec = oneAccessor "language" "tree_sitter_foo" ∧
      v.spec.sources ≠ w.spec.sources ∧
      List.Forall₂ Artifact.Same (generate v .builtin ⟨⟨"/out"⟩⟩) (generate w .builtin ⟨⟨"/out"⟩⟩) ∧
      v.spec.library = w.spec.library ∧
        v.spec.accessors.entries = w.spec.accessors.entries := by
  have hw : (oneAccessor "language" "tree_sitter_foo").Valid :=
    oneAccessor_valid (by decide) (by decide)
  have hv : doubleSlash.Valid := ⟨hw.package, hw.className, hw.interop, hw.accessors, hw.entries⟩
  have hne : doubleSlash.sources ≠ (oneAccessor "language" "tree_sitter_foo").sources := by decide
  have hsources : doubleSlash.sourceList ⟨⟨"/out"⟩⟩ =
      (oneAccessor "language" "tree_sitter_foo").sourceList ⟨⟨"/out"⟩⟩ := by
    decide
  have hsame : List.Forall₂ Artifact.Same (generate ⟨_, hv⟩ .builtin ⟨⟨"/out"⟩⟩)
      (generate ⟨_, hw⟩ .builtin ⟨⟨"/out"⟩⟩) := by
    rw [generate, generate, List.forall₂_map_left_iff, List.forall₂_map_right_iff,
      List.forall₂_same]
    intro kind _
    refine ⟨rfl, ?_, ?_⟩
    · cases kind <;> rfl
    · cases kind
      case build =>
        simp only [artifact, substitution, hsources]
        rfl
      all_goals rfl
  obtain ⟨-, hnames⟩ := eq_of_same_artifacts ⟨_, hv⟩ ⟨_, hw⟩ ⟨⟨"/out"⟩⟩ ⟨⟨"/out"⟩⟩
  obtain ⟨-, -, -, hlibrary, -, haccessors⟩ := hnames hsame
  exact ⟨⟨_, hv⟩, ⟨_, hw⟩, rfl, rfl, hne, hsame, hlibrary, haccessors⟩

end Spec

end GrammarBindings
