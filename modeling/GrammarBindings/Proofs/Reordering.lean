/-
  GrammarBindings.Proofs.Reordering

  The files of a binding when the accessors are given in another order.  The functions
  that accessors share may then be met behind other accessors than before, so imports,
  native declarations and definitions move too; none is lost or gained.

    * `Accessors.perm_distinctFunctions`, `Accessors.perm_declarations` — what is made from a
      table, for a table with the same entries.
    * `insertedLines` — the lines that a table brings into the files, word for word and in
      their order.
    * `count_insertedLines` — each group of them comes in place of one template line.
    * `lines_contents`, `perm_insertedLines` — the files have these lines, which are the same
      for the same entries.

  Main statement: `generate_reordered`.
-/
import GrammarBindings.Proofs.FileLines
import GrammarBindings.Proofs.Kotlin.Clash
import GrammarBindings.Proofs.NativeFunctions

namespace GrammarBindings

/-! ## Tables with the same entries -/

namespace Accessors

variable {t u : Accessors}

theorem perm_distinctFunctions (h : t.entries.Perm u.entries) :
    t.distinctFunctions.Perm u.distinctFunctions := by
  have hfunctions : t.functions.Perm u.functions := h.map Prod.snd
  -- which functions there are does not depend on the order, and each is there once
  rw [List.perm_ext_iff_of_nodup t.firstOccurrences_distinctFunctions.nodup
    u.firstOccurrences_distinctFunctions.nodup]
  intro f
  rw [mem_distinctFunctions, mem_distinctFunctions, hfunctions.mem_iff]

theorem perm_declarations (h : t.entries.Perm u.entries) :
    t.declarations.Perm u.declarations := by
  have ht := GrammarBindings.perm_declarations t.declarations
  have hu := GrammarBindings.perm_declarations u.declarations
  -- both are accessors and native functions, sorted in different ways
  rw [(declares_declarations t).accessors, (declares_declarations t).functions] at ht
  rw [(declares_declarations u).accessors, (declares_declarations u).functions] at hu
  exact (ht.trans ((h.map _).append ((perm_distinctFunctions h).map _))).trans hu.symm

end Accessors

namespace Spec

open Kotlin Template

/-! ## The lines that a table brings -/

/-- The lines that the accessors of a table bring into the file of a kind, by the line of
    the template that they replace. -/
def insertedLines (s : Spec) (t : Accessors) : ArtifactKind → List (String × List String)
  | .common =>
    [("@METHODS@", [""].intercalate (t.entries.map fun e => ["    fun " ++ e.1 ++ "(): Any"]))]
  | .native =>
    [("@IMPORTS@", t.distinctFunctions.map fun f => "import " ++ s.package ++ ".internal." ++ f),
      ("@METHODS@", [""].intercalate (t.entries.map fun e =>
        ["    actual fun " ++ e.1 ++ "(): Any = " ++ e.2 ++ "()!!"]))]
  | .jvm =>
    [("@METHODS@", [""].intercalate (t.declarations.map (Declaration.block ["    @JvmStatic"])))]
  | .android =>
    [("@METHODS@", [""].intercalate
      (t.declarations.map (Declaration.block ["    @JvmStatic", "    @CriticalNative"])))]
  | .jni =>
    [("@FUNCTIONS@", t.distinctFunctions.flatMap (fun f =>
      ["NATIVE_FUNCTION(" ++
          (JniSymbol.stem s.package s.className ++ JniSymbol.escape f) ++ ") \x7b",
        "    return (jlong)" ++ f ++ "();",
        "\x7d"]) ++ [""])]
  | .build | .interop => []

/-- Every line that is to be replaced is in its template once. -/
theorem count_insertedLines (s : Spec) (t : Accessors) (kind : ArtifactKind) :
    ∀ p ∈ s.insertedLines t kind, (lines kind.builtinTemplate).count p.1 = 1 := by
  cases kind with
  | common => exact List.forall_mem_singleton.2 (templateLines (by decide)).methods
  | native =>
    exact List.forall_mem_cons.2 ⟨(templateLines (by decide)).imports,
      List.forall_mem_singleton.2 (templateLines (by decide)).methods⟩
  | jvm | android => exact List.forall_mem_singleton.2 (templateLines (by decide)).methods
  | jni => exact List.forall_mem_singleton.2 jniTemplateLines.2
  | build | interop => simp [insertedLines]

theorem lines_contents {s : Spec} (hs : s.Valid) (l : Layout) {kind : ArtifactKind}
    (hbuild : kind ≠ .build) (hinterop : kind ≠ .interop) :
    lines (s.artifact .builtin l kind).contents =
      s.filled kind (s.insertedLines s.accessors kind) := by
  cases kind with
  | common =>
    rw [lines_contents_methods s l (by decide) (by decide) rfl, lines_sharedMethods hs]
    rfl
  | native =>
    rw [lines_contents_native, lines_nativeImports hs, lines_nativeMethods hs]
    rfl
  | jvm =>
    rw [lines_contents_methods s l (by decide) (by decide) rfl, lines_jvmMethods hs,
      insertedLines]
  | android =>
    rw [lines_contents_methods s l (by decide) (by decide) rfl, lines_androidMethods hs,
      insertedLines]
  | jni =>
    rw [lines_contents_jni, lines_nativeFunctions hs]
    rfl
  | build => exact absurd rfl hbuild
  | interop => exact absurd rfl hinterop

/-- Tables with the same entries bring the same lines. -/
theorem perm_insertedLines (s : Spec) {t u : Accessors} (h : t.entries.Perm u.entries)
    (kind : ArtifactKind) :
    List.Forall₂ (fun p q => p.1 = q.1 ∧ p.2.Perm q.2) (s.insertedLines t kind)
      (s.insertedLines u kind) := by
  have hentries (line : String × String → String) :
      ([""].intercalate (t.entries.map fun e => [line e])).Perm
        ([""].intercalate (u.entries.map fun e => [line e])) :=
    perm_intercalate "" (h.map _)
  have hdeclarations (annotations : List String) :
      ([""].intercalate (t.declarations.map (Declaration.block annotations))).Perm
        ([""].intercalate (u.declarations.map (Declaration.block annotations))) :=
    perm_intercalate "" ((Accessors.perm_declarations h).map _)
  have himports (line : String → String) :
      (t.distinctFunctions.map line).Perm (u.distinctFunctions.map line) :=
    (Accessors.perm_distinctFunctions h).map _
  have hdefinitions (block : String → List String) :
      (t.distinctFunctions.flatMap block ++ [""]).Perm
        (u.distinctFunctions.flatMap block ++ [""]) :=
    ((Accessors.perm_distinctFunctions h).flatMap_right _).append_right _
  cases kind with
  | common => exact .cons ⟨rfl, hentries _⟩ .nil
  | native => exact .cons ⟨rfl, himports _⟩ (.cons ⟨rfl, hentries _⟩ .nil)
  | jvm | android => exact .cons ⟨rfl, hdeclarations _⟩ .nil
  | jni => exact .cons ⟨rfl, hdefinitions _⟩ .nil
  | build | interop => exact .nil

/-! ## Specs with reordered accessors -/

/-- A spec with the accessors of another one in some order, and all else the same. -/
structure Reordered (s t : Spec) : Prop where
  entries : t.accessors.entries.Perm s.accessors.entries
  others : t = { s with accessors := t.accessors }

namespace Reordered

variable {s t : Spec} (h : s.Reordered t)
include h

theorem valid (hs : s.Valid) : t.Valid := by
  rw [h.others]
  refine ⟨hs.package, hs.className, hs.interop, ?_, fun e he => hs.entries e (h.entries.subset he)⟩
  exact fun hnil => hs.accessors (List.nil_perm.1 (hnil ▸ h.entries))

theorem artifactPath_eq (l : Layout) (kind : ArtifactKind) :
    t.artifactPath l kind = s.artifactPath l kind := by
  rw [h.others]
  cases kind <;> rfl

/-- The build script and the interop definition know nothing of accessors. -/
theorem contents_eq (ts : TemplateCollection) (l : Layout) {kind : ArtifactKind}
    (hkind : kind = .build ∨ kind = .interop) :
    (t.artifact ts l kind).contents = (s.artifact ts l kind).contents := by
  rw [h.others]
  rcases hkind with rfl | rfl <;> rfl

/-- All that the files have from elsewhere than the table is the same. -/
theorem lines_contents (hs : s.Valid) (l : Layout) {kind : ArtifactKind}
    (hbuild : kind ≠ .build) (hinterop : kind ≠ .interop) :
    lines (t.artifact .builtin l kind).contents =
      s.filled kind (s.insertedLines t.accessors kind) := by
  have hnames : t.nameValues = s.nameValues := by
    rw [h.others]
    rfl
  have hinserted : t.insertedLines t.accessors kind = s.insertedLines t.accessors kind := by
    rw [h.others]
    cases kind <;> rfl
  rw [Spec.lines_contents (h.valid hs) l hbuild hinterop, hinserted, filled, filled, hnames]

theorem perm_lines_contents (hs : s.Valid) (l : Layout) (kind : ArtifactKind) :
    (lines (t.artifact .builtin l kind).contents).Perm
      (lines (s.artifact .builtin l kind).contents) := by
  by_cases hkind : kind = .build ∨ kind = .interop
  · rw [h.contents_eq .builtin l hkind]
  · rw [not_or] at hkind
    rw [h.lines_contents hs l hkind.1 hkind.2, Spec.lines_contents hs l hkind.1 hkind.2]
    exact perm_filled s kind (s.perm_insertedLines h.entries kind)

end Reordered

end Spec

/-- `b` is `a` with its lines in another order, if at all; and not even that where no
    accessors are in. -/
structure Artifact.Rearranged (a b : Artifact) : Prop where
  kind : b.kind = a.kind
  path : b.path = a.path
  lines : (lines b.contents).Perm (lines a.contents)
  contents : a.kind = .build ∨ a.kind = .interop → b.contents = a.contents

/-! ## The files -/

/-- Accessors in another order bring the lines of the files in another order.  With the
    built-in templates, there is a file of each kind as before, in the same place and with
    the same lines; the build script and the interop definition have the same contents.

    The other five have all lines of their templates where they were, with the lines of
    the new table in between, each group of them once.  These show the accessors in the
    table's order, and imports, native declarations and definitions in the order in which
    the functions occur for the first time in it, each declaration behind the first
    accessor that calls the function. -/
theorem generate_reordered (v : ValidSpec) (l : Layout) {t : Spec} (h : v.spec.Reordered t) :
    ∃ w : ValidSpec, w.spec = t ∧
      (generate v .builtin l).map Artifact.kind = ArtifactKind.all ∧
      List.Forall₂ Artifact.Rearranged (generate v .builtin l) (generate w .builtin l) ∧
      (∀ a ∈ generate w .builtin l, a.kind ≠ .build → a.kind ≠ .interop →
        lines a.contents = v.spec.filled a.kind (v.spec.insertedLines t.accessors a.kind) ∧
          ∀ p ∈ v.spec.insertedLines t.accessors a.kind,
            (lines a.kind.builtinTemplate).count p.1 = 1) ∧
      Declares t.accessors.declarations t.accessors.entries t.accessors.distinctFunctions ∧
      FirstOccurrences t.accessors.distinctFunctions (t.accessors.entries.map Prod.snd) := by
  have hs : v.spec.Valid := v.valid
  refine ⟨⟨t, h.valid hs⟩, rfl, rfl, ?files, ?lines, declares_declarations t.accessors,
    t.accessors.firstOccurrences_distinctFunctions⟩
  case files =>
    rw [generate, generate, List.forall₂_map_left_iff, List.forall₂_map_right_iff,
      List.forall₂_same]
    exact fun kind _ => ⟨rfl, h.artifactPath_eq l kind, h.perm_lines_contents hs l kind,
      h.contents_eq .builtin l⟩
  case lines =>
    intro a ha hbuild hinterop
    obtain ⟨kind, -, rfl⟩ := List.mem_map.1 ha
    exact ⟨h.lines_contents hs l hbuild hinterop, v.spec.count_insertedLines t.accessors kind⟩

/-- A spec with the accessors of a list. -/
def withAccessors (pairs : List (String × String)) : Spec :=
  { Spec.oneAccessor "language" "tree_sitter_foo" with accessors := .ofList pairs }

/-- The theorem at two accessors with one function, the last of which comes first in the
    other order: the function is then declared behind it.  Of the new files those that the
    platforms share and for the JVM are shown. -/
theorem generate_reordered_shared :
    let language := ("language", "tree_sitter_foo")
    let inner := ("inner", "tree_sitter_foo_inner")
    let second := ("dialect", "tree_sitter_foo")
    let s := withAccessors [language, inner, second]
    let t := withAccessors [inner, second, language]
    s.Reordered t ∧
      t.accessors.declarations =
        [.accessor "inner" "tree_sitter_foo_inner", .external "tree_sitter_foo_inner",
          .accessor "dialect" "tree_sitter_foo", .external "tree_sitter_foo",
          .accessor "language" "tree_sitter_foo"] ∧
      ∃ v w : ValidSpec, v.spec = s ∧ w.spec = t ∧
        List.Forall₂ Artifact.Rearranged (generate v .builtin ⟨⟨"/out"⟩⟩)
          (generate w .builtin ⟨⟨"/out"⟩⟩) ∧
        ∀ a ∈ generate w .builtin ⟨⟨"/out"⟩⟩,
          (a.kind = .common → lines a.contents = s.filled .common
            [("@METHODS@",
              ["    fun inner(): Any", "", "    fun dialect(): Any", "",
                "    fun language(): Any"])]) ∧
          (a.kind = .jvm → lines a.contents = s.filled .jvm
            [("@METHODS@",
              ["    actual fun inner(): Any = tree_sitter_foo_inner()", "",
                "    @JvmStatic", "    private external fun tree_sitter_foo_inner(): Long", "",
                "    actual fun dialect(): Any = tree_sitter_foo()", "",
                "    @JvmStatic", "    private external fun tree_sitter_foo(): Long", "",
                "    actual fun language(): Any = tree_sitter_foo()"])]) := by
  intro language inner second s t
  have hentries : t.accessors.entries = [inner, second, language] := by decide
  have hold : s.accessors.entries = [language, inner, second] := by decide
  have hperm : [inner, second, language].Perm [language, inner, second] := by decide
  have hvalid : s.Valid := by
    have hone := Spec.language_valid
    have hnames : ∀ e ∈ [language, inner, second],
        isIdentifier e.1 = true ∧ isIdentifier e.2 = true := by
      decide
    exact ⟨hone.package, hone.className, hone.interop, by rw [hold]; exact List.cons_ne_nil _ _,
      hold ▸ hnames⟩
  have hreordered : s.Reordered t := ⟨by rw [hentries, hold]; exact hperm, rfl⟩
  have hcommon : s.insertedLines t.accessors .common =
      [("@METHODS@",
        ["    fun inner(): Any", "", "    fun dialect(): Any", "",
          "    fun language(): Any"])] := by
    decide
  have hjvm : s.insertedLines t.accessors .jvm =
      [("@METHODS@",
        ["    actual fun inner(): Any = tree_sitter_foo_inner()", "",
          "    @JvmStatic", "    private external fun tree_sitter_foo_inner(): Long", "",
          "    actual fun dialect(): Any = tree_sitter_foo()", "",
          "    @JvmStatic", "    private external fun tree_sitter_foo(): Long", "",
          "    actual fun language(): Any = tree_sitter_foo()"])] := by
    decide
  obtain ⟨w, hw, -, hfiles, hlines, -⟩ := generate_reordered ⟨s, hvalid⟩ ⟨⟨"/out"⟩⟩ hreordered
  refine ⟨hreordered, by decide, ⟨s, hvalid⟩, w, rfl, hw, hfiles, fun a ha => ?_⟩
  have hcontents (hbuild : a.kind ≠ .build) (hinterop : a.kind ≠ .interop) :
      lines a.contents = s.filled a.kind (s.insertedLines t.accessors a.kind) :=
    (hlines a ha hbuild hinterop).1
  refine ⟨fun hkind => ?common, fun hkind => ?jvm⟩ <;> rw [hkind] at hcontents
  case common => exact hcommon ▸ hcontents (by decide) (by decide)
  case jvm => exact hjvm ▸ hcontents (by decide) (by decide)

end GrammarBindings
