/-
  GrammarBindings.Proofs.Kotlin.Clash

  When the functions of a Kotlin object have different names.  Accessors are named in
  the table's first column, native functions in its second, and the object for the JVM
  has a function `libPath` besides.

    * `functionNames_nodup_iff` — the names are different exactly when the two columns
      have no name in common and, on the JVM, neither holds `libPath`.
    * `functionNames_not_nodup` — a valid spec can call an accessor like a function.
-/
import GrammarBindings.Proofs.Kotlin.Contents
import Mathlib.Data.List.Nodup

namespace GrammarBindings

/-! ## The names of declarations -/

/-- Each declaration names an accessor or a native function. -/
theorem perm_names (ds : List Declaration) :
    (ds.map Declaration.name).Perm
      ((ds.filterMap Declaration.accessor?).map Prod.fst ++ ds.filterMap Declaration.external?) := by
  have hperm := (perm_declarations ds).map Declaration.name
  have hnames : Declaration.name ∘ Declaration.external = id := rfl
  rwa [List.map_append, List.map_map, List.map_map, hnames, List.map_id] at hperm

namespace Accessors

variable (t : Accessors)

theorem perm_names_declarations :
    (t.declarations.map Declaration.name).Perm (t.names ++ t.distinctFunctions) := by
  have hperm := perm_names t.declarations
  rwa [(declares_declarations t).accessors, (declares_declarations t).functions] at hperm

/-- The accessors and native functions of an object have different names exactly when
    no accessor is named like a function. -/
theorem nodup_append_iff :
    (t.names ++ t.distinctFunctions).Nodup ↔ t.names.Disjoint t.functions := by
  have hfunctions : t.names.Disjoint t.distinctFunctions ↔ t.names.Disjoint t.functions := by
    simp only [List.Disjoint, mem_distinctFunctions]
  rw [List.nodup_append', hfunctions]
  exact ⟨fun h => h.2.2,
    fun h => ⟨t.distinct, t.firstOccurrences_distinctFunctions.nodup, h⟩⟩

end Accessors

namespace Spec

open Kotlin

section Objects

variable {s : Spec} (hs : s.Valid) (l : Layout)
include hs

/-- The object for the JVM is the only one with a function of its own. -/
theorem perm_functionNames {kind : ArtifactKind} {methods : String} {names : List String}
    (hmethods : (s.substitution l kind).lookup "METHODS" = some methods)
    (hkind : "METHODS" ∈ kind.placeholders)
    (hlibrary : "LIBRARY" ∈ kind.placeholders → OneLine s.library)
    (hnames : (functionNames methods).Perm names) :
    (functionNames (s.artifact .builtin l kind).contents).Perm
      (names ++ if kind = .jvm then ["libPath"] else []) := by
  have hperm := functionNames_contents hs l hmethods hlibrary
  rw [(templateLines hkind).declared] at hperm
  exact hperm.trans (hnames.append_right _)

theorem perm_functionNames_common :
    (functionNames (s.artifact .builtin l .common).contents).Perm s.accessors.names := by
  have hmethods : (s.substitution l .common).lookup "METHODS" = some s.sharedMethods := by
    simp [substitution, List.lookup_cons]
  have hperm := perm_functionNames hs l hmethods (by decide) (fun h => absurd h (by decide))
    (List.Perm.of_eq (functionNames_sharedMethods hs))
  rwa [if_neg (by decide), List.append_nil] at hperm

theorem perm_functionNames_native :
    (functionNames (s.artifact .builtin l .native).contents).Perm s.accessors.names := by
  have hmethods : (s.substitution l .native).lookup "METHODS" = some s.nativeMethods := by
    simp [substitution, List.lookup_cons]
  have hperm := perm_functionNames hs l hmethods (by decide) (fun h => absurd h (by decide))
    (List.Perm.of_eq (functionNames_nativeMethods hs))
  rwa [if_neg (by decide), List.append_nil] at hperm

theorem perm_functionNames_android (hlibrary : OneLine s.library) :
    (functionNames (s.artifact .builtin l .android).contents).Perm
      (s.accessors.names ++ s.accessors.distinctFunctions) := by
  have hmethods : (s.substitution l .android).lookup "METHODS" =
      some (s.managedMethods androidAnnotations) := by
    simp [substitution, List.lookup_cons]
  have hdeclared := s.accessors.perm_names_declarations
  rw [← functionNames_androidMethods hs] at hdeclared
  have hperm := perm_functionNames hs l hmethods (by decide) (fun _ => hlibrary) hdeclared
  rwa [if_neg (by decide), List.append_nil] at hperm

theorem perm_functionNames_jvm (hlibrary : OneLine s.library) :
    (functionNames (s.artifact .builtin l .jvm).contents).Perm
      ((s.accessors.names ++ s.accessors.distinctFunctions) ++ ["libPath"]) := by
  have hmethods : (s.substitution l .jvm).lookup "METHODS" =
      some (s.managedMethods jvmAnnotations) := by
    simp [substitution, List.lookup_cons]
  have hdeclared := s.accessors.perm_names_declarations
  rw [← functionNames_jvmMethods hs] at hdeclared
  have hperm := perm_functionNames hs l hmethods (by decide) (fun _ => hlibrary) hdeclared
  rwa [if_pos rfl] at hperm

theorem nodup_functionNames_android (hlibrary : OneLine s.library) :
    (functionNames (s.artifact .builtin l .android).contents).Nodup ↔
      s.accessors.names.Disjoint s.accessors.functions := by
  rw [(perm_functionNames_android hs l hlibrary).nodup_iff, Accessors.nodup_append_iff]

theorem nodup_functionNames_jvm (hlibrary : OneLine s.library) :
    (functionNames (s.artifact .builtin l .jvm).contents).Nodup ↔
      s.accessors.names.Disjoint s.accessors.functions ∧
        "libPath" ∉ s.accessors.names ∧ "libPath" ∉ s.accessors.functions := by
  have hmem : "libPath" ∈ s.accessors.names ++ s.accessors.distinctFunctions ↔
      "libPath" ∈ s.accessors.names ∨ "libPath" ∈ s.accessors.functions := by
    rw [List.mem_append, Accessors.mem_distinctFunctions]
  rw [(perm_functionNames_jvm hs l hlibrary).nodup_iff, List.nodup_append',
    Accessors.nodup_append_iff, List.disjoint_singleton, hmem, not_or]
  exact ⟨fun h => ⟨h.1, h.2.2⟩, fun h => ⟨h.1, List.nodup_singleton _, h.2⟩⟩

/-- The Kotlin/Native object imports a function under the name of an accessor exactly
    when an accessor is named like a function. -/
theorem disjoint_importedFunctions :
    (functionNames (s.artifact .builtin l .native).contents).Disjoint
        (importedFunctions (s.artifact .builtin l .native).contents) ↔
      s.accessors.names.Disjoint s.accessors.functions := by
  simp only [List.Disjoint, (perm_functionNames_native hs l).mem_iff,
    (importedFunctions_contents hs l).mem_iff, Accessors.mem_distinctFunctions]

end Objects

/-! ## Objects without clashes -/

/-- With the built-in templates, the functions that the shared object declares have
    different names, and so do those of the Kotlin/Native object.  That one imports none
    of its own, and the objects for Android and the JVM declare functions with different
    names, exactly when no accessor is named like a native function and, on the JVM, none
    of them is called `libPath`.  A name of the library with line breaks would bring lines
    of its own into the last two. -/
theorem functionNames_nodup_iff (v : ValidSpec) (l : Layout) :
    let s := v.spec
    let declared (kind : ArtifactKind) := functionNames (s.artifact .builtin l kind).contents
    let imported := importedFunctions (s.artifact .builtin l .native).contents
    let names := s.accessors.names
    let functions := s.accessors.functions
    (declared .common).Nodup ∧ (declared .native).Nodup ∧
      ((declared .native).Disjoint imported ↔ names.Disjoint functions) ∧
      (OneLine s.library →
        ((declared .android).Nodup ↔ names.Disjoint functions) ∧
          ((declared .jvm).Nodup ↔
            names.Disjoint functions ∧ "libPath" ∉ names ∧ "libPath" ∉ functions)) := by
  have hs : v.spec.Valid := v.valid
  exact ⟨(perm_functionNames_common hs l).nodup_iff.2 v.spec.accessors.distinct,
    (perm_functionNames_native hs l).nodup_iff.2 v.spec.accessors.distinct,
    disjoint_importedFunctions hs l, fun hlibrary =>
      ⟨nodup_functionNames_android hs l hlibrary, nodup_functionNames_jvm hs l hlibrary⟩⟩

/-- A spec with one accessor. -/
def oneAccessor (name function : String) : Spec where
  baseDir := ⟨"/repo"⟩
  grammar := "foo"
  sources := [⟨"src/parser.c"⟩]
  interop := "grammar"
  library := "ktreesitter-foo"
  package := "com.example"
  className := "Foo"
  accessors := .single name function

theorem oneAccessor_valid {name function : String} (hname : isIdentifier name = true)
    (hfunction : isIdentifier function = true) : (oneAccessor name function).Valid := by
  have hpackage : isDottedIdentifier "com.example" = true := by decide
  have hclass : isIdentifier "Foo" = true := by decide
  have hinterop : isPlainFileName "grammar" = true := by decide
  refine ⟨hpackage, hclass, hinterop, by simp [oneAccessor, Accessors.single], ?_⟩
  intro e he
  obtain rfl := List.mem_singleton.1 he
  exact ⟨hname, hfunction⟩

/-- The spec with the accessor that most grammars have. -/
theorem language_valid : (oneAccessor "language" "tree_sitter_foo").Valid :=
  oneAccessor_valid (by decide) (by decide)

theorem oneLine_library_oneAccessor (name function : String) :
    OneLine (oneAccessor name function).library := by
  have hlibrary : OneLine "ktreesitter-foo" := by decide
  exact hlibrary

/-- The theorem at an accessor `language`. -/
theorem functionNames_nodup_iff_language :
    let s := oneAccessor "language" "tree_sitter_foo"
    OneLine s.library ∧ s.accessors.names.Disjoint s.accessors.functions ∧
      (functionNames (s.artifact .builtin ⟨⟨"/out"⟩⟩ .android).contents).Nodup ∧
      (functionNames (s.artifact .builtin ⟨⟨"/out"⟩⟩ .jvm).contents).Nodup := by
  have hs : (oneAccessor "language" "tree_sitter_foo").Valid :=
    oneAccessor_valid (by decide +kernel) (by decide +kernel)
  have hlibrary := oneLine_library_oneAccessor "language" "tree_sitter_foo"
  have hdisjoint : List.Disjoint ["language"] ["tree_sitter_foo"] := by simp
  have hnames : "libPath" ∉ ["language"] := by decide
  have hfunctions : "libPath" ∉ ["tree_sitter_foo"] := by decide
  obtain ⟨-, -, -, hobjects⟩ := functionNames_nodup_iff ⟨_, hs⟩ ⟨⟨"/out"⟩⟩
  obtain ⟨handroid, hjvm⟩ := hobjects hlibrary
  exact ⟨hlibrary, hdisjoint, handroid.2 hdisjoint,
    hjvm.2 ⟨hdisjoint, hnames, hfunctions⟩⟩

/-- A spec with an accessor that is called like its function. -/
def selfNamed : Spec := oneAccessor "tree_sitter_foo" "tree_sitter_foo"

/-- A spec with an accessor that is called like a function in the object for the JVM. -/
def pathNamed : Spec := oneAccessor "libPath" "tree_sitter_foo"

/-- Valid specs can lead to objects that declare a name twice or import what they declare. -/
theorem functionNames_not_nodup :
    (selfNamed.Valid ∧
        ¬ (functionNames (selfNamed.artifact .builtin ⟨⟨"/out"⟩⟩ .android).contents).Nodup ∧
        ¬ (functionNames (selfNamed.artifact .builtin ⟨⟨"/out"⟩⟩ .jvm).contents).Nodup ∧
        ¬ (functionNames (selfNamed.artifact .builtin ⟨⟨"/out"⟩⟩ .native).contents).Disjoint
          (importedFunctions (selfNamed.artifact .builtin ⟨⟨"/out"⟩⟩ .native).contents)) ∧
      pathNamed.Valid ∧
        ¬ (functionNames (pathNamed.artifact .builtin ⟨⟨"/out"⟩⟩ .jvm).contents).Nodup := by
  have hfunction : isIdentifier "tree_sitter_foo" = true := by decide +kernel
  have hlibPath : isIdentifier "libPath" = true := by decide +kernel
  have hself : selfNamed.Valid := oneAccessor_valid hfunction hfunction
  have hpath : pathNamed.Valid := oneAccessor_valid hlibPath hfunction
  have hselfLibrary : OneLine selfNamed.library := oneLine_library_oneAccessor _ _
  have hpathLibrary : OneLine pathNamed.library := oneLine_library_oneAccessor _ _
  have hcommon : ¬ selfNamed.accessors.names.Disjoint selfNamed.accessors.functions := by
    have hlists : ¬ List.Disjoint ["tree_sitter_foo"] ["tree_sitter_foo"] := by simp
    exact hlists
  refine ⟨⟨hself, ?android, ?jvm, ?native⟩, hpath, ?path⟩
  case android => rwa [nodup_functionNames_android hself _ hselfLibrary]
  case jvm =>
    rw [nodup_functionNames_jvm hself _ hselfLibrary]
    exact fun h => hcommon h.1
  case native => rwa [disjoint_importedFunctions hself]
  case path =>
    rw [nodup_functionNames_jvm hpath _ hpathLibrary]
    exact fun h => h.2.1 (List.mem_singleton_self "libPath")

end Spec

end GrammarBindings
