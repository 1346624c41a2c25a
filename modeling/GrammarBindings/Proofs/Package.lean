/-
  GrammarBindings.Proofs.Package

  Packages and their directories.  The name of a package is taken apart at its dots in two
  places, where it is checked and where its directories are made.  Both find the same parts,
  so a name that passes the check is its directories with dots between them.

    * `Identifier.Joins` — identifiers, and the text that they give with dots between them.
    * `isDottedIdentifier_append`, `packageDirs_append` — names of packages with a dot between
      them.
    * `isDottedIdentifier_iff_joins` — the directories of a package name are what it is made of,
      and `Joins.packageDirs_eq` — it is made of nothing else.
    * `Joins.components_packageDir` — each of them is one component of the path of a class.

  Main statement: `dottedIdentifier_compose`.
-/
import GrammarBindings.Proofs.Layout
import GrammarBindings.Proofs.Path.Compact

namespace GrammarBindings

open Identifier

/-- The identifiers `names`, at least one, give the text `s` with single dots between them. -/
structure Identifier.Joins (names : List String) (s : String) : Prop where
  ne_nil : names ≠ []
  isIdentifier : ∀ n ∈ names, isIdentifier n = true
  joined : ".".intercalate names = s

variable {names : List String} {s : String}

/-! ## Names put together -/

theorem isDottedIdentifier_append (a b : String) :
    isDottedIdentifier (a ++ "." ++ b) = (isDottedIdentifier a && isDottedIdentifier b) := by
  have hparts : parts '.' (a ++ "." ++ b) = parts '.' a ++ parts '.' b := parts_append a b
  rw [isDottedIdentifier_eq_all, hparts, List.all_append, ← isDottedIdentifier_eq_all,
    ← isDottedIdentifier_eq_all]

theorem packageDirs_append (a b : String) :
    packageDirs (a ++ "." ++ b) = packageDirs a ++ packageDirs b :=
  parts_append a b

/-! ## Names taken apart -/

/-- The directories of a package name give it back, whether or not they are identifiers. -/
theorem intercalate_packageDirs (s : String) : ".".intercalate (packageDirs s) = s :=
  intercalate_parts s

theorem isDottedIdentifier_iff_joins :
    isDottedIdentifier s = true ↔ Joins (packageDirs s) s := by
  rw [isDottedIdentifier_eq_all, List.all_eq_true]
  exact ⟨fun h => ⟨parts_ne_nil s, h, intercalate_packageDirs s⟩, fun h => h.isIdentifier⟩

namespace Identifier

/-- There are no dots in identifiers, so the directories are the identifiers that were joined. -/
theorem Joins.packageDirs_eq (h : Joins names s) : packageDirs s = names := by
  have hdots : ∀ n ∈ names, '.' ∉ n.toList := fun n hn =>
    notMem_of_isIdentifier (h.isIdentifier n hn) (not_isPart_of_mem (by simp))
  rw [← h.joined]
  exact parts_intercalate h.ne_nil hdots

theorem Joins.isDottedIdentifier (h : Joins names s) : isDottedIdentifier s = true := by
  rw [isDottedIdentifier_iff_joins, h.packageDirs_eq]
  exact h

/-! ## The way to the classes of a package -/

theorem Joins.proper (h : Joins names s) (platform : Platform) :
    Location.Proper (platform.sourceSet :: "kotlin" :: names) := by
  rw [← h.packageDirs_eq]
  exact proper_kotlinDirs h.isDottedIdentifier platform

/-- Below any source root the directory of a package has the source set, the Kotlin directory
    and then the identifiers, one by one, for its last components. -/
theorem Joins.components_packageDir (h : Joins names s) (root : Path) (platform : Platform) :
    (names.foldl Path.child ((root.child platform.sourceSet).child "kotlin")).components =
      root.components ++ (platform.sourceSet :: "kotlin" :: names).map .name :=
  Path.components_foldl_child (h.proper platform) root

end Identifier

/-- Two texts with a dot between them are a dotted identifier exactly if both are, and whether
    they are or not, the directories of the first come before those of the second.  A text is a
    dotted identifier exactly if it is made of identifiers, and these can only be its
    directories: the file of a class in the package is reached through them, and each is one
    component of the way there. -/
theorem dottedIdentifier_compose :
    (∀ a b : String,
      (isDottedIdentifier (a ++ "." ++ b) = true ↔
        isDottedIdentifier a = true ∧ isDottedIdentifier b = true) ∧
      packageDirs (a ++ "." ++ b) = packageDirs a ++ packageDirs b) ∧
    ∀ s : String,
      (isDottedIdentifier s = true ↔ ∃ names, Joins names s) ∧
      ∀ names, Joins names s →
        packageDirs s = names ∧
        ∀ (root : Path) (platform : Platform) (className : String),
          classFile root platform s className =
            (names.foldl Path.child ((root.child platform.sourceSet).child "kotlin")).child
              (className ++ ".kt") ∧
          (names.foldl Path.child ((root.child platform.sourceSet).child "kotlin")).components =
            root.components ++ (platform.sourceSet :: "kotlin" :: names).map .name := by
  refine ⟨fun a b => ⟨?_, packageDirs_append a b⟩, fun s => ⟨?_, fun names h => ?_⟩⟩
  · rw [isDottedIdentifier_append, Bool.and_eq_true]
  · exact ⟨fun h => ⟨_, isDottedIdentifier_iff_joins.1 h⟩, fun ⟨_, h⟩ => h.isDottedIdentifier⟩
  · refine ⟨h.packageDirs_eq, fun root platform className => ⟨?_, h.components_packageDir _ _⟩⟩
    rw [classFile, h.packageDirs_eq]

/-- The theorem at a package with parts that begin with a letter beyond ASCII and with an
    underscore, below a root that ends in a `.`; with dots behind it this is no package. -/
theorem dottedIdentifier_compose_mixture :
    Joins ["com", "é", "_1"] "com.é._1" ∧
      isDottedIdentifier "com.é._1" = true ∧
      packageDirs "com.é._1" = ["com", "é", "_1"] ∧
      (["com", "é", "_1"].foldl Path.child (((Path.mk "../x//.").child
          Platform.jvm.sourceSet).child "kotlin")).components =
        [.up, .name "x", .name "jvmMain", .name "kotlin", .name "com", .name "é", .name "_1"] ∧
      isDottedIdentifier "com.é._1.." = false := by
  have hjoins : Joins ["com", "é", "_1"] "com.é._1" := ⟨by decide, by decide, by decide⟩
  obtain ⟨happend, hmade⟩ := dottedIdentifier_compose
  obtain ⟨hiff, hparts⟩ := hmade "com.é._1"
  obtain ⟨hdirs, hway⟩ := hparts _ hjoins
  have hroot : (Path.mk "../x//.").components = [.up, .name "x"] := by decide
  have hcomponents := (hway ⟨"../x//."⟩ .jvm "Foo").2
  rw [hroot] at hcomponents
  refine ⟨hjoins, hiff.2 ⟨_, hjoins⟩, hdirs, hcomponents, ?_⟩
  -- what comes behind the last dot is empty
  rw [Bool.eq_false_iff]
  intro hdots
  obtain ⟨-, hempty⟩ := (happend "com.é._1." "").1.1 hdots
  exact absurd hempty (by decide)

end GrammarBindings
