/-
  GrammarBindings.Proofs.ClassFile

  The Kotlin file of a class.  The path of the file is taken apart again: its last name is the
  class, before that come the parts of the package, and the source set stands at the third
  place below the output directory or at the first one below the source root.  So two files are
  the same only if source set, package and class are, whatever the root is and however paths
  are compared.

    * `classPlace` — the names from a source root to the file.
    * `classPlace_inj` — they tell source set, package and class.
    * `fileAt?_deliver_generate` — one generation leaves the class files of other classes as
      they are.
    * `fileAt?_generateAll` — and so do several, one after the other.

  Main statement: `classFile_tells`.
-/
import GrammarBindings.Proofs.Delivery.Course
import GrammarBindings.Proofs.JniSymbol.Exports
import GrammarBindings.Proofs.Layout
import GrammarBindings.Proofs.Path.Along
import Mathlib.Tactic.TFAE

namespace GrammarBindings

open Delivery
open Spec (wideNames wideNames_valid)

/-! ## The names of a class file -/

/-- A package and a class that a spec may have. -/
structure IsClass (package className : String) : Prop where
  package : isDottedIdentifier package = true
  className : isIdentifier className = true

/-- The names on the way from a source root to the file of a class. -/
def classPlace (platform : Platform) (package className : String) : Location :=
  platform.sourceSet :: "kotlin" :: (packageDirs package ++ [className ++ ".kt"])

theorem Platform.sourceSet_inj {platform platform' : Platform} :
    platform.sourceSet = platform'.sourceSet ↔ platform = platform' := by
  cases platform <;> cases platform' <;> decide

variable {platform platform' : Platform} {package package' className className' : String}

/-- The names tell source set, package and class. -/
theorem classPlace_inj :
    classPlace platform package className = classPlace platform' package' className' ↔
      platform = platform' ∧ package = package' ∧ className = className' := by
  have hpackage : packageDirs package = packageDirs package' ↔ package = package' :=
    parts_injective.eq_iff
  have hlast : ([className ++ ".kt"] : Location) = [className' ++ ".kt"] ↔
      className = className' := by
    rw [List.cons.injEq, String.append_left_inj]
    exact and_iff_left rfl
  rw [classPlace, classPlace, List.cons.injEq, List.cons.injEq, Platform.sourceSet_inj,
    List.append_eq_append_iff_of_size_eq_right (by rfl), hpackage, hlast]
  tauto

theorem proper_classPlace (h : IsClass package className) :
    Location.Proper (classPlace platform package className) := by
  have hfile : IsName (className ++ ".kt") :=
    isName_append (no_slash_of_isIdentifier h.className) (by decide) (by decide)
  rw [classPlace, ← List.cons_append, ← List.cons_append]
  exact Location.proper_append.2
    ⟨proper_kotlinDirs h.package platform, Location.proper_singleton.2 hfile⟩

/-! ## The path of a class file -/

theorem classFile_eq_foldl (root : Path) (platform : Platform) (package className : String) :
    classFile root platform package className =
      (classPlace platform package className).foldl Path.child root := by
  simp only [classFile, classPlace, List.foldl_cons, List.foldl_append, List.foldl_nil]

/-- The way to a class file is the way to the source root, and on by names. -/
theorem route_classFile (h : IsClass package className) (root : Path) :
    (classFile root platform package className).route =
      { root.route with names := root.route.names ++ classPlace platform package className } := by
  rw [classFile_eq_foldl, Path.route_foldl_child (proper_classPlace h)]

/-- Normal spellings of the paths of class files are equal only if the names are. -/
theorem classPlace_eq_of_normalize_eq (h : IsClass package className)
    (h' : IsClass package' className') {root : Path}
    (heq : (classFile root platform package className).normalize =
      (classFile root platform' package' className').normalize) :
    classPlace platform package className = classPlace platform' package' className' := by
  have hroute := congrArg Path.route heq
  rw [Path.route_normalize, Path.route_normalize, route_classFile h, route_classFile h'] at hroute
  exact List.append_cancel_left (congrArg Route.names hroute)

/-- A class file lies below where the output directory lies. -/
theorem along_classFile_sourceDir (h : IsClass package className) (cwd : Location) (l : Layout) :
    cwd.along (classFile l.sourceDir platform package className) =
      cwd.along l.root ++ "src" :: classPlace platform package className := by
  have hsrc : IsName "src" := isName_of_length (by decide) (by decide)
  have hproper : Location.Proper ("src" :: classPlace platform package className) :=
    List.forall_mem_cons.2 ⟨hsrc, proper_classPlace h⟩
  rw [← cwd.along_foldl_child hproper, List.foldl_cons, classFile_eq_foldl]
  rfl

/-! ## Generations -/

/-- No file of a binding has the place of a class file of another class. -/
theorem belowRoot_ne_classPlace {s : Spec}
    (hne : ¬ (s.package = package ∧ s.className = className)) (kind : ArtifactKind) :
    s.belowRoot kind ≠ "src" :: classPlace platform package className := by
  have hkotlin (other : Platform) :
      "src" :: classPlace other s.package s.className ≠
        "src" :: classPlace platform package className := by
    intro heq
    exact hne (classPlace_inj.1 (List.cons.inj heq).2).2
  cases kind with
  | common => exact hkotlin .common
  | native => exact hkotlin .native
  | jvm => exact hkotlin .jvm
  | android => exact hkotlin .android
  | jni | build | interop =>
    -- these go to directories that are no source sets
    cases platform <;>
      simp [Spec.belowRoot, Spec.directories, Spec.fileName, classPlace, Platform.sourceSet]

/-- A generation leaves the class files of other classes as they are, whether or not it
    succeeds. -/
theorem fileAt?_deliver_generate (h : IsClass package className) {v : ValidSpec}
    (hne : ¬ (v.spec.package = package ∧ v.spec.className = className)) (ts : TemplateCollection)
    (t : FileTree) (cwd : Location) (out : Path) :
    (deliver t cwd out ((generate v ts ⟨out⟩).map Artifact.toTextFile)).tree.fileAt?
        (cwd.along (classFile (Layout.sourceDir ⟨out⟩) platform package className)) =
      t.fileAt? (cwd.along (classFile (Layout.sourceDir ⟨out⟩) platform package className)) := by
  refine fileAt?_deliver_of_forall_ne t cwd out fun f hf => ?_
  obtain ⟨a, ha, rfl⟩ := List.mem_map.1 hf
  obtain ⟨kind, -, rfl⟩ := List.mem_map.1 ha
  have hplace : cwd.along (v.spec.artifact ts ⟨out⟩ kind).path =
      cwd.along out ++ v.spec.belowRoot kind := by
    rw [← cwd.along_foldl_child (Spec.proper_belowRoot v.valid kind)]
    exact congrArg cwd.along (v.spec.artifactPath_eq_foldl ⟨out⟩ kind)
  -- both lie below the output directory, wherever that is
  rw [along_classFile_sourceDir h]
  exact fun heq => belowRoot_ne_classPlace hne kind
    (List.append_cancel_left (hplace.symm.trans heq))

/-- The tree after bindings were generated into one output directory, one after the other. -/
def generateAll (t : FileTree) (cwd : Location) (out : Path)
    (bindings : List (ValidSpec × TemplateCollection)) : FileTree :=
  bindings.foldl (fun t b =>
    (deliver t cwd out ((generate b.1 b.2 ⟨out⟩).map Artifact.toTextFile)).tree) t

theorem fileAt?_generateAll (h : IsClass package className) (cwd : Location) (out : Path)
    {bindings : List (ValidSpec × TemplateCollection)}
    (hne : ∀ b ∈ bindings, ¬ (b.1.spec.package = package ∧ b.1.spec.className = className))
    (t : FileTree) :
    (generateAll t cwd out bindings).fileAt?
        (cwd.along (classFile (Layout.sourceDir ⟨out⟩) platform package className)) =
      t.fileAt? (cwd.along (classFile (Layout.sourceDir ⟨out⟩) platform package className)) := by
  induction bindings generalizing t with
  | nil => rfl
  | cons b bindings ih =>
    rw [List.forall_mem_cons] at hne
    rw [generateAll, List.foldl_cons, ← generateAll, ih hne.2,
      fileAt?_deliver_generate h hne.1 b.2 t cwd out]

/-! ## Class files are told apart -/

/-- Below any source root the files of two classes have the same path, compared as texts, by
    components or in normal spelling, exactly if source set, package and class are the same.
    Bindings of other classes that are generated into one output directory, any number of them
    and with whatever success, leave what is where the path of a class file leads. -/
theorem classFile_tells (h : IsClass package className) (h' : IsClass package' className')
    (root : Path) (platform platform' : Platform) :
    [classFile root platform package className = classFile root platform' package' className',
      (classFile root platform package className).components =
        (classFile root platform' package' className').components,
      (classFile root platform package className).normalize =
        (classFile root platform' package' className').normalize,
      platform = platform' ∧ package = package' ∧ className = className'].TFAE ∧
    ∀ (t : FileTree) (cwd : Location) (out : Path)
      (bindings : List (ValidSpec × TemplateCollection)),
      (∀ b ∈ bindings, ¬ (b.1.spec.package = package ∧ b.1.spec.className = className)) →
      (generateAll t cwd out bindings).fileAt?
          (cwd.along (classFile (Layout.sourceDir ⟨out⟩) platform package className)) =
        t.fileAt? (cwd.along (classFile (Layout.sourceDir ⟨out⟩) platform package className)) := by
  refine ⟨?_, fun t cwd out bindings hne => fileAt?_generateAll h cwd out hne t⟩
  tfae_have 1 → 2 := fun heq => congrArg Path.components heq
  tfae_have 2 → 3 := fun heq => by rw [Path.normalize, Path.normalize, Path.route, Path.route, heq]
  tfae_have 3 → 4 := fun heq => classPlace_inj.1 (classPlace_eq_of_normalize_eq h h' heq)
  tfae_have 4 → 1 := by
    rintro ⟨rfl, rfl, rfl⟩
    rfl
  tfae_finish

/-- An output directory, beside a working directory, with the JVM file of the class `é` in the
    package `a`. -/
def withClassFile : FileTree :=
  .dir [("w", .dir []), ("out", .dir [("src", .dir [("jvmMain", .dir [("kotlin", .dir [("a",
    .dir [("é.kt", .file "x".toUTF8)])])])])])]

/-- The theorem at a package that is called like a class in the package above it, and at two
    generations for a third class, into the neighbour of the working directory. -/
theorem classFile_tells_nested :
    IsClass "a" "é" ∧ IsClass "a.é" "é" ∧
      (classFile ⟨"../x//."⟩ .jvm "a" "é").normalize ≠
        (classFile ⟨"../x//."⟩ .jvm "a.é" "é").normalize ∧
      ¬ (wideNames.package = "a" ∧ wideNames.className = "é") ∧
      (generateAll withClassFile ["w"] ⟨"../out"⟩
        [(⟨wideNames, wideNames_valid⟩, .builtin), (⟨wideNames, wideNames_valid⟩, .builtin)]).fileAt?
          (Location.along ["w"] (classFile (Layout.sourceDir ⟨⟨"../out"⟩⟩) .jvm "a" "é")) =
        some "x".toUTF8 := by
  have hclass : IsClass "a" "é" := ⟨by decide +kernel, by decide +kernel⟩
  have hnested : IsClass "a.é" "é" := ⟨by decide +kernel, by decide +kernel⟩
  have hother : ¬ (wideNames.package = "a" ∧ wideNames.className = "é") := by decide
  have hne : ∀ b ∈ [((⟨wideNames, wideNames_valid⟩ : ValidSpec), TemplateCollection.builtin),
      (⟨wideNames, wideNames_valid⟩, .builtin)],
      ¬ (b.1.spec.package = "a" ∧ b.1.spec.className = "é") := by
    intro b hb
    rw [List.eq_of_mem_replicate (n := 2) hb]
    exact hother
  have hplace : Location.along ["w"] (classFile (Layout.sourceDir ⟨⟨"../out"⟩⟩) .jvm "a" "é") =
      ["out", "src", "jvmMain", "kotlin", "a", "é.kt"] := by decide +kernel
  have hfile : withClassFile.fileAt? ["out", "src", "jvmMain", "kotlin", "a", "é.kt"] =
      some "x".toUTF8 := rfl
  obtain ⟨htold, hkept⟩ := classFile_tells hclass hnested ⟨"../x//."⟩ .jvm .jvm
  have hapart := (htold.out 2 3).not.2 (by decide)
  have hgenerated := hkept withClassFile ["w"] ⟨"../out"⟩ _ hne
  rw [hplace, hfile] at hgenerated
  rw [hplace]
  exact ⟨hclass, hnested, hapart, hother, hgenerated⟩

end GrammarBindings
