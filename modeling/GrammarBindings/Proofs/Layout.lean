/-
  GrammarBindings.Proofs.Layout

  Where the files of a binding go.  Below the output directory the file of a kind has
  the place `belowRoot`; the rules for specs make its parts names.

    * `route_artifactPath` — the way to a file goes on from the output directory.
    * `artifactPath_eq` — below a canonical output directory, the path of a file is that
      of its place.
    * `not_prefix_belowRoot` — no file of a binding lies on the way to another.
    * `getLast?_belowRoot_ne` — no file of a binding is called like a template.
-/
import GrammarBindings.Artifact
import GrammarBindings.Proofs.Validation
import GrammarBindings.Proofs.Path.Relative

namespace GrammarBindings

/-! ## Names out of a spec -/

theorem isName_of_accepts {cs : List Char} (h : Identifier.accepts cs = true) :
    IsName (String.ofList cs) := by
  have hdot : '.' ∉ cs := notMem_of_accepts h (not_isPart_of_mem (by simp))
  constructor
  · intro hempty
    have hnil : cs = [] := by simpa using hempty
    rw [hnil] at h
    cases h
  · intro hhere
    apply hdot
    have hcs : cs = ['.'] := by rw [← String.toList_ofList (l := cs), hhere]; rfl
    simp [hcs]
  · intro hup
    apply hdot
    have hcs : cs = ['.', '.'] := by rw [← String.toList_ofList (l := cs), hup]; rfl
    simp [hcs]
  · rw [String.toList_ofList]
    exact notMem_of_accepts h (not_isPart_of_mem (by simp))

/-- The parts of a package name are names of directories. -/
theorem proper_packageDirs {package : String} (h : isDottedIdentifier package = true) :
    Location.Proper (packageDirs package) := by
  intro s hs
  obtain ⟨cs, hcs, rfl⟩ := List.mem_map.1 hs
  exact isName_of_accepts (List.all_eq_true.1 h cs hcs)

/-- Three characters without a slash are enough for a name. -/
theorem isName_of_length {s : String} (hlength : 2 < s.length) (hslash : '/' ∉ s.toList) :
    IsName s := by
  -- the empty text, `.` and `..` are shorter
  refine ⟨?_, ?_, ?_, hslash⟩ <;> rintro rfl <;> revert hlength <;> decide

/-- The directories of a package, below that of a source set, are named by names. -/
theorem proper_kotlinDirs {package : String} (h : isDottedIdentifier package = true)
    (platform : Platform) :
    Location.Proper (platform.sourceSet :: "kotlin" :: packageDirs package) := by
  have hset : IsName platform.sourceSet := by
    cases platform <;> exact isName_of_length (by decide) (by decide)
  have hkotlin : IsName "kotlin" := isName_of_length (by decide) (by decide)
  exact List.forall_mem_cons.2 ⟨hset, List.forall_mem_cons.2 ⟨hkotlin, proper_packageDirs h⟩⟩

/-- A text without slashes becomes a name with an extension behind it. -/
theorem isName_append {s extension : String} (hslash : '/' ∉ s.toList)
    (hextension : '/' ∉ extension.toList) (hlength : 2 < extension.length) :
    IsName (s ++ extension) := by
  refine isName_of_length ?_ ?_
  · rw [String.length_append]
    omega
  · rw [String.toList_append, List.mem_append]
    exact not_or.2 ⟨hslash, hextension⟩

theorem no_slash_of_isIdentifier {s : String} (h : isIdentifier s = true) :
    '/' ∉ s.toList :=
  notMem_of_isIdentifier h (not_isPart_of_mem (by simp))

theorem no_slash_of_isPlainFileName {s : String} (h : isPlainFileName s = true) :
    '/' ∉ s.toList :=
  (isPlainFileName_iff.1 h).no_slash

namespace Spec

/-! ## The places of the files -/

/-- The directories on the way from the output directory to a file. -/
def directories (s : Spec) : ArtifactKind → List String
  | .common => "src" :: Platform.common.sourceSet :: "kotlin" :: packageDirs s.package
  | .native => "src" :: Platform.native.sourceSet :: "kotlin" :: packageDirs s.package
  | .jvm => "src" :: Platform.jvm.sourceSet :: "kotlin" :: packageDirs s.package
  | .android => "src" :: Platform.android.sourceSet :: "kotlin" :: packageDirs s.package
  | .jni => ["src", "jni"]
  | .build => []
  | .interop => ["src", "nativeInterop"]

/-- What a file is called. -/
def fileName (s : Spec) : ArtifactKind → String
  | .common | .native | .jvm | .android => s.className ++ ".kt"
  | .jni => "binding.c"
  | .build => "CMakeLists.txt"
  | .interop => s.interop ++ ".def"

/-- The place of a file below the output directory. -/
def belowRoot (s : Spec) (kind : ArtifactKind) : Location := s.directories kind ++ [s.fileName kind]

theorem artifactPath_eq_foldl (s : Spec) (l : Layout) (kind : ArtifactKind) :
    s.artifactPath l kind = (s.belowRoot kind).foldl Path.child l.root := by
  cases kind <;>
    simp only [artifactPath, classFile, jniFile, Layout.sourceDir, Layout.buildFile,
      Layout.interopFile, belowRoot, directories, fileName, List.foldl_append, List.foldl_cons,
      List.foldl_nil]

theorem isName_fileName {s : Spec} (hs : s.Valid) (kind : ArtifactKind) :
    IsName (s.fileName kind) := by
  have hclass : IsName (s.className ++ ".kt") :=
    isName_append (no_slash_of_isIdentifier hs.className) (by decide) (by decide)
  cases kind with
  | common | native | jvm | android => exact hclass
  | jni => exact isName_of_length (s := "binding.c") (by decide) (by decide)
  | build => exact isName_of_length (s := "CMakeLists.txt") (by decide) (by decide)
  | interop =>
    exact isName_append (no_slash_of_isPlainFileName hs.interop) (by decide) (by decide)

theorem proper_directories {s : Spec} (hs : s.Valid) (kind : ArtifactKind) :
    Location.Proper (s.directories kind) := by
  have hsource {names : List String} (hnames : Location.Proper names) :
      Location.Proper ("src" :: names) :=
    List.forall_mem_cons.2 ⟨isName_of_length (by decide) (by decide), hnames⟩
  have hsingle {name : String} (hname : IsName name) : Location.Proper ["src", name] :=
    hsource (Location.proper_singleton.2 hname)
  cases kind with
  | common => exact hsource (proper_kotlinDirs hs.package .common)
  | native => exact hsource (proper_kotlinDirs hs.package .native)
  | jvm => exact hsource (proper_kotlinDirs hs.package .jvm)
  | android => exact hsource (proper_kotlinDirs hs.package .android)
  | jni => exact hsingle (isName_of_length (by decide) (by decide))
  | build => exact Location.proper_nil
  | interop => exact hsingle (isName_of_length (by decide) (by decide))

theorem proper_belowRoot {s : Spec} (hs : s.Valid) (kind : ArtifactKind) :
    (s.belowRoot kind).Proper :=
  Location.proper_append.2
    ⟨proper_directories hs kind, Location.proper_singleton.2 (isName_fileName hs kind)⟩

theorem belowRoot_ne_nil (s : Spec) (kind : ArtifactKind) : s.belowRoot kind ≠ [] := by
  simp [belowRoot]

/-! ## The paths of the files -/

theorem foldl_child_toPath {l : Location} {names : List String} (hl : l.Proper)
    (hnames : Location.Proper names) :
    names.foldl Path.child l.toPath = Location.toPath (l ++ names) := by
  induction names generalizing l with
  | nil => rw [List.foldl_nil, List.append_nil]
  | cons n names ih =>
    have hn : IsName n := hnames n List.mem_cons_self
    have hdown : Location.Proper (l ++ [n]) :=
      Location.proper_append.2 ⟨hl, Location.proper_singleton.2 hn⟩
    rw [List.foldl_cons, Location.child_toPath hl hn,
      ih hdown fun m hm => hnames m (List.mem_cons_of_mem _ hm), List.append_assoc,
      List.singleton_append]

/-- The way to a file is the way to the output directory, and on by names. -/
theorem route_artifactPath {s : Spec} (hs : s.Valid) (l : Layout) (kind : ArtifactKind) :
    (s.artifactPath l kind).route =
      { l.root.route with names := l.root.route.names ++ s.belowRoot kind } := by
  rw [artifactPath_eq_foldl, Path.route_foldl_child (proper_belowRoot hs kind)]

theorem place_artifactPath {s : Spec} (hs : s.Valid) (l : Layout) (kind : ArtifactKind) :
    (s.artifactPath l kind).place = l.root.place ++ s.belowRoot kind := by
  rw [Path.place, route_artifactPath hs]
  rfl

section Canonical

variable {s : Spec} {l : Layout} (hs : s.Valid) (hroot : l.root.Canonical)
include hs hroot

/-- The path of a file is that of its place below the output directory. -/
theorem artifactPath_eq (kind : ArtifactKind) :
    s.artifactPath l kind = Location.toPath (l.root.place ++ s.belowRoot kind) := by
  rw [artifactPath_eq_foldl, hroot.eq_toPath, Location.place_toPath l.root.proper_place]
  exact foldl_child_toPath l.root.proper_place (proper_belowRoot hs kind)

theorem canonical_artifactPath (kind : ArtifactKind) : (s.artifactPath l kind).Canonical := by
  rw [artifactPath_eq hs hroot]
  exact Location.canonical_toPath
    (Location.proper_append.2 ⟨l.root.proper_place, proper_belowRoot hs kind⟩)

end Canonical

/-! ## How the files lie to each other -/

/-- No file of a binding lies on the way to another. -/
theorem not_prefix_belowRoot (s : Spec) {kind other : ArtifactKind} (h : kind ≠ other) :
    ¬ s.belowRoot kind <+: s.belowRoot other := by
  -- they part at the second name at the latest
  cases kind <;> cases other <;>
    first
    | exact absurd rfl h
    | simp [belowRoot, directories, fileName, Platform.sourceSet, List.cons_prefix_cons]

/-- The texts of the files' names end in different characters than those of templates. -/
theorem getLast?_belowRoot_ne (s : Spec) (kind other : ArtifactKind) :
    (s.belowRoot kind).getLast? ≠ some other.templateFile := by
  have htemplate : other.templateFile.toList.getLast? = some 'n' := by cases other <;> decide
  have hfile : (s.fileName kind).toList.getLast? ≠ some 'n' := by
    cases kind <;> simp [fileName, String.toList_append]
  rw [belowRoot, List.getLast?_concat, ne_eq, Option.some.injEq]
  intro heq
  rw [heq] at hfile
  exact hfile htemplate

end Spec

/-! ## All files of a binding -/

/-- Files with canonical paths below a directory, none of them on the way to another
    and none called like a template. -/
structure Apart (root : Path) (files : List TextFile) : Prop where
  canonical : ∀ f ∈ files, f.path.Canonical
  distinct : (files.map TextFile.path).Nodup
  below : ∀ f ∈ files, ¬ f.path.place <+: root.place
  apart : ∀ f ∈ files, ∀ g ∈ files, f.path.place <+: g.path.place → f.path = g.path
  no_template : ∀ f ∈ files, ∀ kind : ArtifactKind,
    f.path.place.getLast? ≠ some kind.templateFile

/-- The files of a binding lie apart. -/
theorem apart_generate (v : ValidSpec) (ts : TemplateCollection) {root : Path}
    (hroot : root.Canonical) :
    Apart root ((generate v ts ⟨root⟩).map Artifact.toTextFile) := by
  have hplace (kind : ArtifactKind) :
      (v.spec.artifactPath ⟨root⟩ kind).place = root.place ++ v.spec.belowRoot kind :=
    Spec.place_artifactPath v.valid ⟨root⟩ kind
  have hmem {f : TextFile} (hf : f ∈ (generate v ts ⟨root⟩).map Artifact.toTextFile) :
      ∃ kind, f.path = v.spec.artifactPath ⟨root⟩ kind := by
    simp only [generate, List.map_map, List.mem_map] at hf
    obtain ⟨kind, -, rfl⟩ := hf
    exact ⟨kind, rfl⟩
  have happart {kind other : ArtifactKind}
      (h : (v.spec.artifactPath ⟨root⟩ kind).place <+: (v.spec.artifactPath ⟨root⟩ other).place) :
      kind = other := by
    rw [hplace, hplace, List.prefix_append_right_inj] at h
    by_contra hne
    exact v.spec.not_prefix_belowRoot hne h
  constructor
  · intro f hf
    obtain ⟨kind, hkind⟩ := hmem hf
    rw [hkind]
    exact Spec.canonical_artifactPath v.valid hroot kind
  · have hall : ArtifactKind.all.Nodup := by decide
    have hpaths : ((generate v ts ⟨root⟩).map Artifact.toTextFile).map TextFile.path =
        ArtifactKind.all.map (v.spec.artifactPath ⟨root⟩) := by
      simp only [generate, List.map_map]
      rfl
    rw [hpaths, List.Nodup, List.pairwise_map]
    refine hall.imp fun hne heq => hne (happart ?_)
    exact ⟨[], (List.append_nil _).trans (congrArg Path.place heq)⟩
  · intro f hf hpre
    obtain ⟨kind, hkind⟩ := hmem hf
    -- what lies below the directory is longer than its own place
    have hlength := hpre.length_le
    have hpos := List.length_pos_of_ne_nil (v.spec.belowRoot_ne_nil kind)
    rw [hkind, hplace, List.length_append] at hlength
    omega
  · intro f hf g hg hpre
    obtain ⟨kind, hkind⟩ := hmem hf
    obtain ⟨other, hother⟩ := hmem hg
    rw [hkind, hother] at hpre ⊢
    rw [happart hpre]
  · intro f hf other
    obtain ⟨kind, hkind⟩ := hmem hf
    rw [hkind, hplace, List.getLast?_append_of_ne_nil _ (v.spec.belowRoot_ne_nil kind)]
    exact v.spec.getLast?_belowRoot_ne kind other

end GrammarBindings
