/-
  GrammarBindings.Proofs.Relocation

  A binding that is generated in another place.  When the base directory, the output
  directory and the sources of a grammar lie together below one directory, its files have
  the same contents wherever that directory is, and they lie where it is.

    * `sourcePaths_join`, `includeDir_join` — the paths in the build script do not leave
      the directory.
    * `artifactPath_join` — the files lie below it.

  Main statement: `generate_join`.
-/
import GrammarBindings.Proofs.BuildScript
import GrammarBindings.Proofs.Kotlin.Clash
import GrammarBindings.Proofs.Path.Inside

namespace GrammarBindings

/-- A spec with another base directory. -/
def Spec.withBaseDir (s : Spec) (dir : Path) : Spec := { s with baseDir := dir }

/-- No rule is about the base directory. -/
def ValidSpec.withBaseDir (v : ValidSpec) (dir : Path) : ValidSpec where
  spec := v.spec.withBaseDir dir
  valid := ⟨v.valid.package, v.valid.className, v.valid.interop, v.valid.accessors, v.valid.entries⟩

/-! ## Going down from a joined path -/

namespace Path

theorem foldl_child_join {names : List String} (hnames : Location.Proper names) {p : Path}
    (hp : p.isAbsolute = false) (dir : Path) :
    names.foldl child (dir.join p) = dir.join (names.foldl child p) ∧
      (names.foldl child p).isAbsolute = false := by
  induction names generalizing p with
  | nil => exact ⟨rfl, hp⟩
  | cons n names ih =>
    have hn : isAbsolute ⟨n⟩ = false :=
      Location.not_isAbsolute_of_isName (hnames n List.mem_cons_self)
    have hchild : (dir.join p).child n = dir.join (p.child n) := join_assoc hp hn dir
    have hrelative : (p.child n).isAbsolute = false := isAbsolute_join_of_relative hp hn
    rw [List.foldl_cons, List.foldl_cons, hchild]
    exact ih (fun m hm => hnames m (List.mem_cons_of_mem _ hm)) hrelative

end Path

namespace Spec

/-! ## The paths in the build script -/

section BuildScript

variable {s : Spec} {base out : Path} (hbase : base.Inside) (hout : out.Inside) (dir : Path)
include hbase hout

theorem sourcePaths_join
    (hsources : ∀ file ∈ s.sources, file.isAbsolute = false ∧ (base.join file).Inside) :
    (s.withBaseDir (dir.join base)).sourcePaths ⟨dir.join out⟩ =
      (s.withBaseDir base).sourcePaths ⟨out⟩ := by
  have hfiles : (s.sources.map fun file => ((dir.join base).join file).relativeTo (dir.join out)) =
      s.sources.map fun file => (base.join file).relativeTo out := by
    refine List.map_congr_left fun file hfile => ?_
    -- joined the other way round, all of the directory comes first
    obtain ⟨hrelative, hinside⟩ := hsources file hfile
    rw [Path.join_assoc hbase.relative hrelative, Path.relativeTo_join hout hinside]
  rw [sourcePaths, sourcePaths, relativeTo_jniFile, relativeTo_jniFile]
  exact congrArg _ hfiles

theorem includeDir_join (s : Spec) :
    (s.withBaseDir (dir.join base)).includeDir ⟨dir.join out⟩ =
      (s.withBaseDir base).includeDir ⟨out⟩ := by
  have hbindings : IsName "bindings" := isName_of_length (by decide) (by decide)
  have hc : IsName "c" := ⟨by decide, by decide, by decide, by decide⟩
  have hinside : ((base.child "bindings").child "c").Inside := (hbase.child hbindings).child hc
  have hjoin : ((dir.join base).child "bindings").child "c" =
      dir.join ((base.child "bindings").child "c") := by
    have hfirst : (dir.join base).child "bindings" = dir.join (base.child "bindings") :=
      Path.join_assoc hbase.relative (Location.not_isAbsolute_of_isName hbindings) dir
    rw [hfirst]
    exact Path.join_assoc (hbase.child hbindings).relative
      (Location.not_isAbsolute_of_isName hc) dir
  have hrelative : (((dir.join base).child "bindings").child "c").relativeTo (dir.join out) =
      ((base.child "bindings").child "c").relativeTo out := by
    rw [hjoin, Path.relativeTo_join hout hinside]
  exact hrelative

theorem substitution_join (kind : ArtifactKind)
    (hsources : ∀ file ∈ s.sources, file.isAbsolute = false ∧ (base.join file).Inside) :
    (s.withBaseDir (dir.join base)).substitution ⟨dir.join out⟩ kind =
      (s.withBaseDir base).substitution ⟨out⟩ kind := by
  cases kind with
  | build =>
    rw [substitution, substitution, sourceList, sourceList, includeDir_join hbase hout,
      sourcePaths_join hbase hout dir hsources]
    rfl
  | common | native | jvm | android | jni | interop => rfl

end BuildScript

/-! ## The places of the files -/

theorem artifactPath_withBaseDir (s : Spec) (dir : Path) (l : Layout) (kind : ArtifactKind) :
    (s.withBaseDir dir).artifactPath l kind = s.artifactPath l kind := by
  cases kind <;> rfl

theorem artifactPath_join {s : Spec} (hs : s.Valid) {out : Path} (hout : out.isAbsolute = false)
    (dir : Path) (kind : ArtifactKind) :
    s.artifactPath ⟨dir.join out⟩ kind = dir.join (s.artifactPath ⟨out⟩ kind) ∧
      (s.artifactPath ⟨out⟩ kind).isAbsolute = false := by
  rw [artifactPath_eq_foldl, artifactPath_eq_foldl]
  exact Path.foldl_child_join (proper_belowRoot hs kind) hout dir

end Spec

/-! ## The files -/

/-- The files of a binding in a directory are those that are generated with the paths as
    seen from there, put into the directory.  So the directory is in none of the contents,
    as long as the base directory, the output directory and the sources, read from the base
    directory, do not lead out of it. -/
theorem generate_join (v : ValidSpec) (ts : TemplateCollection) {base out : Path}
    (hbase : base.Inside) (hout : out.Inside)
    (hsources : ∀ file ∈ v.spec.sources, file.isAbsolute = false ∧ (base.join file).Inside) :
    let files := generate (v.withBaseDir base) ts ⟨out⟩
    (∀ a ∈ files, a.path.isAbsolute = false) ∧
      ∀ dir : Path, generate (v.withBaseDir (dir.join base)) ts ⟨dir.join out⟩ =
        files.map fun a => { a with path := dir.join a.path } := by
  intro files
  have hpath (dir : Path) (kind : ArtifactKind) :=
    Spec.artifactPath_join v.valid hout.relative dir kind
  constructor
  · intro a ha
    obtain ⟨kind, -, rfl⟩ := List.mem_map.1 ha
    have hrelative := (hpath out kind).2
    rwa [← v.spec.artifactPath_withBaseDir base] at hrelative
  · intro dir
    simp only [files, generate, List.map_map]
    refine List.map_congr_left fun kind _ => ?_
    have hsubstitution := Spec.substitution_join hbase hout dir kind hsources
    have hplace : (v.spec.withBaseDir (dir.join base)).artifactPath ⟨dir.join out⟩ kind =
        dir.join ((v.spec.withBaseDir base).artifactPath ⟨out⟩ kind) := by
      rw [Spec.artifactPath_withBaseDir, Spec.artifactPath_withBaseDir, (hpath dir kind).1]
    simp only [Function.comp_apply, Spec.artifact, ValidSpec.withBaseDir, hsubstitution, hplace]

/-- A spec with a source next to its base directory. -/
def neighbours : Spec :=
  { Spec.oneAccessor "language" "tree_sitter_foo" with
    sources := [⟨"src/parser.c"⟩, ⟨"..//common/scanner.c"⟩] }

/-- The theorem at two directories, of which one has names in it that occur below too. -/
theorem generate_join_neighbours :
    let base : Path := ⟨"grammars/./foo"⟩
    let out : Path := ⟨"grammars/out/"⟩
    base.Inside ∧ out.Inside ∧
      (∀ file ∈ neighbours.sources, file.isAbsolute = false ∧ (base.join file).Inside) ∧
      ∃ v : ValidSpec, v.spec = neighbours ∧
        (generate (v.withBaseDir (Path.join ⟨"/"⟩ base)) .builtin ⟨Path.join ⟨"/"⟩ out⟩).map
            (fun a => a.contents) =
          (generate (v.withBaseDir (Path.join ⟨"/grammars/out"⟩ base)) .builtin
            ⟨Path.join ⟨"/grammars/out"⟩ out⟩).map fun a => a.contents := by
  intro base out
  have hbase : base.Inside := by
    constructor <;> decide
  have hout : out.Inside := by
    constructor <;> decide
  have hsources : ∀ file ∈ neighbours.sources,
      file.isAbsolute = false ∧ (base.join file).Inside := by
    simp only [neighbours, List.forall_mem_cons]
    refine ⟨⟨by decide, by constructor <;> decide⟩, ⟨by decide, by constructor <;> decide⟩, by simp⟩
  have hone := Spec.language_valid
  have hvalid : neighbours.Valid :=
    ⟨hone.package, hone.className, hone.interop, hone.accessors, hone.entries⟩
  obtain ⟨-, hfiles⟩ := generate_join ⟨neighbours, hvalid⟩ .builtin hbase hout hsources
  refine ⟨hbase, hout, hsources, ⟨neighbours, hvalid⟩, rfl, ?_⟩
  rw [hfiles, hfiles, List.map_map, List.map_map]
  simp only [Function.comp_def]

end GrammarBindings
