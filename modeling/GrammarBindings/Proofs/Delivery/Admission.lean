/-
  GrammarBindings.Proofs.Delivery.Admission

  The files of a binding can be put below every output directory.  However the path of
  the directory is spelled, and also where it leads nowhere or climbs, the normal spelling
  of a file's path goes on from that of the directory by names, to a place that is on the
  way to no other file.  The guard of a delivery lets all of them through.

    * `components_artifactPath` — the normal spelling of a file's path.
    * `not_prefix_artifactPath` — no file lies on the way to another.

  Main statement: `generate_admitted`.
-/
import GrammarBindings.Proofs.Delivery.Course
import GrammarBindings.Proofs.Kotlin.Clash
import GrammarBindings.Proofs.Layout

namespace GrammarBindings

/-! ## The paths of the files -/

namespace Spec

/-- Normal spelling takes nothing back of what is put behind the output directory. -/
theorem components_artifactPath {s : Spec} (hs : s.Valid) (l : Layout) (kind : ArtifactKind) :
    (s.artifactPath l kind).normalize.components =
      l.root.normalize.components ++ (s.belowRoot kind).map .name := by
  rw [Path.components_normalize, Path.components_normalize, route_artifactPath hs,
    Route.components_append]

/-- No file of a binding lies on the way to another, below whatever directory. -/
theorem not_prefix_artifactPath {s : Spec} (hs : s.Valid) (l : Layout)
    {kind other : ArtifactKind} (h : kind ≠ other) :
    ¬ (s.artifactPath l kind).normalize.components <+:
      (s.artifactPath l other).normalize.components := by
  rw [components_artifactPath hs, components_artifactPath hs, List.prefix_append_right_inj]
  -- below the directory the files part at a name
  intro hprefix
  have hinjective : Function.Injective Component.name := fun _ _ => Component.name.inj
  exact s.not_prefix_belowRoot h ((List.prefix_map_iff_of_injective hinjective).1 hprefix)

end Spec

/-! ## The files of a binding -/

/-- The files of a binding, one of each kind, go below every output directory, whatever its
    path is.  In normal spelling their paths are different, none is on the way to another,
    and all go on from the path of the directory.  So a delivery never fails because of where
    they are to go. -/
theorem generate_admitted (v : ValidSpec) (ts : TemplateCollection) (root : Path) :
    let files := generate v ts ⟨root⟩
    files.map Artifact.kind = ArtifactKind.all ∧
      (files.map fun a => a.path.normalize).Nodup ∧
      files.Pairwise (fun a b =>
        ¬ a.path.normalize.components <+: b.path.normalize.components ∧
          ¬ b.path.normalize.components <+: a.path.normalize.components) ∧
      (∀ a ∈ files, root.normalize.components <+: a.path.normalize.components) ∧
      ∀ t cwd f, (Delivery.deliver t cwd root (files.map Artifact.toTextFile)).result = .error f →
        ∀ dir, f.cause ≠ .outside dir := by
  intro files
  have hapart : files.Pairwise (fun a b =>
      ¬ a.path.normalize.components <+: b.path.normalize.components ∧
        ¬ b.path.normalize.components <+: a.path.normalize.components) := by
    have hkinds : ArtifactKind.all.Nodup := by decide
    refine List.pairwise_map.2 (hkinds.imp fun hne => ⟨?_, ?_⟩)
    · exact Spec.not_prefix_artifactPath v.valid ⟨root⟩ hne
    · exact Spec.not_prefix_artifactPath v.valid ⟨root⟩ hne.symm
  have hbelow : ∀ a ∈ files, root.normalize.components <+: a.path.normalize.components := by
    intro a ha
    obtain ⟨kind, -, rfl⟩ := List.mem_map.1 ha
    have hpath := Spec.components_artifactPath v.valid ⟨root⟩ kind
    exact ⟨_, hpath.symm⟩
  refine ⟨rfl, ?distinct, hapart, hbelow, ?delivery⟩
  case distinct =>
    refine List.pairwise_map.2 (hapart.imp fun h heq => h.1 ?_)
    rw [heq]
  case delivery =>
    intro t cwd f hf dir hcause
    have hinside : ∀ file ∈ files.map Artifact.toTextFile, file.path.isWithin root = true := by
      intro file hfile
      obtain ⟨a, ha, rfl⟩ := List.mem_map.1 hfile
      exact Path.isWithin_iff.2 (hbelow a ha)
    obtain ⟨e, he⟩ := Delivery.cause_deliver hinside hf
    rw [hcause] at he
    cases he

/-- A tree in which a file has the place of the output directory. -/
def occupiedTree : FileTree := .dir [("w", .dir []), ("out", .file "".toUTF8)]

/-- The theorem at a path that climbs out of the working directory.  A file is in the way
    there, so the delivery fails, but not because of where the files are to go. -/
theorem generate_admitted_occupied :
    let root : Path := ⟨"..//./out"⟩
    ∃ v : ValidSpec, v.spec = Spec.oneAccessor "language" "tree_sitter_foo" ∧
      (generate v .builtin ⟨root⟩).map Artifact.kind = ArtifactKind.all ∧
      (∀ a ∈ generate v .builtin ⟨root⟩, [.up, .name "out"] <+: a.path.normalize.components) ∧
      ∃ f, (Delivery.deliver occupiedTree ["w"] root
          ((generate v .builtin ⟨root⟩).map Artifact.toTextFile)).result = .error f ∧
        ∀ dir, f.cause ≠ .outside dir := by
  intro root
  have hroot : root.normalize.components = [.up, .name "out"] := by decide
  have hdirs : (occupiedTree.makeDirs ["w"] root).2 = some .alreadyExists := by decide
  obtain ⟨hkinds, -, -, hbelow, hcause⟩ :=
    generate_admitted ⟨_, Spec.language_valid⟩ .builtin root
  have hfails (files : List TextFile) :
      ∃ f, (Delivery.deliver occupiedTree ["w"] root files).result = .error f := by
    rcases hmake : occupiedTree.makeDirs ["w"] root with ⟨u, e | e⟩
    · rw [hmake] at hdirs
      cases hdirs
    · simp only [Delivery.deliver, hmake]
      cases Delivery.stray? root files <;> exact ⟨_, rfl⟩
  obtain ⟨f, hf⟩ := hfails _
  rw [hroot] at hbelow
  exact ⟨⟨_, Spec.language_valid⟩, rfl, hkinds, hbelow, f, hf, hcause _ _ f hf⟩

end GrammarBindings
