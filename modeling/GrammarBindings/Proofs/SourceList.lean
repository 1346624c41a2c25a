/-
  GrammarBindings.Proofs.SourceList

  What the list of sources in the build script tells about the sources.  The list is one text
  with a space between the paths, and spaces in the paths are not marked.  So the list tells
  the sources only together with the number of spaces in each path; without spaces in the
  paths it tells them alone.

    * `sourceEntries_eq_iff` — the paths in the script tell where the sources are.
    * `mem_text_relativeTo_iff` — a path has the spaces of the names that lead to the source
      from the last directory on the way to both it and the script.

  Main statement: `sourcePlaces_eq_iff`.
-/
import GrammarBindings.Proofs.BuildScript
import GrammarBindings.Proofs.Kotlin.Clash
import GrammarBindings.Proofs.Path.Shortest

namespace GrammarBindings

namespace Path

variable {base target : Path}

/-! ## Relative paths and normal spellings -/

/-- A relative path depends on the normal spelling of its target only. -/
theorem relativeTo_normalize (base target : Path) :
    target.normalize.relativeTo base = target.relativeTo base := by
  simp only [relativeTo, route_normalize, normalize_normalize]

/-- The names that lead to a place from the last directory on the way to both it and `base`. -/
def namesFrom (base target : Path) : List String := (dropShared base.place target.place).2

/-- A character that structures no path is in a spelled way if it is in one of its names. -/
theorem mem_text_climbThenDown_iff {c : Char} (hc : c ∉ ['/', '.']) (climbs : Nat)
    (names : List String) :
    c ∈ (ofMoves (climbThenDown climbs names)).text.toList ↔ ∃ n ∈ names, c ∈ n.toList := by
  rw [List.mem_cons, List.mem_singleton, not_or] at hc
  obtain ⟨hslash, hdot⟩ := hc
  rw [text_ofMoves_climbThenDown]
  split_ifs with hempty
  · -- a `.` for no names
    simp [hempty.2, hdot]
  · have hseparator : c ∉ "/".toList := by simpa using hslash
    have hup (s : String) (hs : s ∈ List.replicate climbs "..") : c ∉ s.toList := by
      rw [List.eq_of_mem_replicate hs]
      simpa using hdot
    rw [String.toList_intercalate, mem_intercalate_iff hseparator]
    constructor
    · rintro ⟨cs, hcs, hmem⟩
      obtain ⟨s, hs, rfl⟩ := List.mem_map.1 hcs
      rcases List.mem_append.1 hs with hs | hs
      · exact absurd hmem (hup s hs)
      · exact ⟨s, hs, hmem⟩
    · rintro ⟨n, hn, hmem⟩
      exact ⟨n.toList, List.mem_map_of_mem (List.mem_append_right _ hn), hmem⟩

theorem mem_text_relativeTo_iff {c : Char} (hc : c ∉ ['/', '.']) (hbase : base.isAbsolute = true)
    (htarget : target.isAbsolute = true) :
    c ∈ (target.relativeTo base).text.toList ↔ ∃ n ∈ namesFrom base target, c ∈ n.toList := by
  rw [relativeTo_eq_climbThenDown hbase htarget]
  exact mem_text_climbThenDown_iff hc _ _

end Path

namespace Spec

/-! ## Entries and places -/

/-- The paths of the sources in the build script, without that of the binding itself. -/
def sourceEntries (s : Spec) (l : Layout) : List String :=
  s.sources.map fun file => ((s.baseDir.join file).relativeTo l.root).text

/-- The sources in normal spelling, as read from the base directory. -/
def sourcePlaces (s : Spec) : List Path := s.sources.map fun file => (s.baseDir.join file).normalize

/-- The number of spaces in each entry. -/
def sourceSpaces (s : Spec) (l : Layout) : List Nat :=
  (s.sourceEntries l).map fun e => e.toList.count ' '

theorem sourceList_eq (s : Spec) (l : Layout) :
    s.sourceList l = " ".intercalate ("src/jni/binding.c" :: s.sourceEntries l) := by
  rw [sourceList, sourcePaths, relativeTo_jniFile, List.map_cons, List.map_map, sourceEntries]
  rfl

section

variable {s t : Spec} {l : Layout} (hroot : l.root.isAbsolute = true)
include hroot

/-- Read from the output directory, the entries lead to the sources. -/
theorem sourcePlaces_eq_map (hbase : s.baseDir.isAbsolute = true) :
    s.sourcePlaces = (s.sourceEntries l).map fun e => (l.root.join ⟨e⟩).normalize := by
  rw [sourcePlaces, sourceEntries, List.map_map]
  refine List.map_congr_left fun file _ => ?_
  have hrelated := Path.related_of_isAbsolute hroot (Path.isAbsolute_join (q := file) hbase)
  rw [Function.comp_apply, (Path.leadsTo_relativeTo hrelated).same]

omit hroot in
theorem sourceEntries_eq_map (s : Spec) (l : Layout) :
    s.sourceEntries l = s.sourcePlaces.map fun p => (p.relativeTo l.root).text := by
  rw [sourcePlaces, sourceEntries, List.map_map]
  refine List.map_congr_left fun file _ => ?_
  rw [Function.comp_apply, Path.relativeTo_normalize]

theorem sourceEntries_eq_iff (hs : s.baseDir.isAbsolute = true) (ht : t.baseDir.isAbsolute = true) :
    s.sourceEntries l = t.sourceEntries l ↔ s.sourcePlaces = t.sourcePlaces := by
  constructor
  · intro h
    rw [sourcePlaces_eq_map hroot hs, sourcePlaces_eq_map hroot ht, h]
  · intro h
    rw [sourceEntries_eq_map, sourceEntries_eq_map, h]

end

/-! ## Spaces -/

/-- No source is reached over names with spaces from the last directory on the way to both it
    and the build script. -/
def Unspaced (s : Spec) (l : Layout) : Prop :=
  ∀ file ∈ s.sources, ∀ n ∈ Path.namesFrom l.root (s.baseDir.join file), ' ' ∉ n.toList

section

variable {s t : Spec} {l : Layout} (hroot : l.root.isAbsolute = true)

theorem parts_sourceList_eq_iff :
    parts ' ' (s.sourceList l) = "src/jni/binding.c" :: s.sourceEntries l ↔
      ∀ e ∈ s.sourceEntries l, ' ' ∉ e.toList := by
  have hbinding : ' ' ∉ "src/jni/binding.c".toList := by decide
  rw [sourceList_eq]
  refine (parts_intercalate_eq_iff (List.cons_ne_nil _ _)).trans ?_
  rw [List.forall_mem_cons]
  exact and_iff_right hbinding

include hroot in
theorem unspaced_iff (hbase : s.baseDir.isAbsolute = true) :
    s.Unspaced l ↔ ∀ e ∈ s.sourceEntries l, ' ' ∉ e.toList := by
  have hentry (file : Path) : ' ' ∉ ((s.baseDir.join file).relativeTo l.root).text.toList ↔
      ∀ n ∈ Path.namesFrom l.root (s.baseDir.join file), ' ' ∉ n.toList := by
    rw [Path.mem_text_relativeTo_iff (by decide) hroot (Path.isAbsolute_join hbase)]
    simp only [not_exists, not_and]
  simp only [Unspaced, sourceEntries, List.forall_mem_map, hentry]

theorem sourceEntries_eq_of_sourceSpaces_eq (hspaces : s.sourceSpaces l = t.sourceSpaces l)
    (h : s.sourceList l = t.sourceList l) : s.sourceEntries l = t.sourceEntries l := by
  rw [sourceList_eq, sourceList_eq] at h
  refine (List.cons.inj (@eq_of_intercalate_eq ' ' _ _ (List.cons_ne_nil _ _)
    (List.cons_ne_nil _ _) ?_ h)).2
  rw [List.map_cons, List.map_cons]
  exact congrArg _ hspaces

end

/-- The list of sources in the build script, together with the number of spaces in each of its
    paths, tells where the sources are, and nothing less does. -/
theorem sourcePlaces_eq_iff (v w : ValidSpec) (l : Layout) (hroot : l.root.isAbsolute = true)
    (hv : v.spec.baseDir.isAbsolute = true) (hw : w.spec.baseDir.isAbsolute = true) :
    (v.spec.sourcePlaces = w.spec.sourcePlaces ↔
        v.spec.sourceList l = w.spec.sourceList l ∧
          v.spec.sourceSpaces l = w.spec.sourceSpaces l) ∧
      (parts ' ' (v.spec.sourceList l) = "src/jni/binding.c" :: v.spec.sourceEntries l ↔
        v.spec.Unspaced l) ∧
      (v.spec.Unspaced l → w.spec.Unspaced l →
        (v.spec.sourcePlaces = w.spec.sourcePlaces ↔ v.spec.sourceList l = w.spec.sourceList l)) := by
  have hsame : v.spec.sourceEntries l = w.spec.sourceEntries l ↔
      v.spec.sourcePlaces = w.spec.sourcePlaces := sourceEntries_eq_iff hroot hv hw
  have hlist : v.spec.sourceEntries l = w.spec.sourceEntries l →
      v.spec.sourceList l = w.spec.sourceList l := by
    intro h
    rw [sourceList_eq, sourceList_eq, h]
  refine ⟨?_, parts_sourceList_eq_iff.trans (unspaced_iff hroot hv).symm, fun hvs hws => ?_⟩
  · rw [← hsame]
    exact ⟨fun h => ⟨hlist h, by rw [sourceSpaces, sourceSpaces, h]⟩,
      fun h => sourceEntries_eq_of_sourceSpaces_eq h.2 h.1⟩
  · -- the parts between the spaces are the paths
    rw [← hsame]
    refine ⟨hlist, fun h => ?_⟩
    have hparts := congrArg (parts ' ') h
    rw [parts_sourceList_eq_iff.2 ((unspaced_iff hroot hv).1 hvs),
      parts_sourceList_eq_iff.2 ((unspaced_iff hroot hw).1 hws)] at hparts
    exact (List.cons.inj hparts).2

instance (s : Spec) (l : Layout) : Decidable (s.Unspaced l) :=
  inferInstanceAs (Decidable (∀ file ∈ s.sources,
    ∀ n ∈ Path.namesFrom l.root (s.baseDir.join file), ' ' ∉ n.toList))

/-- A spec with these sources. -/
def compiling (baseDir : Path) (sources : List Path) : Spec :=
  { oneAccessor "language" "tree_sitter_foo" with baseDir, sources }

theorem compiling_valid (baseDir : Path) (sources : List Path) : (compiling baseDir sources).Valid :=
  let h := language_valid
  ⟨h.package, h.className, h.interop, h.accessors, h.entries⟩

/-- The theorem at two spellings of a source below a directory with a space in its name, which
    the source shares with the build script. -/
theorem sourcePlaces_eq_iff_sharedSpace :
    let l : Layout := ⟨⟨"/my repo/out"⟩⟩
    let s := compiling ⟨"/my repo"⟩ [⟨"src/a.c"⟩]
    let t := compiling ⟨"/my repo"⟩ [⟨"./src//x/../a.c"⟩]
    l.root.isAbsolute = true ∧ s.baseDir.isAbsolute = true ∧ t.baseDir.isAbsolute = true ∧
      s.Unspaced l ∧ t.Unspaced l ∧
      (s.sourcePlaces = t.sourcePlaces ↔ s.sourceList l = t.sourceList l) ∧
      parts ' ' (s.sourceList l) = ["src/jni/binding.c", "../src/a.c"] := by
  intro l s t
  have hroot : l.root.isAbsolute = true := by decide
  have hs : s.baseDir.isAbsolute = true := by decide
  have ht : t.baseDir.isAbsolute = true := by decide
  have hsu : s.Unspaced l := by decide
  have htu : t.Unspaced l := by decide
  obtain ⟨-, hparts, hiff⟩ :=
    sourcePlaces_eq_iff ⟨s, compiling_valid _ _⟩ ⟨t, compiling_valid _ _⟩ l hroot hs ht
  have hentries : s.sourceEntries l = ["../src/a.c"] := by decide
  have hsplit := hparts.2 hsu
  rw [hentries] at hsplit
  exact ⟨hroot, hs, ht, hsu, htu, hiff hsu htu, hsplit⟩

/-- One source with a space in its name looks like two sources: valid specs that compile other
    files have the same text for the sources, and between its spaces there are not the
    paths. -/
theorem sourceList_ambiguous :
    let l : Layout := ⟨⟨"/repo"⟩⟩
    let s := compiling ⟨"/repo"⟩ [⟨"a b.c"⟩]
    let t := compiling ⟨"/repo"⟩ [⟨"a"⟩, ⟨"b.c"⟩]
    s.Valid ∧ t.Valid ∧ l.root.isAbsolute = true ∧ s.baseDir.isAbsolute = true ∧
      s.baseDir = t.baseDir ∧ s.sourceList l = t.sourceList l ∧
      s.sourcePlaces ≠ t.sourcePlaces ∧
      (parts ' ' (s.sourceList l)).length ≠ s.sources.length + 1 := by
  intro l s t
  have hspaced : s.sourceList l = "src/jni/binding.c a b.c" := by decide
  have happart : t.sourceList l = "src/jni/binding.c a b.c" := by decide
  have hparts : parts ' ' "src/jni/binding.c a b.c" = ["src/jni/binding.c", "a", "b.c"] := by decide
  refine ⟨compiling_valid _ _, compiling_valid _ _, by decide, by decide, rfl,
    hspaced.trans happart.symm, by decide, ?_⟩
  rw [hspaced, hparts]
  decide

end Spec

end GrammarBindings
