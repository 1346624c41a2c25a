/-
  GrammarBindings.Proofs.BuildScript

  What the build script of a binding refers to.  The paths in it are read from the
  directory of the script, the output directory.  `buildScript_leadsTo` says that
  they are relative and lead there to the C file of the binding, to the sources of
  the grammar in their order, and to the directory with the grammar's headers.
-/
import GrammarBindings.Config
import GrammarBindings.Proofs.Layout
import GrammarBindings.Proofs.Path.Relative
import Mathlib.Data.List.Forall2

namespace GrammarBindings

/-! ## The C file of the binding -/

/-- The C file of the binding has the same path in every build script. -/
theorem relativeTo_jniFile (l : Layout) :
    (jniFile l.sourceDir).relativeTo l.root = ⟨"src/jni/binding.c"⟩ := by
  have hproper : Location.Proper ["src", "jni", "binding.c"] := by
    intro n hn
    simp only [List.mem_cons, List.not_mem_nil, or_false] at hn
    rcases hn with rfl | rfl | rfl
    · exact isName_of_length (by decide) (by decide)
    · exact isName_of_length (by decide) (by decide)
    · exact isName_of_length (by decide) (by decide)
  exact Path.relativeTo_foldl_child hproper l.root

namespace Config

/-! ## All paths of the script -/

theorem isAbsolute_baseDir (c : Config) {dir : Path} (hdir : dir.isAbsolute = true) :
    (c.toSpec dir).baseDir.isAbsolute = true := by
  have hjoin : (dir.join (c.baseDir.getD Spec.defaultBaseDir)).isAbsolute = true :=
    Path.isAbsolute_join hdir
  rw [toSpec, Path.normalize_of_isAbsolute hjoin]
  exact Location.isAbsolute_toPath _

/-- The paths that fill the template of the build script.  Read from the output
    directory, the sources are the C file of the binding and then one relative path
    for each file of the configuration, in order, which leads to that file as read
    from the base directory; the headers' path leads to `bindings/c` there. -/
theorem buildScript_leadsTo (c : Config) {dir : Path} (l : Layout)
    (hdir : dir.isAbsolute = true) (hroot : l.root.isAbsolute = true) :
    ∃ (sources : List Path) (headers : Path),
      (c.toSpec dir).substitution l .build =
          [("LIBRARY", (c.toSpec dir).library), ("INCLUDE", headers.text),
            ("SOURCES", " ".intercalate ("src/jni/binding.c" :: sources.map Path.text))] ∧
        List.Forall₂
          (fun file e => Path.LeadsTo l.root e ((c.toSpec dir).baseDir.join file))
          c.files sources ∧
        Path.LeadsTo l.root headers (((c.toSpec dir).baseDir.child "bindings").child "c") := by
  have hbase := c.isAbsolute_baseDir hdir
  have hleads {target : Path} (htarget : target.isAbsolute = true) :
      Path.LeadsTo l.root (target.relativeTo l.root) target :=
    Path.leadsTo_relativeTo (Path.related_of_isAbsolute hroot htarget)
  refine ⟨c.files.map fun file => ((c.toSpec dir).baseDir.join file).relativeTo l.root,
    (c.toSpec dir).includeDir l, ?_, ?_, ?_⟩
  · have hsources : (c.toSpec dir).sourceList l =
        " ".intercalate ("src/jni/binding.c" ::
          (c.files.map fun file => ((c.toSpec dir).baseDir.join file).relativeTo l.root).map
            Path.text) := by
      rw [Spec.sourceList, Spec.sourcePaths, relativeTo_jniFile]
      rfl
    rw [← hsources]
    rfl
  · rw [List.forall₂_map_right_iff, List.forall₂_same]
    exact fun file _ => hleads (Path.isAbsolute_join hbase)
  · exact hleads (Path.isAbsolute_join (Path.isAbsolute_join hbase))

/-- A configuration whose sources are named in several ways. -/
def scattered : Config where
  name := "foo"
  baseDir := some ⟨"..//./.."⟩
  files := [⟨"src/parser.c"⟩, ⟨"/usr/./lib//x.c"⟩, ⟨"../../../up.c"⟩, ⟨"bindings/kotlin/out"⟩]
  interop := none
  library := none
  package := "com.example"
  className := "Foo"
  accessors := none

/-- The theorem at that configuration, below `/repo`, with an output directory in
    which one of the sources is the directory itself. -/
theorem buildScript_leadsTo_scattered :
    Path.isAbsolute ⟨"/repo//bindings/kotlin/."⟩ = true ∧
      Path.isAbsolute ⟨"/repo/bindings/./x/../kotlin//out/"⟩ = true ∧
      ∃ (sources : List Path) (headers : Path),
        (scattered.toSpec ⟨"/repo//bindings/kotlin/."⟩).substitution
            ⟨⟨"/repo/bindings/./x/../kotlin//out/"⟩⟩ .build =
          [("LIBRARY", "ktreesitter-foo"), ("INCLUDE", headers.text),
            ("SOURCES", " ".intercalate ("src/jni/binding.c" :: sources.map Path.text))] ∧
        List.Forall₂
          (fun file e => Path.LeadsTo ⟨"/repo/bindings/./x/../kotlin//out/"⟩ e
            ((scattered.toSpec ⟨"/repo//bindings/kotlin/."⟩).baseDir.join file))
          scattered.files sources ∧
        Path.LeadsTo ⟨"/repo/bindings/./x/../kotlin//out/"⟩ headers
          (((scattered.toSpec ⟨"/repo//bindings/kotlin/."⟩).baseDir.child "bindings").child "c") := by
  have hdir : Path.isAbsolute ⟨"/repo//bindings/kotlin/."⟩ = true := by decide +kernel
  have hroot : Path.isAbsolute ⟨"/repo/bindings/./x/../kotlin//out/"⟩ = true := by decide +kernel
  exact ⟨hdir, hroot,
    buildScript_leadsTo scattered ⟨⟨"/repo/bindings/./x/../kotlin//out/"⟩⟩ hdir hroot⟩

/-- The sources of that build script. -/
example :
    (scattered.toSpec ⟨"/repo//bindings/kotlin/."⟩).sourceList
        ⟨⟨"/repo/bindings/./x/../kotlin//out/"⟩⟩ =
      "src/jni/binding.c ../../../src/parser.c ../../../../usr/lib/x.c ../../../../up.c ." := by
  decide +kernel

end Config

end GrammarBindings
