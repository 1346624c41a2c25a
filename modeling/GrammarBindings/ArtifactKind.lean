/-
  GrammarBindings.ArtifactKind

  The seven files that make up the bindings of a grammar.
-/

namespace GrammarBindings

/-- The files of a binding, one of each. -/
inductive ArtifactKind
  /-- The Kotlin object that the platforms share. -/
  | common
  /-- Its counterpart for Kotlin/Native. -/
  | native
  /-- Its counterpart for the JVM. -/
  | jvm
  /-- Its counterpart for Android. -/
  | android
  /-- The C file with the exported native methods. -/
  | jni
  /-- The CMake script. -/
  | build
  /-- The interop definition for Kotlin/Native. -/
  | interop
  deriving DecidableEq, Repr

namespace ArtifactKind

/-- All kinds, in the order in which they are generated. -/
def all : List ArtifactKind := [common, native, jvm, android, jni, build, interop]

/-- The name of a kind in reports. -/
def label : ArtifactKind → String
  | common => "common"
  | native => "native"
  | jvm => "jvm"
  | android => "android"
  | jni => "jni"
  | build => "build"
  | interop => "interop"

/-- The name of a kind in log lines. -/
def title : ArtifactKind → String
  | common => "Common"
  | native => "Native"
  | jvm => "Jvm"
  | android => "Android"
  | jni => "Jni"
  | build => "Build"
  | interop => "Interop"

/-- The name of the file that holds the template of a kind. -/
def templateFile : ArtifactKind → String
  | common => "common.kt.in"
  | native => "native.kt.in"
  | jvm => "jvm.kt.in"
  | android => "android.kt.in"
  | jni => "jni.c.in"
  | build => "CMakeLists.txt.in"
  | interop => "interop.def.in"

/-- The placeholders that are given a value in the template of a kind. -/
def placeholders : ArtifactKind → List String
  | common => ["PACKAGE", "CLASS", "METHODS"]
  | native => ["PACKAGE", "CLASS", "IMPORTS", "METHODS"]
  | jvm => ["PACKAGE", "CLASS", "LIBRARY", "METHODS"]
  | android => ["PACKAGE", "CLASS", "LIBRARY", "METHODS"]
  | jni => ["GRAMMAR", "FUNCTIONS"]
  | build => ["LIBRARY", "INCLUDE", "SOURCES"]
  | interop => ["PACKAGE", "GRAMMAR"]

theorem mem_all (kind : ArtifactKind) : kind ∈ all := by
  cases kind <;> decide

end ArtifactKind

end GrammarBindings
