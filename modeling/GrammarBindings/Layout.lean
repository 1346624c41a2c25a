/-
  GrammarBindings.Layout

  Where generated files go, derived from one output directory.
-/
import GrammarBindings.Path

namespace GrammarBindings

/-! ## Source sets -/

/-- The Kotlin source sets that receive a generated class. -/
inductive Platform
  | common
  | native
  | jvm
  | android
  deriving DecidableEq, Repr

namespace Platform

/-- The directory of a source set. -/
def sourceSet : Platform → String
  | common => "commonMain"
  | native => "nativeMain"
  | jvm => "jvmMain"
  | android => "androidMain"

end Platform

/-! ## Class files -/

/-- The directories of a package, one for each part between its dots. -/
def packageDirs (package : String) : List String :=
  (package.toList.splitOn '.').map String.ofList

/-- The file of a class below a source root:
    `<root>/<source set>/kotlin/<package directories>/<class>.kt`. -/
def classFile (root : Path) (platform : Platform) (package className : String) : Path :=
  ((packageDirs package).foldl Path.child
    ((root.child platform.sourceSet).child "kotlin")).child (className ++ ".kt")

/-- The C file with the native methods, below a source root. -/
def jniFile (root : Path) : Path := (root.child "jni").child "binding.c"

/-! ## The layout of an output directory -/

/-- The places of generated files below one output directory. -/
structure Layout where
  root : Path
  deriving DecidableEq, Repr

namespace Layout

/-- The source root. -/
def sourceDir (l : Layout) : Path := l.root.child "src"

/-- The build script. -/
def buildFile (l : Layout) : Path := l.root.child "CMakeLists.txt"

/-- The interop definition called `stem`. -/
def interopFile (l : Layout) (stem : String) : Path :=
  (l.sourceDir.child "nativeInterop").child (stem ++ ".def")

end Layout

end GrammarBindings
