/-
  GrammarBindings.Artifact

  The files of a binding: for each kind its place, the texts that fill its
  template, and the file itself.
-/
import GrammarBindings.JniSymbol
import GrammarBindings.Layout
import GrammarBindings.Path.Route
import GrammarBindings.Spec
import GrammarBindings.Template.Collection
import GrammarBindings.TextFile

namespace GrammarBindings

/-- A generated file. -/
structure Artifact extends TextFile where
  kind : ArtifactKind
  deriving DecidableEq, Repr

namespace Spec

/-! ## Kotlin declarations -/

/-- Declarations in Kotlin stand apart by an empty line. -/
def joinBlocks (blocks : List String) : String := "\n\n".intercalate blocks

/-- The declaration of an accessor that the platforms share. -/
def sharedAccessor (e : String × String) : String := "    fun " ++ e.1 ++ "(): Any"

/-- The accessors of the shared object. -/
def sharedMethods (s : Spec) : String :=
  joinBlocks (s.accessors.entries.map sharedAccessor)

/-- The import of a C function in Kotlin/Native. -/
def importLine (package function : String) : String :=
  "import " ++ package ++ ".internal." ++ function

/-- The imports of the Kotlin/Native object, one for each C function. -/
def nativeImports (s : Spec) : String :=
  "\n".intercalate (s.accessors.distinctFunctions.map (importLine s.package))

/-- An accessor of the Kotlin/Native object. -/
def nativeAccessor (e : String × String) : String :=
  "    actual fun " ++ e.1 ++ "(): Any = " ++ e.2 ++ "()!!"

/-- The accessors of the Kotlin/Native object. -/
def nativeMethods (s : Spec) : String :=
  joinBlocks (s.accessors.entries.map nativeAccessor)

/-! ## Objects that load the native library -/

/-- The annotations of a native declaration on the JVM. -/
def jvmAnnotations : String := "    @JvmStatic\n"

/-- The annotations of a native declaration on Android. -/
def androidAnnotations : String := "    @JvmStatic\n    @CriticalNative\n"

/-- An accessor that calls a native declaration. -/
def managedAccessor (e : String × String) : String :=
  "    actual fun " ++ e.1 ++ "(): Any = " ++ e.2 ++ "()"

/-- A native declaration. -/
def externalDeclaration (annotations function : String) : String :=
  annotations ++ "    private external fun " ++ function ++ "(): Long"

/-- The blocks of accessors whose functions in `declared` have their declaration
    already.  The first accessor of any other function is followed by it. -/
def managedBlocks (annotations : String) (declared : List String) :
    List (String × String) → List String
  | [] => []
  | e :: es =>
    if e.2 ∈ declared then managedAccessor e :: managedBlocks annotations declared es
    else managedAccessor e :: externalDeclaration annotations e.2 ::
      managedBlocks annotations (e.2 :: declared) es

/-- The accessors and native declarations of an object that loads the library. -/
def managedMethods (annotations : String) (s : Spec) : String :=
  joinBlocks (managedBlocks annotations [] s.accessors.entries)

/-! ## C -/

/-- The definition of the native method for a C function. -/
def nativeFunction (stem function : String) : String :=
  "NATIVE_FUNCTION(" ++ stem ++ JniSymbol.escape function ++ ") \x7b\n" ++
    "    return (jlong)" ++ function ++ "();\n" ++ "\x7d\n"

/-- The native methods, one for each C function. -/
def nativeFunctions (s : Spec) : String :=
  String.join (s.accessors.distinctFunctions.map
    (nativeFunction (JniSymbol.stem s.package s.className)))

/-! ## The build script -/

/-- The sources to compile, as paths from the directory of the build script:
    the C file of the binding, then the sources of the grammar. -/
def sourcePaths (s : Spec) (l : Layout) : List Path :=
  (jniFile l.sourceDir).relativeTo l.root ::
    s.sources.map fun file => (s.baseDir.join file).relativeTo l.root

/-- The sources in one text, with a space between them. -/
def sourceList (s : Spec) (l : Layout) : String :=
  " ".intercalate ((s.sourcePaths l).map Path.text)

/-- The directory of the grammar's headers, from that of the build script. -/
def includeDir (s : Spec) (l : Layout) : Path :=
  ((s.baseDir.child "bindings").child "c").relativeTo l.root

/-! ## The files -/

/-- The place of a file. -/
def artifactPath (s : Spec) (l : Layout) : ArtifactKind → Path
  | .common => classFile l.sourceDir .common s.package s.className
  | .native => classFile l.sourceDir .native s.package s.className
  | .jvm => classFile l.sourceDir .jvm s.package s.className
  | .android => classFile l.sourceDir .android s.package s.className
  | .jni => jniFile l.sourceDir
  | .build => l.buildFile
  | .interop => l.interopFile s.interop

/-- The texts that fill the template of a file. -/
def substitution (s : Spec) (l : Layout) : ArtifactKind → Template.Substitution
  | .common =>
    [("PACKAGE", s.package), ("CLASS", s.className), ("METHODS", s.sharedMethods)]
  | .native =>
    [("PACKAGE", s.package), ("CLASS", s.className), ("IMPORTS", s.nativeImports),
      ("METHODS", s.nativeMethods)]
  | .jvm =>
    [("PACKAGE", s.package), ("CLASS", s.className), ("LIBRARY", s.library),
      ("METHODS", s.managedMethods jvmAnnotations)]
  | .android =>
    [("PACKAGE", s.package), ("CLASS", s.className), ("LIBRARY", s.library),
      ("METHODS", s.managedMethods androidAnnotations)]
  | .jni => [("GRAMMAR", s.grammar), ("FUNCTIONS", s.nativeFunctions)]
  | .build =>
    [("LIBRARY", s.library), ("INCLUDE", (s.includeDir l).text), ("SOURCES", s.sourceList l)]
  | .interop => [("PACKAGE", s.package), ("GRAMMAR", s.grammar)]

/-- A file of the binding. -/
def artifact (s : Spec) (ts : TemplateCollection) (l : Layout) (kind : ArtifactKind) :
    Artifact where
  kind := kind
  path := s.artifactPath l kind
  contents := Template.render (ts.get kind) (s.substitution l kind)

/-- Every placeholder that a kind declares is given a value, and no other. -/
theorem map_fst_substitution (s : Spec) (l : Layout) (kind : ArtifactKind) :
    (s.substitution l kind).map Prod.fst = kind.placeholders := by
  cases kind <;> rfl

end Spec

/-- All files of a binding, one of each kind, in the order of the kinds. -/
def generate (v : ValidSpec) (ts : TemplateCollection) (l : Layout) : List Artifact :=
  ArtifactKind.all.map (v.spec.artifact ts l)

end GrammarBindings
