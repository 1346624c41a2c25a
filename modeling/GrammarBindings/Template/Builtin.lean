/-
  GrammarBindings.Template.Builtin

  The templates that are used unless others are given.  Each is written line
  by line.
-/
import GrammarBindings.ArtifactKind

namespace GrammarBindings

namespace Template.Builtin

/-! ## The texts -/

/-- The object that declares the accessors. -/
def common : String := String.join [
  "package @PACKAGE@\n",
  "\n",
  "expect object @CLASS@ \x7b\n",
  "@METHODS@\n",
  "\x7d\n"]

/-- The object that calls the imported C functions. -/
def native : String := String.join [
  "package @PACKAGE@\n",
  "\n",
  "@IMPORTS@\n",
  "import kotlinx.cinterop.ExperimentalForeignApi\n",
  "\n",
  "@OptIn(ExperimentalForeignApi::class)\n",
  "actual object @CLASS@ \x7b\n",
  "@METHODS@\n",
  "\x7d\n"]

/-- The object that finds and loads the library on a JVM. -/
def jvm : String := String.join [
  "package @PACKAGE@\n",
  "\n",
  "import java.lang.NullPointerException\n",
  "\n",
  "actual object @CLASS@ \x7b\n",
  "    private const val LIB_NAME = \"@LIBRARY@\"\n",
  "\n",
  "    init \x7b\n",
  "        try \x7b\n",
  "            System.loadLibrary(LIB_NAME)\n",
  "        \x7d catch (ex: UnsatisfiedLinkError) \x7b\n",
  "            try \x7b\n",
  "                @Suppress(\"UnsafeDynamicallyLoadedCode\")\n",
  "                System.load(libPath())\n",
  "            \x7d catch (_: UnsatisfiedLinkError) \x7b\n",
  "                throw ex\n",
  "            \x7d catch (_: NullPointerException) \x7b\n",
  "                throw ex\n",
  "            \x7d\n",
  "        \x7d\n",
  "    \x7d\n",
  "\n",
  "@METHODS@\n",
  "\n",
  "    @JvmStatic\n",
  "    @Throws(UnsupportedOperationException::class)\n",
  "    private fun libPath(): String? \x7b\n",
  "        val osName = System.getProperty(\"os.name\")!!.lowercase()\n",
  "        val archName = System.getProperty(\"os.arch\")!!.lowercase()\n",
  "        val ext: String\n",
  "        val os: String\n",
  "        val prefix: String\n",
  "        when \x7b\n",
  "            \"windows\" in osName -> \x7b\n",
  "                ext = \"dll\"\n",
  "                os = \"windows\"\n",
  "                prefix = \"\"\n",
  "            \x7d\n",
  "            \"linux\" in osName -> \x7b\n",
  "                ext = \"so\"\n",
  "                os = \"linux\"\n",
  "                prefix = \"lib\"\n",
  "            \x7d\n",
  "            \"mac\" in osName -> \x7b\n",
  "                ext = \"dylib\"\n",
  "                os = \"macos\"\n",
  "                prefix = \"lib\"\n",
  "            \x7d\n",
  "            else -> \x7b\n",
  "                throw UnsupportedOperationException(\"Unsupported operating system: $osName\")\n",
  "            \x7d\n",
  "        \x7d\n",
  "        val arch = when \x7b\n",
  "            \"amd64\" in archName || \"x86_64\" in archName -> \"x86_64\"\n",
  "            \"aarch64\" in archName -> \"aarch64\"\n",
  "            else -> throw UnsupportedOperationException(\"Unsupported architecture: $archName\")\n",
  "        \x7d\n",
  "        val libPath = \"/lib/$os/$arch/$prefix$LIB_NAME.$ext\"\n",
  "        return javaClass.classLoader.getResource(libPath)?.path\n",
  "    \x7d\n",
  "\x7d\n"]

/-- The object that loads the library on Android. -/
def android : String := String.join [
  "package @PACKAGE@\n",
  "\n",
  "import dalvik.annotation.optimization.CriticalNative\n",
  "\n",
  "actual object @CLASS@ \x7b\n",
  "    init \x7b\n",
  "        System.loadLibrary(\"@LIBRARY@\")\n",
  "    \x7d\n",
  "\n",
  "@METHODS@\n",
  "\x7d\n"]

/-- The C file that exports the native methods. -/
def jni : String := String.join [
  "#include <jni.h>\n",
  "#include <tree-sitter-@GRAMMAR@.h>\n",
  "\n",
  "#ifndef __ANDROID__\n",
  "#define NATIVE_FUNCTION(name) JNIEXPORT jlong JNICALL name(JNIEnv * _env, jclass _class)\n",
  "#else\n",
  "#define NATIVE_FUNCTION(name) JNIEXPORT jlong JNICALL name()\n",
  "#endif\n",
  "\n",
  "@FUNCTIONS@\n"]

/-- The CMake script. -/
def build : String := String.join [
  "cmake_minimum_required(VERSION 3.12)\n",
  "\n",
  "project(@LIBRARY@ LANGUAGES C)\n",
  "\n",
  "find_package(JNI REQUIRED)\n",
  "\n",
  "add_library(@LIBRARY@ SHARED @SOURCES@)\n",
  "\n",
  "set_target_properties(@LIBRARY@ PROPERTIES C_STANDARD 11)\n",
  "\n",
  "target_include_directories(@LIBRARY@ PRIVATE $\x7bJNI_INCLUDE_DIRS\x7d @INCLUDE@)\n",
  "\n",
  "if(NOT MSVC)\n",
  "    target_compile_options(@LIBRARY@ PRIVATE -Wno-unused-parameter)\n",
  "endif()\n"]

/-- The interop definition. -/
def interop : String := String.join [
  "package = @PACKAGE@.internal\n",
  "headers = tree-sitter-@GRAMMAR@.h\n",
  "headerFilter = tree-sitter-@GRAMMAR@.h\n",
  "staticLibraries.linux = libtree-sitter-@GRAMMAR@.a\n",
  "staticLibraries.osx = libtree-sitter-@GRAMMAR@.a\n",
  "staticLibraries.ios = libtree-sitter-@GRAMMAR@.a\n",
  "staticLibraries.mingw = tree-sitter-@GRAMMAR@.lib\n",
  "---\n",
  "const TSLanguage *tree_sitter_@GRAMMAR@(void);\n"]

end Template.Builtin

/-- The built-in template of a kind. -/
def ArtifactKind.builtinTemplate : ArtifactKind → String
  | common => Template.Builtin.common
  | native => Template.Builtin.native
  | jvm => Template.Builtin.jvm
  | android => Template.Builtin.android
  | jni => Template.Builtin.jni
  | build => Template.Builtin.build
  | interop => Template.Builtin.interop

end GrammarBindings
