/-
  GrammarBindings.Proofs.NativeFunctions

  Which native functions the files of a binding speak of.  The Kotlin/Native object
  imports them, the objects for the JVM and Android declare them and the C file
  defines them: all do so for the functions that the accessors call, each once, in
  the order in which these occur for the first time.

  Main statement: `placeholderLines_agree`, line by line of the texts that fill the
  templates.
-/
import GrammarBindings.Proofs.JniSymbol.Characters
import GrammarBindings.Proofs.Kotlin.Methods

namespace GrammarBindings

namespace Spec

/-- The lines that a placeholder of a file is replaced with. -/
def placeholderLines (s : Spec) (l : Layout) (kind : ArtifactKind) (name : String) :
    Option (List String) :=
  ((s.substitution l kind).value? name.toList).map lines

theorem placeholderLines_eq {s : Spec} {l : Layout} {kind : ArtifactKind} {name : String}
    (text : String) (h : (s.substitution l kind).lookup name = some text) :
    s.placeholderLines l kind name = some (lines text) := by
  rw [placeholderLines, Template.Substitution.value?, String.ofList_toList, h, Option.map_some]

/-! ## The definitions in the C file -/

/-- The lines of the definition of a native method. -/
def definitionLines (s : Spec) (function : String) : List String :=
  ["NATIVE_FUNCTION(" ++ JniSymbol.ofMethod s.package s.className function ++ ") \x7b",
    "    return (jlong)" ++ function ++ "();",
    "\x7d"]

theorem nativeFunction_eq_join (s : Spec) (function : String) :
    nativeFunction (JniSymbol.stem s.package s.className) function =
      String.join ((s.definitionLines function).map (· ++ "\n")) := by
  -- the line breaks as texts of their own
  have hopen : ") \x7b\n" = ") \x7b" ++ "\n" := by decide
  have hcall : "();\n" = "();" ++ "\n" := by decide
  have hclose : "\x7d\n" = "\x7d" ++ "\n" := by decide
  unfold nativeFunction
  rw [hopen, hcall, hclose, definitionLines, JniSymbol.ofMethod]
  simp only [List.map_cons, List.map_nil, String.join_cons, String.join_nil, String.append_empty,
    String.append_assoc]

section Valid

variable {s : Spec} (hs : s.Valid)
include hs

theorem oneLine_definitionLines {f : String} (hf : f ∈ s.accessors.distinctFunctions) :
    ∀ line ∈ s.definitionLines f, OneLine line := by
  have hfunction : OneLine f := oneLine_function hs hf
  have hsymbol : OneLine (JniSymbol.ofMethod s.package s.className f) :=
    JniSymbol.oneLine_ofMethod (oneLine_of_isDottedIdentifier hs.package)
      (oneLine_of_isIdentifier hs.className) hfunction
  have hopen : OneLine "NATIVE_FUNCTION(" := by decide
  have hreturn : OneLine "    return (jlong)" := by decide
  rw [definitionLines, List.forall_mem_cons, List.forall_mem_cons, List.forall_mem_singleton]
  exact ⟨(hopen.append hsymbol).append (by decide), (hreturn.append hfunction).append (by decide),
    by decide⟩

/-- The C file defines the functions one after the other. -/
theorem lines_nativeFunctions :
    lines s.nativeFunctions = s.accessors.distinctFunctions.flatMap s.definitionLines ++ [""] := by
  unfold nativeFunctions
  rw [List.map_congr_left fun f _ => nativeFunction_eq_join s f]
  exact lines_join_blocks fun f hf => oneLine_definitionLines hs hf

/-- The imports are those of the functions. -/
theorem lines_nativeImports :
    lines s.nativeImports = s.accessors.distinctFunctions.map (importLine s.package) := by
  have hne : s.accessors.distinctFunctions ≠ [] := by
    obtain ⟨e, he⟩ := List.exists_mem_of_ne_nil _ hs.accessors
    exact List.ne_nil_of_mem (Accessors.mem_distinctFunctions.2 (List.mem_map_of_mem he))
  refine lines_intercalate (by simpa using hne) fun line hline => ?_
  obtain ⟨f, hf, rfl⟩ := List.mem_map.1 hline
  have himport : OneLine "import " := by decide
  exact ((himport.append (oneLine_of_isDottedIdentifier hs.package)).append (by decide)).append
    (oneLine_function hs hf)

end Valid

/-! ## The texts of the files -/

/-- The files of a binding agree on its native functions.  With `functions` those that
    accessors call, each once, in the order of their first occurrence:

    the Kotlin/Native object imports `functions`; the C file defines a method for each of
    them, which returns what it does; the objects for the JVM and Android declare each
    behind the first accessor that calls it; and all four objects have one accessor for
    each entry, which calls the entry's function where it calls any. -/
theorem placeholderLines_agree (v : ValidSpec) (l : Layout) :
    let s := v.spec
    let entries := s.accessors.entries
    let functions := s.accessors.distinctFunctions
    FirstOccurrences functions (entries.map Prod.snd) ∧
      s.placeholderLines l .native "IMPORTS" =
        some (functions.map fun f => "import " ++ s.package ++ ".internal." ++ f) ∧
      s.placeholderLines l .jni "FUNCTIONS" =
        some (functions.flatMap (fun f =>
          ["NATIVE_FUNCTION(" ++
              (JniSymbol.stem s.package s.className ++ JniSymbol.escape f) ++ ") \x7b",
            "    return (jlong)" ++ f ++ "();",
            "\x7d"]) ++ [""]) ∧
      (∃ ds, Declares ds entries functions ∧
        s.placeholderLines l .jvm "METHODS" =
          some ([""].intercalate (ds.map (Declaration.block ["    @JvmStatic"]))) ∧
        s.placeholderLines l .android "METHODS" =
          some ([""].intercalate
            (ds.map (Declaration.block ["    @JvmStatic", "    @CriticalNative"])))) ∧
      s.placeholderLines l .common "METHODS" =
        some ([""].intercalate (entries.map fun e => ["    fun " ++ e.1 ++ "(): Any"])) ∧
      s.placeholderLines l .native "METHODS" =
        some ([""].intercalate (entries.map fun e =>
          ["    actual fun " ++ e.1 ++ "(): Any = " ++ e.2 ++ "()!!"])) := by
  intro s entries functions
  have hs : s.Valid := v.valid
  refine ⟨s.accessors.firstOccurrences_distinctFunctions, ?imports, ?definitions,
    ⟨s.accessors.declarations, declares_declarations s.accessors, ?jvm, ?android⟩,
    ?common, ?native⟩
  case imports =>
    rw [placeholderLines_eq s.nativeImports (by simp [substitution, List.lookup_cons]),
      lines_nativeImports hs]
    rfl
  case definitions =>
    rw [placeholderLines_eq s.nativeFunctions (by simp [substitution, List.lookup_cons]),
      lines_nativeFunctions hs]
    rfl
  case jvm =>
    rw [placeholderLines_eq (s.managedMethods jvmAnnotations)
      (by simp [substitution, List.lookup_cons]), lines_jvmMethods hs]
  case android =>
    rw [placeholderLines_eq (s.managedMethods androidAnnotations)
      (by simp [substitution, List.lookup_cons]), lines_androidMethods hs]
  case common =>
    rw [placeholderLines_eq s.sharedMethods (by simp [substitution, List.lookup_cons]),
      lines_sharedMethods hs]
    rfl
  case native =>
    rw [placeholderLines_eq s.nativeMethods (by simp [substitution, List.lookup_cons]),
      lines_nativeMethods hs]
    rfl

end Spec

end GrammarBindings
