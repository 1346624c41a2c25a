/-
  GrammarBindings.Proofs.Kotlin.FunctionName

  Names of functions in Kotlin texts.  A function is declared on a line of its own,
  where its name comes behind `fun`; a function of C is imported by its full name,
  the last but one part of which is `internal`.

    * `functionNames` — the functions that a text declares.
    * `importedFunctions` — the C functions that it imports.
    * `functionNames_sharedMethods`, `functionNames_nativeMethods`,
      `functionNames_jvmMethods`, `functionNames_androidMethods` — those in the objects of a
      binding.
-/
import GrammarBindings.Proofs.Kotlin.Methods
import GrammarBindings.Proofs.NativeFunctions

namespace GrammarBindings

namespace Kotlin

open Identifier

/-! ## Words -/

/-- The words between characters that are in no identifier. -/
def wordsOf (cs : List Char) : List String :=
  ((cs.splitOnP fun c => !isPart c).filter (· ≠ [])).map String.ofList

/-- The words of a text. -/
def words (s : String) : List String := wordsOf s.toList

theorem words_append {c : Char} (hc : isPart c = false) (s t : String) :
    words (s ++ String.singleton c ++ t) = words s ++ words t := by
  rw [words, wordsOf, String.toList_append, String.toList_append, String.toList_singleton,
    List.append_assoc, List.singleton_append, List.splitOnP_append_cons _ _ (by rw [hc]; rfl),
    List.filter_append, List.map_append]
  rfl

/-- An identifier is one word. -/
theorem words_of_isIdentifier {s : String} (h : isIdentifier s = true) : words s = [s] := by
  have hparts : ∀ c ∈ s.toList, (!isPart c) = false := by
    intro c hc
    rw [isPart_of_accepts h hc]
    rfl
  have hne : s.toList ≠ [] := by
    intro hnil
    rw [isIdentifier, hnil] at h
    cases h
  rw [words, wordsOf, List.splitOnP_eq_singleton hparts, List.filter_cons_of_pos (by simpa using hne),
    List.filter_nil, List.map_singleton, String.ofList_toList]

/-! ## Lines that declare a function -/

/-- What may stand before `fun`. -/
def modifiers : List String := ["actual", "expect", "private", "external"]

/-- The word behind `fun`, if that comes first. -/
def behindFun? : List String → Option String
  | keyword :: name :: _ => if keyword = "fun" then some name else none
  | _ => none

/-- The name of the function that words of a line declare. -/
def declaredBy (ws : List String) : Option String :=
  behindFun? (ws.dropWhile fun w => decide (w ∈ modifiers))

/-- The name of the function that a line declares. -/
def functionName? (line : String) : Option String := declaredBy (words line)

/-- The names of the functions that a text declares. -/
def functionNames (text : String) : List String := (lines text).filterMap functionName?

/-- A line that begins with modifiers and `fun` declares the function named behind. -/
theorem functionName?_append {start name : String}
    (hstart : ((words start).dropWhile fun w => decide (w ∈ modifiers)) = ["fun"])
    (hname : isIdentifier name = true) (rest : String) :
    functionName? (start ++ " " ++ name ++ "(" ++ rest) = some name := by
  have hcall : words (start ++ " " ++ name ++ "(" ++ rest) =
      words (start ++ " " ++ name) ++ words rest :=
    words_append (c := '(') (not_isPart_of_mem (by simp)) _ rest
  have hblank : words (start ++ " " ++ name) = words start ++ words name :=
    words_append (c := ' ') (not_isPart_of_mem (by simp)) start name
  rw [functionName?, declaredBy, hcall, hblank, words_of_isIdentifier hname, List.append_assoc,
    List.dropWhile_append, hstart]
  rfl

theorem functionName?_sharedAccessor {e : String × String} (hname : isIdentifier e.1 = true) :
    functionName? (Spec.sharedAccessor e) = some e.1 := by
  have hbegin : "    fun " = "    fun" ++ " " := by decide
  have hend : "(): Any" = "(" ++ "): Any" := by decide
  unfold Spec.sharedAccessor
  rw [hbegin, hend, ← String.append_assoc]
  exact functionName?_append (by decide) hname _

theorem functionName?_actual {name : String} (hname : isIdentifier name = true) (body : String) :
    functionName? ("    actual fun " ++ name ++ "(): Any = " ++ body) = some name := by
  have hbegin : "    actual fun " = "    actual fun" ++ " " := by decide
  have hcall : "(): Any = " = "(" ++ "): Any = " := by decide
  rw [hbegin, hcall, ← String.append_assoc, String.append_assoc]
  exact functionName?_append (by decide) hname _

theorem functionName?_nativeAccessor {e : String × String} (hname : isIdentifier e.1 = true) :
    functionName? (Spec.nativeAccessor e) = some e.1 := by
  unfold Spec.nativeAccessor
  rw [String.append_assoc]
  exact functionName?_actual hname _

theorem functionName?_external {function : String} (hfunction : isIdentifier function = true) :
    functionName? ("    private external fun " ++ function ++ "(): Long") = some function := by
  have hbegin : "    private external fun " = "    private external fun" ++ " " := by decide
  have hcall : "(): Long" = "(" ++ "): Long" := by decide
  rw [hbegin, hcall, ← String.append_assoc]
  exact functionName?_append (by decide) hfunction _

/-- The lines of a declaration declare its name; its annotations declare none. -/
theorem filterMap_functionName?_block {annotations : List String}
    (hannotations : annotations.filterMap functionName? = []) {d : Declaration}
    (hname : isIdentifier d.name = true) :
    (d.block annotations).filterMap functionName? = [d.name] := by
  cases d with
  | accessor name function =>
    have hline : functionName? ("    actual fun " ++ name ++ "(): Any = " ++ function ++ "()") =
        some name := by
      rw [String.append_assoc]
      exact functionName?_actual hname _
    rw [Declaration.block, List.filterMap_cons_some hline, List.filterMap_nil]
    rfl
  | external function =>
    have hline : functionName? ("    private external fun " ++ function ++ "(): Long") =
        some function := functionName?_external hname
    rw [Declaration.block, List.filterMap_append, hannotations, List.filterMap_cons_some hline,
      List.filterMap_nil]
    rfl

/-! ## Lines that import a C function -/

/-- The last of words that begin with `import` and have `internal` right before it. -/
def behindInternal? (ws : List String) : Option String :=
  if ws.head? = some "import" ∧ ws.dropLast.getLast? = some "internal" then ws.getLast? else none

/-- The name of the C function that a line imports. -/
def importedFunction? (line : String) : Option String := behindInternal? (words line)

/-- The names of the C functions that a text imports. -/
def importedFunctions (text : String) : List String := (lines text).filterMap importedFunction?

theorem words_importLine {package function : String} (hfunction : isIdentifier function = true) :
    words (Spec.importLine package function) =
      "import" :: (words package ++ ["internal"]) ++ [function] := by
  -- cut at the blank and at the dots around `internal`
  have hbegin : "import " = "import" ++ " " := by decide
  have hparent : ".internal." = "." ++ "internal" ++ "." := by decide
  have himport : words ("import" ++ " " ++ package) = words "import" ++ words package :=
    words_append (c := ' ') (not_isPart_of_mem (by simp)) _ _
  have hinternal : words ("import" ++ " " ++ package ++ "." ++ "internal") =
      words ("import" ++ " " ++ package) ++ words "internal" :=
    words_append (c := '.') (not_isPart_of_mem (by simp)) _ _
  have hlast : words ("import" ++ " " ++ package ++ "." ++ "internal" ++ "." ++ function) =
      words ("import" ++ " " ++ package ++ "." ++ "internal") ++ words function :=
    words_append (c := '.') (not_isPart_of_mem (by simp)) _ _
  have hkeyword : words "import" = ["import"] := by decide
  have hpart : words "internal" = ["internal"] := by decide
  unfold Spec.importLine
  rw [hbegin, hparent, ← String.append_assoc, ← String.append_assoc, hlast, hinternal, himport,
    hkeyword, hpart, words_of_isIdentifier hfunction]
  rfl

theorem importedFunction?_importLine {package function : String}
    (hfunction : isIdentifier function = true) :
    importedFunction? (Spec.importLine package function) = some function := by
  have hinit : ("import" :: (words package ++ ["internal"])).getLast? = some "internal" := by
    rw [← List.cons_append, List.getLast?_concat]
  rw [importedFunction?, words_importLine hfunction, behindInternal?, List.dropLast_concat,
    List.getLast?_concat, if_pos ⟨rfl, hinit⟩]

/-- A line that imports a function declares none. -/
theorem functionName?_importLine {package function : String}
    (hfunction : isIdentifier function = true) :
    functionName? (Spec.importLine package function) = none := by
  have hkeyword : decide ("import" ∈ modifiers) = false := by decide
  obtain ⟨next, rest, hnext⟩ := List.exists_cons_of_ne_nil
    (l := words package ++ ["internal"] ++ [function]) (by simp)
  rw [functionName?, declaredBy, words_importLine hfunction, List.cons_append, hnext,
    List.dropWhile_cons_of_neg (by rw [hkeyword]; decide), behindFun?, if_neg (by decide)]

end Kotlin

/-! ## The texts of a binding -/

namespace Spec

open Kotlin

/-- What is found in blocks with empty lines between them is found in the blocks. -/
theorem filterMap_intercalate {α : Type} {read : String → Option α} (hblank : read "" = none)
    (blocks : List (List String)) :
    ([""].intercalate blocks).filterMap read = blocks.flatMap fun b => b.filterMap read := by
  induction blocks with
  | nil => rfl
  | cons b blocks ih =>
    cases blocks with
    | nil => rw [List.intercalate_singleton, List.flatMap_cons, List.flatMap_nil, List.append_nil]
    | cons b' blocks =>
      rw [List.intercalate_cons_cons, List.filterMap_append, List.filterMap_append, ih,
        List.filterMap_cons_none hblank, List.filterMap_nil, List.append_nil, ← List.flatMap_cons]

theorem functionName?_empty : functionName? "" = none := by decide

/-- Methods that are declared on a line each have the names on these lines. -/
theorem filterMap_functionName?_lines {entries : List (String × String)}
    {declare : String × String → String}
    (hdeclare : ∀ e ∈ entries, functionName? (declare e) = some e.1) :
    ([""].intercalate (entries.map fun e => [declare e])).filterMap functionName? =
      entries.map Prod.fst := by
  rw [filterMap_intercalate functionName?_empty, List.flatMap_map]
  induction entries with
  | nil => rfl
  | cons e es ih =>
    rw [List.forall_mem_cons] at hdeclare
    rw [List.flatMap_cons, ih hdeclare.2, List.filterMap_cons_some hdeclare.1, List.filterMap_nil,
      List.singleton_append, List.map_cons]

section Valid

variable {s : Spec} (hs : s.Valid)
include hs

theorem isIdentifier_function {f : String} (hf : f ∈ s.accessors.distinctFunctions) :
    isIdentifier f = true := by
  obtain ⟨e, he, rfl⟩ := List.mem_map.1 (Accessors.mem_distinctFunctions.1 hf)
  exact (hs.entries e he).2

theorem isIdentifier_name {d : Declaration} (hd : d ∈ s.accessors.declarations) :
    isIdentifier d.name = true := by
  have hdeclares := declares_declarations s.accessors
  cases d with
  | accessor name function =>
    have he : (name, function) ∈ s.accessors.entries :=
      hdeclares.accessors ▸ List.mem_filterMap.2 ⟨_, hd, rfl⟩
    exact (hs.entries _ he).1
  | external function =>
    exact isIdentifier_function hs (hdeclares.functions ▸ List.mem_filterMap.2 ⟨_, hd, rfl⟩)

theorem functionNames_sharedMethods : functionNames s.sharedMethods = s.accessors.names := by
  rw [functionNames, lines_sharedMethods hs]
  exact filterMap_functionName?_lines fun e he => functionName?_sharedAccessor (hs.entries e he).1

theorem functionNames_nativeMethods : functionNames s.nativeMethods = s.accessors.names := by
  rw [functionNames, lines_nativeMethods hs]
  exact filterMap_functionName?_lines fun e he => functionName?_nativeAccessor (hs.entries e he).1

theorem filterMap_functionName?_blocks {annotations : List String}
    (hannotations : annotations.filterMap functionName? = []) :
    ([""].intercalate (s.accessors.declarations.map
        (Declaration.block annotations))).filterMap functionName? =
      s.accessors.declarations.map Declaration.name := by
  rw [filterMap_intercalate functionName?_empty, List.flatMap_map, ← List.flatMap_pure_eq_map]
  exact List.flatMap_congr fun d hd =>
    filterMap_functionName?_block hannotations (isIdentifier_name hs hd)

theorem functionNames_jvmMethods :
    functionNames (s.managedMethods jvmAnnotations) =
      s.accessors.declarations.map Declaration.name := by
  rw [functionNames, lines_jvmMethods hs]
  exact filterMap_functionName?_blocks hs (by decide)

theorem functionNames_androidMethods :
    functionNames (s.managedMethods androidAnnotations) =
      s.accessors.declarations.map Declaration.name := by
  rw [functionNames, lines_androidMethods hs]
  exact filterMap_functionName?_blocks hs (by decide)

theorem importedFunctions_nativeImports :
    importedFunctions s.nativeImports = s.accessors.distinctFunctions := by
  rw [importedFunctions, lines_nativeImports hs, List.filterMap_map]
  have hline : ∀ f ∈ s.accessors.distinctFunctions,
      (importedFunction? ∘ importLine s.package) f = some f := fun f hf =>
    importedFunction?_importLine (isIdentifier_function hs hf)
  rw [List.filterMap_congr hline, List.filterMap_some]

theorem functionNames_nativeImports : functionNames s.nativeImports = [] := by
  rw [functionNames, lines_nativeImports hs, List.filterMap_map]
  exact List.filterMap_eq_nil_iff.2 fun f hf =>
    functionName?_importLine (isIdentifier_function hs hf)

end Valid

end Spec

end GrammarBindings
