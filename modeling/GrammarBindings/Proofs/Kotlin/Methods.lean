/-
  GrammarBindings.Proofs.Kotlin.Methods

  The declarations in the Kotlin objects of a binding, and the lines that they
  take.  The objects that load the library declare accessors and native functions:

    * `declarationsFrom` — these declarations in their order.
    * `declares_declarations` — every accessor is there, and each function is declared
      once, behind the first accessor that calls it.
    * `lines_managedMethods` — the text of the methods holds them block by block.

  The objects without a library declare their accessors only.
-/
import GrammarBindings.Artifact
import GrammarBindings.Proofs.Accessors
import GrammarBindings.Proofs.Identifier

namespace GrammarBindings

/-! ## Declarations -/

/-- A declaration in an object that loads the library. -/
inductive Declaration
  /-- An accessor, which calls a native function. -/
  | accessor (name function : String)
  /-- The declaration of a native function. -/
  | external (function : String)
  deriving DecidableEq

namespace Declaration

/-- The entry of an accessor. -/
@[simp] def accessor? : Declaration → Option (String × String)
  | accessor name function => some (name, function)
  | external _ => none

/-- The function that is declared to be native. -/
@[simp] def external? : Declaration → Option String
  | accessor _ _ => none
  | external function => some function

/-- The name that a declaration gives to a function of the object. -/
def name : Declaration → String
  | accessor name _ => name
  | external function => function

/-- The lines of a declaration; the annotations are those of native functions. -/
def block (annotations : List String) : Declaration → List String
  | accessor name function => ["    actual fun " ++ name ++ "(): Any = " ++ function ++ "()"]
  | external function => annotations ++ ["    private external fun " ++ function ++ "(): Long"]

/-- The text of a declaration. -/
def text (annotations : String) : Declaration → String
  | accessor name function => Spec.managedAccessor (name, function)
  | external function => Spec.externalDeclaration annotations function

end Declaration

/-- The declarations for accessors when the functions in `declared` have theirs already. -/
def declarationsFrom (declared : List String) : List (String × String) → List Declaration
  | [] => []
  | e :: es =>
    if e.2 ∈ declared then .accessor e.1 e.2 :: declarationsFrom declared es
    else .accessor e.1 e.2 :: .external e.2 :: declarationsFrom (e.2 :: declared) es

/-- The declarations in an object that loads the library. -/
def Accessors.declarations (t : Accessors) : List Declaration := declarationsFrom [] t.entries

/-- `ds` declares the accessors of `entries` and the native `functions`, both in order,
    and each function directly behind the first accessor that calls it. -/
structure Declares (ds : List Declaration) (entries : List (String × String))
    (functions : List String) : Prop where
  accessors : ds.filterMap Declaration.accessor? = entries
  functions : ds.filterMap Declaration.external? = functions
  behind : ∀ before f after, ds = before ++ .external f :: after →
    ∃ name earlier, before = earlier ++ [.accessor name f] ∧
      ∀ e ∈ earlier.filterMap Declaration.accessor?, e.2 ≠ f

/-! ## What is declared -/

section

variable (declared : List String) (entries : List (String × String))

theorem filterMap_accessor?_declarationsFrom :
    (declarationsFrom declared entries).filterMap Declaration.accessor? = entries := by
  induction entries generalizing declared with
  | nil => rfl
  | cons e es ih =>
    rw [declarationsFrom]
    split_ifs <;> simp [List.filterMap_cons, ih]

/-- A function is declared where it occurs for the first time, unless it was before. -/
theorem filterMap_external?_declarationsFrom :
    (declarationsFrom declared entries).filterMap Declaration.external? =
      ((entries.map Prod.snd).filter fun f => decide (f ∉ declared)).eraseDups := by
  induction entries generalizing declared with
  | nil => rfl
  | cons e es ih =>
    rw [declarationsFrom, List.map_cons]
    split_ifs with hdeclared
    · rw [List.filterMap_cons_none rfl, ih, List.filter_cons_of_neg (by simpa using hdeclared)]
    · -- what is declared from here on is neither declared before nor `e.2`
      have hkept : (fun f => decide (f ∉ e.2 :: declared)) =
          fun f => (!f == e.2) && decide (f ∉ declared) := by
        funext f
        simp only [List.mem_cons, not_or, Bool.decide_and, decide_not, beq_eq_decide]
      rw [List.filterMap_cons_none rfl, List.filter_cons_of_pos (by simpa using hdeclared),
        List.eraseDups_cons, List.filter_filter, ← hkept, ← ih]
      rfl

/-- A native declaration directly follows the first accessor that calls its function. -/
theorem exists_accessor_of_external {before after : List Declaration} {f : String}
    (h : declarationsFrom declared entries = before ++ .external f :: after) :
    f ∉ declared ∧ ∃ name earlier, before = earlier ++ [.accessor name f] ∧
      ∀ e ∈ earlier.filterMap Declaration.accessor?, e.2 ≠ f := by
  -- entry by entry; `declared` grows by the function that is found in front
  induction entries generalizing declared before with
  | nil => simp [declarationsFrom] at h
  | cons e es ih =>
    rw [declarationsFrom] at h
    split_ifs at h with hdeclared
    · match before, h with
      | [], h => cases h
      | d :: before, h =>
        rw [List.cons_append, List.cons.injEq] at h
        obtain ⟨rfl, hrest⟩ := h
        obtain ⟨hnew, name, earlier, rfl, hearlier⟩ := ih declared hrest
        have hne : e.2 ≠ f := fun heq => hnew (heq ▸ hdeclared)
        exact ⟨hnew, name, .accessor e.1 e.2 :: earlier, rfl, by simpa [hne] using hearlier⟩
    · match before, h with
      | [], h => cases h
      | [d], h =>
        rw [List.cons_append, List.nil_append, List.cons.injEq, List.cons.injEq] at h
        obtain ⟨rfl, hsame, -⟩ := h
        obtain rfl := Declaration.external.inj hsame
        exact ⟨hdeclared, e.1, [], rfl, by simp⟩
      | d :: d' :: before, h =>
        rw [List.cons_append, List.cons_append, List.cons.injEq, List.cons.injEq] at h
        obtain ⟨rfl, rfl, hrest⟩ := h
        obtain ⟨hnew, name, earlier, rfl, hearlier⟩ := ih (e.2 :: declared) hrest
        rw [List.mem_cons, not_or] at hnew
        have hne : e.2 ≠ f := fun heq => hnew.1 heq.symm
        exact ⟨hnew.2, name, .accessor e.1 e.2 :: .external e.2 :: earlier, rfl,
          by simpa [hne] using hearlier⟩

end

theorem declares_declarations (t : Accessors) :
    Declares t.declarations t.entries t.distinctFunctions where
  accessors := filterMap_accessor?_declarationsFrom [] t.entries
  functions := by
    rw [Accessors.declarations, filterMap_external?_declarationsFrom,
      List.filter_eq_self.2 fun f _ => by simp]
    rfl
  behind := fun _ _ _ h => (exists_accessor_of_external [] t.entries h).2

/-- Each declaration is an accessor or a native function. -/
theorem perm_declarations (ds : List Declaration) :
    ds.Perm ((ds.filterMap Declaration.accessor?).map (fun e => .accessor e.1 e.2) ++
      (ds.filterMap Declaration.external?).map .external) := by
  induction ds with
  | nil => exact List.Perm.refl _
  | cons d ds ih =>
    cases d with
    | accessor name function => exact ih.cons _
    | external function => exact (ih.cons _).trans List.perm_middle.symm

/-! ## The blocks of declarations -/

namespace Declaration

/-- The lines of a declaration are its block if the names in it fit on a line. -/
theorem lines_text {annotations : List String} (hannotations : ∀ a ∈ annotations, OneLine a)
    {d : Declaration} (haccessor : ∀ e, d.accessor? = some e → OneLine e.1 ∧ OneLine e.2)
    (hexternal : ∀ f, d.external? = some f → OneLine f) :
    lines (d.text (String.join (annotations.map (· ++ "\n")))) = d.block annotations := by
  cases d with
  | accessor name function =>
    obtain ⟨hname, hfunction⟩ := haccessor (name, function) rfl
    have hbegin : OneLine "    actual fun " := by decide
    have hline : OneLine ("    actual fun " ++ name ++ "(): Any = " ++ function ++ "()") :=
      (((hbegin.append hname).append (by decide)).append hfunction).append (by decide)
    exact hline.lines_eq
  | external function =>
    have hbegin : OneLine "    private external fun " := by decide
    have hline : OneLine ("    private external fun " ++ function ++ "(): Long") :=
      (hbegin.append (hexternal function rfl)).append (by decide)
    rw [text, Spec.externalDeclaration, String.append_assoc, String.append_assoc,
      lines_join_append hannotations, ← String.append_assoc, hline.lines_eq]
    rfl

end Declaration

namespace Spec

theorem managedBlocks_eq (annotations : String) (declared : List String)
    (entries : List (String × String)) :
    managedBlocks annotations declared entries =
      (declarationsFrom declared entries).map (Declaration.text annotations) := by
  induction entries generalizing declared with
  | nil => rfl
  | cons e es ih =>
    rw [managedBlocks, declarationsFrom]
    split_ifs
    · rw [List.map_cons, ih]
      rfl
    · rw [List.map_cons, List.map_cons, ih]
      rfl

section Valid

variable {s : Spec} (hs : s.Valid)
include hs

theorem oneLine_entry {e : String × String} (he : e ∈ s.accessors.entries) :
    OneLine e.1 ∧ OneLine e.2 :=
  (hs.entries e he).imp oneLine_of_isIdentifier oneLine_of_isIdentifier

theorem oneLine_function {f : String} (hf : f ∈ s.accessors.distinctFunctions) : OneLine f := by
  obtain ⟨e, he, rfl⟩ := List.mem_map.1 (Accessors.mem_distinctFunctions.1 hf)
  exact (oneLine_entry hs he).2

/-- The methods of an object that declares its accessors only. -/
theorem lines_joinBlocks {declare : String × String → String}
    (hdeclare : ∀ e, OneLine e.1 → OneLine e.2 → OneLine (declare e)) :
    lines (joinBlocks (s.accessors.entries.map declare)) =
      [""].intercalate (s.accessors.entries.map fun e => [declare e]) := by
  have hne : s.accessors.entries.map declare ≠ [] := by simpa using hs.accessors
  rw [joinBlocks, lines_blocks hne, List.map_map]
  congr 1
  refine List.map_congr_left fun e he => ?_
  obtain ⟨hname, hfunction⟩ := oneLine_entry hs he
  exact (hdeclare e hname hfunction).lines_eq

theorem lines_sharedMethods :
    lines s.sharedMethods =
      [""].intercalate (s.accessors.entries.map fun e => [sharedAccessor e]) := by
  have hbegin : OneLine "    fun " := by decide
  exact lines_joinBlocks hs fun e hname _ => (hbegin.append hname).append (by decide)

theorem lines_nativeMethods :
    lines s.nativeMethods =
      [""].intercalate (s.accessors.entries.map fun e => [nativeAccessor e]) := by
  have hbegin : OneLine "    actual fun " := by decide
  exact lines_joinBlocks hs fun e hname hfunction =>
    (((hbegin.append hname).append (by decide)).append hfunction).append (by decide)

/-- The methods of an object that loads the library. -/
theorem lines_managedMethods {annotations : String} {annotationLines : List String}
    (hlines : ∀ a ∈ annotationLines, OneLine a)
    (hjoin : annotations = String.join (annotationLines.map (· ++ "\n"))) :
    lines (s.managedMethods annotations) =
      [""].intercalate (s.accessors.declarations.map (Declaration.block annotationLines)) := by
  have hdeclares := declares_declarations s.accessors
  have hne : s.accessors.declarations ≠ [] := by
    intro hnil
    apply hs.accessors
    rw [← hdeclares.accessors, hnil]
    rfl
  rw [managedMethods, joinBlocks, managedBlocks_eq, ← Accessors.declarations,
    lines_blocks (by simpa using hne), List.map_map, hjoin]
  congr 1
  refine List.map_congr_left fun d hd => Declaration.lines_text hlines ?_ ?_
  · intro e he
    exact oneLine_entry hs (hdeclares.accessors ▸ List.mem_filterMap.2 ⟨d, hd, he⟩)
  · intro f hf
    exact oneLine_function hs (hdeclares.functions ▸ List.mem_filterMap.2 ⟨d, hd, hf⟩)

theorem lines_jvmMethods :
    lines (s.managedMethods jvmAnnotations) =
      [""].intercalate (s.accessors.declarations.map (Declaration.block ["    @JvmStatic"])) :=
  lines_managedMethods hs (by decide) (by decide)

theorem lines_androidMethods :
    lines (s.managedMethods androidAnnotations) =
      [""].intercalate (s.accessors.declarations.map
        (Declaration.block ["    @JvmStatic", "    @CriticalNative"])) :=
  lines_managedMethods hs (by decide) (by decide)

end Valid

end Spec

end GrammarBindings
