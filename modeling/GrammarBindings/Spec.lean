/-
  GrammarBindings.Spec

  The description of one grammar binding and the rules that it has to meet.
-/
import GrammarBindings.Accessors
import GrammarBindings.Identifier
import GrammarBindings.Path
import GrammarBindings.Text.Quoted

namespace GrammarBindings

/-- Everything that the files of a binding are made from. -/
structure Spec where
  /-- The root of the grammar's repository. -/
  baseDir : Path
  /-- The name of the grammar, any text. -/
  grammar : String
  /-- The C sources, read from `baseDir` where they are relative. -/
  sources : List Path
  /-- The name of the interop definition, without `.def`. -/
  interop : String
  /-- The name of the library to build and load. -/
  library : String
  /-- The Kotlin package. -/
  package : String
  /-- The Kotlin class. -/
  className : String
  /-- The accessors and the C functions that they call. -/
  accessors : Accessors
  deriving DecidableEq

/-! ## Defaults -/

namespace Spec

/-- The interop definition is called `grammar` unless told otherwise. -/
def defaultInterop : String := "grammar"

/-- The grammar's repository is two directories above the description. -/
def defaultBaseDir : Path := ⟨"../.."⟩

/-- The library is called after the grammar. -/
def defaultLibrary (grammar : String) : String := "ktreesitter-" ++ grammar

/-- One accessor `language` for the entry point that every grammar has. -/
def defaultAccessors (grammar : String) : Accessors :=
  .single "language" ("tree_sitter_" ++ grammar)

end Spec

/-! ## Faults -/

/-- What a name that has to be an identifier is for. -/
inductive Role
  | className
  | methodName
  | functionName
  deriving DecidableEq, Repr

/-- A role in words. -/
def Role.text : Role → String
  | className => "class name"
  | methodName => "method name"
  | functionName => "native function name"

/-- A rule that a spec breaks, with the text that breaks it. -/
inductive SpecFault
  /-- The package is no dotted identifier. -/
  | package (name : String)
  /-- A name is no identifier. -/
  | identifier (role : Role) (name : String)
  /-- The interop definition's name is no plain file name. -/
  | interop (name : String)
  /-- There are no accessors, so there is nothing to bind. -/
  | noAccessors
  deriving DecidableEq, Repr

/-- A fault in words. -/
def SpecFault.message : SpecFault → String
  | package name => "package name is not valid: " ++ quoted name
  | identifier role name => role.text ++ " is not a valid identifier: " ++ quoted name
  | interop name => "interop name must be a plain file name: " ++ quoted name
  | noAccessors => "at least one language method is required"

/-! ## The rules -/

/-- A name that stays in the directory it is put in, whatever is added behind
    it: not empty, not `.` or `..`, and without a slash or backslash. -/
def isPlainFileName (name : String) : Bool :=
  name ≠ "" && name ≠ "." && name ≠ ".." && !name.toList.any fun c => c == '/' || c == '\\'

namespace Spec

/-- A spec that meets all rules. -/
structure Valid (s : Spec) : Prop where
  package : isDottedIdentifier s.package = true
  className : isIdentifier s.className = true
  interop : isPlainFileName s.interop = true
  accessors : s.accessors.entries ≠ []
  entries : ∀ e ∈ s.accessors.entries, isIdentifier e.1 = true ∧ isIdentifier e.2 = true

/-- `fault` unless the rule holds. -/
def require (rule : Bool) (fault : SpecFault) : List SpecFault :=
  if rule then [] else [fault]

/-- The faults of one accessor: its name comes before its function. -/
def entryFaults (e : String × String) : List SpecFault :=
  require (isIdentifier e.1) (.identifier .methodName e.1) ++
  require (isIdentifier e.2) (.identifier .functionName e.2)

/-- All faults of a spec, in the order in which the rules are checked. -/
def faults (s : Spec) : List SpecFault :=
  require (isDottedIdentifier s.package) (.package s.package) ++
  require (isIdentifier s.className) (.identifier .className s.className) ++
  require (isPlainFileName s.interop) (.interop s.interop) ++
  require (!s.accessors.entries.isEmpty) .noAccessors ++
  s.accessors.entries.flatMap entryFaults

/-! ## Faults against validity -/

theorem require_eq_nil {rule : Bool} {fault : SpecFault} :
    require rule fault = [] ↔ rule = true := by
  cases rule <;> simp [require]

theorem entryFaults_eq_nil {e : String × String} :
    entryFaults e = [] ↔ isIdentifier e.1 = true ∧ isIdentifier e.2 = true := by
  simp [entryFaults, require_eq_nil]

/-- A spec has no faults exactly when it meets all rules. -/
theorem faults_eq_nil {s : Spec} : s.faults = [] ↔ s.Valid := by
  simp only [faults, List.append_eq_nil_iff, require_eq_nil, List.flatMap_eq_nil_iff,
    entryFaults_eq_nil, Bool.not_eq_true', List.isEmpty_eq_false_iff]
  exact ⟨fun ⟨⟨⟨⟨hp, hc⟩, hi⟩, ha⟩, he⟩ => ⟨hp, hc, hi, ha, he⟩,
    fun h => ⟨⟨⟨⟨h.package, h.className⟩, h.interop⟩, h.accessors⟩, h.entries⟩⟩

end Spec

/-! ## Checking -/

/-- A spec together with the fact that it meets all rules. -/
structure ValidSpec where
  spec : Spec
  valid : spec.Valid

/-- The spec itself if it meets all rules, else its first fault. -/
def Spec.check (s : Spec) : Except SpecFault ValidSpec :=
  match h : s.faults with
  | [] => .ok ⟨s, faults_eq_nil.1 h⟩
  | fault :: _ => .error fault

end GrammarBindings
