/-
  GrammarBindings.Proofs.Validation

  Which specs are valid, and which fault is reported of the others.  The rules are gone through
  in their order, and for the accessors entry by entry; the first one that is broken gives the
  fault.

    * `Spec.Lawful` — the rules by the grammar of the names.
    * `Spec.FirstFault` — the first rule that a spec breaks, with the text that breaks it.
    * `Spec.head?_faults_iff` — the list of faults begins with it.

  Main statement: `Spec.check_outcome`.
-/
import GrammarBindings.Proofs.Identifier

namespace GrammarBindings

open Identifier

/-! ## The rules -/

/-- The name of a file in the directory where it is put: not empty, not `.` or `..`, and
    without slashes and backslashes. -/
structure PlainFileName (name : String) : Prop where
  ne_empty : name ≠ ""
  ne_here : name ≠ "."
  ne_up : name ≠ ".."
  no_slash : '/' ∉ name.toList
  no_backslash : '\\' ∉ name.toList

theorem isPlainFileName_iff {name : String} :
    isPlainFileName name = true ↔ PlainFileName name := by
  have hslashes : (name.toList.any fun c => c == '/' || c == '\\') = false ↔
      '/' ∉ name.toList ∧ '\\' ∉ name.toList := by
    rw [List.any_eq_false]
    simp only [Bool.or_eq_true, beq_iff_eq, not_or]
    exact ⟨fun h => ⟨fun hmem => (h _ hmem).1 rfl, fun hmem => (h _ hmem).2 rfl⟩,
      fun h c hc => ⟨fun heq => h.1 (heq ▸ hc), fun heq => h.2 (heq ▸ hc)⟩⟩
  simp only [isPlainFileName, Bool.and_eq_true, Bool.not_eq_true', hslashes, decide_eq_true_eq]
  exact ⟨fun ⟨⟨⟨hempty, hhere⟩, hup⟩, hslash, hbackslash⟩ =>
    ⟨hempty, hhere, hup, hslash, hbackslash⟩,
    fun h => ⟨⟨⟨h.ne_empty, h.ne_here⟩, h.ne_up⟩, h.no_slash, h.no_backslash⟩⟩

namespace Spec

/-- Both names of an accessor are identifiers. -/
def LawfulEntry (e : String × String) : Prop := Formed e.1 ∧ Formed e.2

/-- A spec that breaks no rule. -/
structure Lawful (s : Spec) : Prop where
  package : DottedFormed s.package
  className : Formed s.className
  interop : PlainFileName s.interop
  accessors : s.accessors.entries ≠ []
  entries : ∀ e ∈ s.accessors.entries, LawfulEntry e

theorem valid_iff_lawful {s : Spec} : s.Valid ↔ s.Lawful := by
  constructor
  · intro h
    exact ⟨isDottedIdentifier_iff.1 h.package, isIdentifier_iff.1 h.className,
      isPlainFileName_iff.1 h.interop, h.accessors,
      fun e he => ⟨isIdentifier_iff.1 (h.entries e he).1, isIdentifier_iff.1 (h.entries e he).2⟩⟩
  · intro h
    exact ⟨isDottedIdentifier_iff.2 h.package, isIdentifier_iff.2 h.className,
      isPlainFileName_iff.2 h.interop, h.accessors,
      fun e he => ⟨isIdentifier_iff.2 (h.entries e he).1, isIdentifier_iff.2 (h.entries e he).2⟩⟩

/-! ## The first fault -/

/-- The fault of an entry: that of its accessor's name before that of its function. -/
inductive EntryFault (e : String × String) : SpecFault → Prop
  | methodName (h : ¬ Formed e.1) : EntryFault e (.identifier .methodName e.1)
  | functionName (hname : Formed e.1) (h : ¬ Formed e.2) :
      EntryFault e (.identifier .functionName e.2)

/-- The first rule that a spec breaks.  No rule before it is broken, and of the accessors no
    entry before the one that breaks it. -/
inductive FirstFault (s : Spec) : SpecFault → Prop
  | package (h : ¬ DottedFormed s.package) : FirstFault s (.package s.package)
  | className (hpackage : DottedFormed s.package) (h : ¬ Formed s.className) :
      FirstFault s (.identifier .className s.className)
  | interop (hpackage : DottedFormed s.package) (hclass : Formed s.className)
      (h : ¬ PlainFileName s.interop) : FirstFault s (.interop s.interop)
  | noAccessors (hpackage : DottedFormed s.package) (hclass : Formed s.className)
      (hinterop : PlainFileName s.interop) (h : s.accessors.entries = []) :
      FirstFault s .noAccessors
  | entry (hpackage : DottedFormed s.package) (hclass : Formed s.className)
      (hinterop : PlainFileName s.interop) {before after : List (String × String)}
      {e : String × String} {fault : SpecFault}
      (hentries : s.accessors.entries = before ++ e :: after)
      (hbefore : ∀ d ∈ before, LawfulEntry d) (h : EntryFault e fault) : FirstFault s fault

variable {s : Spec} {fault : SpecFault}

theorem head?_require {rule : Bool} {other : SpecFault} :
    (require rule other).head? = some fault ↔ ¬ rule = true ∧ other = fault := by
  cases rule <;> simp [require]

/-- A rule that holds leaves the first fault to the rules behind it. -/
theorem head?_require_append {rule : Bool} {other : SpecFault} (rest : List SpecFault) :
    (require rule other ++ rest).head? = some fault ↔
      (¬ rule = true ∧ other = fault) ∨ (rule = true ∧ rest.head? = some fault) := by
  cases rule <;> simp [require]

theorem head?_entryFaults_iff {e : String × String} :
    (entryFaults e).head? = some fault ↔ EntryFault e fault := by
  rw [entryFaults, head?_require_append, head?_require, isIdentifier_iff, isIdentifier_iff]
  constructor
  · rintro (⟨h, rfl⟩ | ⟨hname, h, rfl⟩)
    · exact .methodName h
    · exact .functionName hname h
  · rintro (h | ⟨hname, h⟩)
    · exact Or.inl ⟨h, rfl⟩
    · exact Or.inr ⟨hname, h, rfl⟩

/-- The first fault of the entries is that of the first entry that has one. -/
theorem head?_flatMap_entryFaults_iff {entries : List (String × String)} :
    (entries.flatMap entryFaults).head? = some fault ↔
      ∃ before e after, entries = before ++ e :: after ∧ EntryFault e fault ∧
        ∀ d ∈ before, LawfulEntry d := by
  have hlawful (d : String × String) : (entryFaults d).head? = none ↔ LawfulEntry d := by
    rw [List.head?_eq_none_iff, entryFaults_eq_nil, isIdentifier_iff, isIdentifier_iff, LawfulEntry]
  simp only [List.head?_flatMap, List.findSome?_eq_some_iff, head?_entryFaults_iff, hlawful]

theorem head?_faults_iff : s.faults.head? = some fault ↔ FirstFault s fault := by
  have hempty : (!s.accessors.entries.isEmpty) = true ↔ s.accessors.entries ≠ [] := by
    rw [Bool.not_eq_true', List.isEmpty_eq_false_iff]
  simp only [faults, List.append_assoc, head?_require_append, isDottedIdentifier_iff,
    isIdentifier_iff, isPlainFileName_iff, hempty, head?_flatMap_entryFaults_iff]
  constructor
  · rintro (⟨h, rfl⟩ | ⟨hpackage, ⟨h, rfl⟩ | ⟨hclass, ⟨h, rfl⟩ | ⟨hinterop, ⟨h, rfl⟩ |
      ⟨-, before, e, after, hentries, h, hbefore⟩⟩⟩⟩)
    · exact .package h
    · exact .className hpackage h
    · exact .interop hpackage hclass h
    · exact .noAccessors hpackage hclass hinterop (not_not.1 h)
    · exact .entry hpackage hclass hinterop hentries hbefore h
  · intro hfirst
    cases hfirst with
    | package h => exact Or.inl ⟨h, rfl⟩
    | className hpackage h => exact Or.inr ⟨hpackage, Or.inl ⟨h, rfl⟩⟩
    | interop hpackage hclass h => exact Or.inr ⟨hpackage, Or.inr ⟨hclass, Or.inl ⟨h, rfl⟩⟩⟩
    | noAccessors hpackage hclass hinterop h =>
      exact Or.inr ⟨hpackage, Or.inr ⟨hclass, Or.inr ⟨hinterop, Or.inl ⟨not_not.2 h, rfl⟩⟩⟩⟩
    | entry hpackage hclass hinterop hentries hbefore h =>
      have hne : s.accessors.entries ≠ [] := by simp [hentries]
      exact Or.inr ⟨hpackage, Or.inr ⟨hclass, Or.inr ⟨hinterop, Or.inr
        ⟨hne, _, _, _, hentries, h, hbefore⟩⟩⟩⟩

/-- A spec that breaks three rules, in the order of the rules. -/
example :
    faults ⟨⟨"/repo"⟩, "foo", [], "a/b", "foo", "com.example", "1Foo", .empty⟩ =
      [.identifier .className "1Foo", .interop "a/b", .noAccessors] := by
  decide

/-! ## Checking -/

theorem check_eq_ok_iff {v : ValidSpec} : s.check = .ok v ↔ v.spec = s := by
  unfold check
  split
  next hnone =>
    rw [Except.ok.injEq]
    exact ⟨fun h => h ▸ rfl, fun h => by cases v; cases h; rfl⟩
  next hsome =>
    -- a valid spec has no faults
    refine ⟨nofun, fun h => ?_⟩
    rw [← h, faults_eq_nil.2 v.valid] at hsome
    cases hsome

theorem check_eq_error_iff : s.check = .error fault ↔ FirstFault s fault := by
  rw [← head?_faults_iff]
  unfold check
  split
  next hnone => simp [hnone]
  next hsome => simp [hsome]

/-- A spec is accepted, and then given back as it is, if it breaks no rule; otherwise the first
    rule that it breaks is reported with the text that breaks it.  The base directory, the name
    of the grammar, that of the library and the sources do not matter. -/
theorem check_outcome (s : Spec) :
    ((∃ v, s.check = .ok v) ↔ s.Lawful) ∧
      (∀ v, s.check = .ok v ↔ v.spec = s) ∧
      (∀ fault, s.check = .error fault ↔ FirstFault s fault) ∧
      ∀ (baseDir : Path) (grammar library : String) (sources : List Path),
        let t := { s with baseDir, grammar, library, sources }
        ((∃ v, t.check = .ok v) ↔ ∃ v, s.check = .ok v) ∧
          ∀ fault, t.check = .error fault ↔ s.check = .error fault := by
  have haccepted (s : Spec) : (∃ v, s.check = .ok v) ↔ s.Valid := by
    simp only [check_eq_ok_iff]
    exact ⟨fun ⟨v, hv⟩ => hv ▸ v.valid, fun h => ⟨⟨s, h⟩, rfl⟩⟩
  refine ⟨(haccepted s).trans valid_iff_lawful, fun v => check_eq_ok_iff,
    fun fault => check_eq_error_iff, fun baseDir grammar library sources => ⟨?_, fun fault => ?_⟩⟩
  · -- faults are found in the other fields only
    rw [haccepted, haccepted, ← faults_eq_nil, ← faults_eq_nil]
    rfl
  · rw [check_eq_error_iff, check_eq_error_iff, ← head?_faults_iff, ← head?_faults_iff]
    rfl

end Spec

end GrammarBindings
