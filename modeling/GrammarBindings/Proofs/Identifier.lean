/-
  GrammarBindings.Proofs.Identifier

  Identifiers by their grammar, and what does not occur in them.

    * `isIdentifier_iff`, `isDottedIdentifier_iff` — the checks accept what the grammar
      describes.
    * `notMem_of_isIdentifier` — identifiers are made of parts, letters, digits and
      underscores, so no character that structures generated text or paths is in one of
      them; a dotted identifier holds dots besides.
-/
import GrammarBindings.Proofs.Text.Ascii
import GrammarBindings.Proofs.Text.Lines
import GrammarBindings.Spec

namespace GrammarBindings

open Identifier

/-! ## Characters -/

/-- The characters that end names in paths and generated texts. -/
theorem not_isPart_of_mem {c : Char} (h : c ∈ ['/', '.', '\n', ' ', '(']) :
    isPart c = false := by
  have hall : (['/', '.', '\n', ' ', '('].all fun c => !isPart c) = true := by decide
  simpa using List.all_eq_true.1 hall c h

theorem isPart_of_accepts {cs : List Char} (h : accepts cs = true) {c : Char} (hc : c ∈ cs) :
    isPart c = true := by
  cases cs with
  | nil => cases hc
  | cons first rest =>
    rw [accepts, Bool.and_eq_true, List.all_eq_true] at h
    rcases List.mem_cons.1 hc with rfl | hc
    · exact isPart_of_isStart h.1
    · exact h.2 c hc

/-- A character that is no part of an identifier is in none. -/
theorem notMem_of_accepts {cs : List Char} (h : accepts cs = true) {c : Char}
    (hc : isPart c = false) : c ∉ cs := by
  intro hmem
  have hpart := isPart_of_accepts h hmem
  rw [hc] at hpart
  cases hpart

theorem notMem_of_isIdentifier {s : String} (h : isIdentifier s = true) {c : Char}
    (hc : isPart c = false) : c ∉ s.toList :=
  notMem_of_accepts h hc

/-- A character that is neither a part nor a dot is in no dotted identifier. -/
theorem notMem_of_isDottedIdentifier {s : String} (h : isDottedIdentifier s = true) {c : Char}
    (hc : isPart c = false) (hdot : c ≠ '.') : c ∉ s.toList := by
  have hparts : ['.'].intercalate (s.toList.splitOn '.') = s.toList := List.intercalate_splitOn '.'
  rw [← hparts, mem_intercalate_iff (by simpa using hdot)]
  rintro ⟨p, hp, hmem⟩
  exact notMem_of_accepts (List.all_eq_true.1 h p hp) hc hmem

/-! ## The grammar -/

/-- A letter or an underscore, and behind it letters, digits `0` to `9` and underscores. -/
def Identifier.Formed (s : String) : Prop :=
  ∃ c cs, s.toList = c :: cs ∧ (isLetter c = true ∨ c = '_') ∧
    ∀ d ∈ cs, isLetter d = true ∨ ('0' ≤ d ∧ d ≤ '9') ∨ d = '_'

/-- One or more identifiers with single dots between them. -/
def Identifier.DottedFormed (s : String) : Prop :=
  ∃ names : List String, names ≠ [] ∧ (∀ n ∈ names, Formed n) ∧ s = ".".intercalate names

theorem isStart_iff {c : Char} : isStart c = true ↔ isLetter c = true ∨ c = '_' := by
  rw [isStart, Bool.or_eq_true, beq_iff_eq, or_comm]

theorem isPart_iff {c : Char} :
    isPart c = true ↔ isLetter c = true ∨ ('0' ≤ c ∧ c ≤ '9') ∨ c = '_' := by
  rw [isPart, Bool.or_eq_true, ← isStart, isStart_iff, isDigit_iff, or_assoc,
    or_comm (a := c = '_')]

theorem isIdentifier_iff {s : String} : isIdentifier s = true ↔ Formed s := by
  rw [isIdentifier, Formed]
  cases s.toList with
  | nil => simp [accepts]
  | cons c cs =>
    simp only [accepts, Bool.and_eq_true, isStart_iff, List.all_eq_true, isPart_iff,
      List.cons.injEq]
    exact ⟨fun h => ⟨c, cs, ⟨rfl, rfl⟩, h⟩, fun ⟨_, _, ⟨rfl, rfl⟩, h⟩ => h⟩

/-- A text is a dotted identifier if its parts between the dots are identifiers. -/
theorem isDottedIdentifier_eq_all (s : String) :
    isDottedIdentifier s = (parts '.' s).all isIdentifier := by
  rw [isDottedIdentifier, parts, List.all_map]
  refine congrArg _ (funext fun cs => ?_)
  rw [Function.comp_apply, isIdentifier, String.toList_ofList]

theorem isDottedIdentifier_iff {s : String} : isDottedIdentifier s = true ↔ DottedFormed s := by
  rw [isDottedIdentifier_eq_all, List.all_eq_true]
  constructor
  · intro h
    exact ⟨parts '.' s, parts_ne_nil s, fun n hn => isIdentifier_iff.1 (h n hn),
      (intercalate_parts s).symm⟩
  · rintro ⟨names, hne, hnames, rfl⟩
    -- there are no dots in identifiers, so the parts are these
    have hdots : ∀ n ∈ names, '.' ∉ n.toList := fun n hn =>
      notMem_of_isIdentifier (isIdentifier_iff.2 (hnames n hn)) (not_isPart_of_mem (by simp))
    have hparts : parts '.' (".".intercalate names) = names := parts_intercalate hne hdots
    rw [hparts]
    exact fun n hn => isIdentifier_iff.2 (hnames n hn)

/-! ## Lines -/

theorem oneLine_of_isIdentifier {s : String} (h : isIdentifier s = true) : OneLine s :=
  notMem_of_isIdentifier h (not_isPart_of_mem (by simp))

theorem oneLine_of_isDottedIdentifier {s : String} (h : isDottedIdentifier s = true) :
    OneLine s :=
  notMem_of_isDottedIdentifier h (not_isPart_of_mem (by simp)) (by decide)

end GrammarBindings
