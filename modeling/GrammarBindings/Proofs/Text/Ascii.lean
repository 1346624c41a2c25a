/-
  GrammarBindings.Proofs.Text.Ascii

  Classes of ASCII characters by their ranges: letters, digits, and the characters of words,
  which are these and the underscore.
-/

namespace GrammarBindings

variable {c : Char}

theorem isDigit_iff : c.isDigit = true ↔ '0' ≤ c ∧ c ≤ '9' := by
  rw [Char.isDigit, Bool.and_eq_true, decide_eq_true_eq, decide_eq_true_eq]
  rfl

theorem isAlpha_iff : c.isAlpha = true ↔ ('A' ≤ c ∧ c ≤ 'Z') ∨ ('a' ≤ c ∧ c ≤ 'z') := by
  have hupper : c.isUpper = true ↔ 'A' ≤ c ∧ c ≤ 'Z' := decide_eq_true_iff
  have hlower : c.isLower = true ↔ 'a' ≤ c ∧ c ≤ 'z' := by
    have hboth : c.isLower = (decide (c.val ≥ 'a'.val) && decide (c.val ≤ 'z'.val)) := rfl
    rw [hboth, Bool.and_eq_true, decide_eq_true_eq, decide_eq_true_eq]
    rfl
  have hletter : c.isAlpha = (c.isUpper || c.isLower) := rfl
  rw [hletter, Bool.or_eq_true, hupper, hlower]

/-- A letter or digit of ASCII, or an underscore. -/
def IsWordChar (c : Char) : Prop :=
  ('A' ≤ c ∧ c ≤ 'Z') ∨ ('a' ≤ c ∧ c ≤ 'z') ∨ ('0' ≤ c ∧ c ≤ '9') ∨ c = '_'

instance : DecidablePred IsWordChar := fun c => inferInstanceAs (Decidable (_ ∨ _ ∨ _ ∨ c = '_'))

end GrammarBindings
