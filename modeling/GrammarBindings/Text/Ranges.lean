/-
  GrammarBindings.Text.Ranges

  Sets of code points given as ranges.
-/

namespace GrammarBindings

/-- Membership in a set of code points given by ranges with both ends included. -/
def inRanges (ranges : List (Nat × Nat)) (n : Nat) : Bool :=
  ranges.any fun r => r.1 ≤ n && n ≤ r.2

/-- A code point between the ends of one of the ranges is in the set. -/
theorem inRanges_of_mem {ranges : List (Nat × Nat)} {n : Nat} {r : Nat × Nat}
    (hr : r ∈ ranges) (hl : r.1 ≤ n) (hu : n ≤ r.2) : inRanges ranges n = true := by
  simp only [inRanges, List.any_eq_true, Bool.and_eq_true, decide_eq_true_eq]
  exact ⟨r, hr, hl, hu⟩

end GrammarBindings
