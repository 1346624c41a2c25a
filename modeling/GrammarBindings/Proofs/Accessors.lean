/-
  GrammarBindings.Proofs.Accessors

  The C functions of a table of accessors, each once: they come in the order in
  which they occur for the first time.
-/
import GrammarBindings.Accessors
import Mathlib.Data.List.Basic

namespace GrammarBindings

/-! ## First occurrences -/

/-- The members of `l`, each once, in the order of their first occurrence in `l`. -/
structure FirstOccurrences {α : Type} [DecidableEq α] (members l : List α) : Prop where
  nodup : members.Nodup
  mem_iff : ∀ a, a ∈ members ↔ a ∈ l
  order : members.Pairwise fun a b => l.idxOf a < l.idxOf b

section

variable {α : Type} [DecidableEq α]

/-- What is kept by a filter keeps its order. -/
theorem idxOf_lt_of_filter {p : α → Bool} {l : List α} {a b : α} (ha : p a = true)
    (hb : p b = true) (h : (l.filter p).idxOf a < (l.filter p).idxOf b) :
    l.idxOf a < l.idxOf b := by
  induction l with
  | nil => exact h
  | cons c l ih =>
    by_cases hc : p c = true
    · rw [List.filter_cons_of_pos hc] at h
      by_cases hac : c = a
      · subst hac
        have hcb : c ≠ b := by
          rintro rfl
          exact absurd h (Nat.lt_irrefl _)
        rw [List.idxOf_cons_self, List.idxOf_cons_ne _ hcb]
        omega
      · by_cases hbc : c = b
        · subst hbc
          rw [List.idxOf_cons_self] at h
          omega
        · rw [List.idxOf_cons_ne _ hac, List.idxOf_cons_ne _ hbc] at h ⊢
          have hlt := ih (by omega)
          omega
    · rw [List.filter_cons_of_neg hc] at h
      have hca : c ≠ a := fun heq => hc (heq ▸ ha)
      have hcb : c ≠ b := fun heq => hc (heq ▸ hb)
      have hlt := ih h
      rw [List.idxOf_cons_ne _ hca, List.idxOf_cons_ne _ hcb]
      omega

theorem firstOccurrences_eraseDups (l : List α) : FirstOccurrences l.eraseDups l := by
  -- on the length, since the rest is filtered before it is gone through
  induction hn : l.length using Nat.strongRecOn generalizing l with
  | ind n ih =>
    cases l with
    | nil => exact ⟨List.nodup_nil, fun _ => Iff.rfl, List.Pairwise.nil⟩
    | cons a l =>
      have hlength : (l.filter fun b => !b == a).length < n := by
        have hle := List.length_filter_le (fun b => !b == a) l
        rw [← hn, List.length_cons]
        omega
      have hrest := ih _ hlength (l.filter fun b => !b == a) rfl
      have hkept {b : α} (hb : b ∈ (l.filter fun b => !b == a).eraseDups) : (!b == a) = true :=
        (List.mem_filter.1 ((hrest.mem_iff b).1 hb)).2
      have hne {b : α} (hb : b ∈ (l.filter fun b => !b == a).eraseDups) : a ≠ b := by
        rintro rfl
        simpa using hkept hb
      refine ⟨?_, fun b => List.mem_eraseDups, ?_⟩
      · rw [List.eraseDups_cons, List.nodup_cons]
        exact ⟨fun ha => hne ha rfl, hrest.nodup⟩
      · rw [List.eraseDups_cons, List.pairwise_cons]
        refine ⟨fun b hb => ?_, hrest.order.imp_of_mem fun {b c} hb hc hlt => ?_⟩
        · rw [List.idxOf_cons_self, List.idxOf_cons_ne _ (hne hb)]
          omega
        · have hlt' : l.idxOf b < l.idxOf c :=
            idxOf_lt_of_filter (p := fun b => !b == a) (hkept hb) (hkept hc) hlt
          rw [List.idxOf_cons_ne _ (hne hb), List.idxOf_cons_ne _ (hne hc)]
          omega

end

namespace Accessors

/-- A table is given by its entries. -/
theorem eq_of_entries_eq {t u : Accessors} (h : t.entries = u.entries) : t = u := by
  cases t
  cases u
  cases h
  rfl

theorem firstOccurrences_distinctFunctions (t : Accessors) :
    FirstOccurrences t.distinctFunctions t.functions :=
  firstOccurrences_eraseDups t.functions

theorem mem_distinctFunctions {t : Accessors} {f : String} :
    f ∈ t.distinctFunctions ↔ f ∈ t.functions :=
  t.firstOccurrences_distinctFunctions.mem_iff f

end Accessors

end GrammarBindings
