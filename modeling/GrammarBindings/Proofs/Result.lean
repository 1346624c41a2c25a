/-
  GrammarBindings.Proofs.Result

  Computations that may fail: one after another they succeed exactly if each of them does.
-/

namespace GrammarBindings

section

variable {ε α β : Type} {b : β}

theorem bind_eq_ok {x : Except ε α} {f : α → Except ε β} :
    (x >>= f) = .ok b ↔ ∃ a, x = .ok a ∧ f a = .ok b := by
  cases x with
  | error e => simp [bind, Except.bind]
  | ok a => simp [bind, Except.bind]

theorem bind_pure_eq_ok {x : Except ε α} {f : α → β} :
    (x >>= fun a => pure (f a)) = .ok b ↔ ∃ a, x = .ok a ∧ f a = b := by
  rw [bind_eq_ok]
  simp only [pure, Except.pure, Except.ok.injEq]

theorem bind_pure_eq_some {x : Option α} {f : α → β} :
    (x >>= fun a => pure (f a)) = some b ↔ ∃ a, x = some a ∧ f a = b := by
  cases x <;> simp

end

end GrammarBindings
