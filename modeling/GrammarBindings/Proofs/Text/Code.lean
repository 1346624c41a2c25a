/-
  GrammarBindings.Proofs.Text.Code

  Lists that are written as the words of a code, one after the other with nothing between
  them.  A reader that takes each word off whatever follows it finds the members again, and a
  place where it reads nothing is where the list ends.
-/

namespace GrammarBindings

/-- Two lists of members with words that a reader finds, each before something where it finds
    none: if their words and what follows are the same text, the reader finds the same in
    both, and the same follows. -/
theorem eq_of_flatMap_append_eq {α β γ : Type} {word : α → List β}
    {read : List β → Option (γ × List β)} {found : α → γ} {as bs : List α} {xs ys : List β}
    (has : ∀ a ∈ as, ∀ rest, read (word a ++ rest) = some (found a, rest))
    (hbs : ∀ b ∈ bs, ∀ rest, read (word b ++ rest) = some (found b, rest))
    (hxs : read xs = none) (hys : read ys = none)
    (h : as.flatMap word ++ xs = bs.flatMap word ++ ys) :
    as.map found = bs.map found ∧ xs = ys := by
  -- one word after the other; where one list ends nothing is read, so the other one ends too
  induction as generalizing bs with
  | nil =>
    cases bs with
    | nil => exact ⟨rfl, h⟩
    | cons b bs =>
      rw [List.flatMap_nil, List.nil_append, List.flatMap_cons, List.append_assoc] at h
      rw [h, hbs b List.mem_cons_self] at hxs
      cases hxs
  | cons a as ih =>
    have ha := has a List.mem_cons_self
    cases bs with
    | nil =>
      rw [List.flatMap_nil, List.nil_append, List.flatMap_cons, List.append_assoc] at h
      rw [← h, ha] at hys
      cases hys
    | cons b bs =>
      rw [List.flatMap_cons, List.flatMap_cons, List.append_assoc, List.append_assoc] at h
      have hread := congrArg read h
      rw [ha, hbs b List.mem_cons_self, Option.some.injEq, Prod.mk.injEq] at hread
      obtain ⟨hrest, hends⟩ := ih (fun a ha => has a (List.mem_cons_of_mem _ ha))
        (fun b hb => hbs b (List.mem_cons_of_mem _ hb)) hread.2
      rw [List.map_cons, List.map_cons, hread.1, hrest]
      exact ⟨rfl, hends⟩

end GrammarBindings
