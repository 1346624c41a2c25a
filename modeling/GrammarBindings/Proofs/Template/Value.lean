/-
  GrammarBindings.Proofs.Template.Value

  Values told from what a template is rendered to.  A value can be any text, also one
  that looks like the template around it, so it need not be found in the rendered text.
  But where all other values are given, the length of that text gives the length of the
  value, and with it the place where the value ends.

    * `eq_of_flatMap_eq` — two texts made of the same pieces, none of which is longer
      in the first one, are equal only if the pieces are.
    * `eq_of_render_eq` — a value is told from the rendered text and the other values.
-/
import GrammarBindings.Proofs.Template.Render

namespace GrammarBindings

namespace Template

/-! ## Texts made of pieces -/

section Pieces

variable {α β : Type} {f g : α → List β}

theorem length_flatMap_le {ps : List α} (hle : ∀ p ∈ ps, (f p).length ≤ (g p).length) :
    (ps.flatMap f).length ≤ (ps.flatMap g).length := by
  induction ps with
  | nil => exact Nat.le_refl _
  | cons p ps ih =>
    rw [List.forall_mem_cons] at hle
    have hrest := ih hle.2
    rw [List.flatMap_cons, List.flatMap_cons, List.length_append, List.length_append]
    omega

theorem eq_of_flatMap_eq {ps : List α} (hle : ∀ p ∈ ps, (f p).length ≤ (g p).length)
    (h : ps.flatMap f = ps.flatMap g) : ∀ p ∈ ps, f p = g p := by
  induction ps with
  | nil => exact fun p hp => absurd hp List.not_mem_nil
  | cons p ps ih =>
    rw [List.forall_mem_cons] at hle ⊢
    rw [List.flatMap_cons, List.flatMap_cons] at h
    -- the rest is not longer either, so the first piece is as long as in the other text
    have hrest := length_flatMap_le hle.2
    have hlength := congrArg List.length h
    rw [List.length_append, List.length_append] at hlength
    obtain ⟨hfirst, hothers⟩ := List.append_inj h (by omega)
    exact ⟨hfirst, ih hle.2 hothers⟩

end Pieces

/-! ## One value among others -/

section Values

variable {front back : Substitution} {name value value' : String}

/-- The value of a name, behind those of other names. -/
theorem value?_self (hfront : name ∉ front.map Prod.fst) :
    Substitution.value? (front ++ (name, value) :: back) name.toList = some value := by
  have hnone : front.lookup name = none := by
    rw [List.lookup_eq_none_iff]
    intro p hp
    rw [bne_iff_ne]
    exact fun heq => hfront (List.mem_map.2 ⟨p, hp, heq.symm⟩)
  rw [Substitution.value?, String.ofList_toList, List.lookup_append, hnone, Option.none_or,
    List.lookup_cons_self]

/-- Another value for a name changes none of the other values. -/
theorem value?_other {n : List Char} (hne : n ≠ name.toList) :
    Substitution.value? (front ++ (name, value) :: back) n =
      Substitution.value? (front ++ (name, value') :: back) n := by
  have hkey : (String.ofList n == name) = false := by
    rw [beq_eq_false_iff_ne]
    rintro rfl
    exact hne String.toList_ofList.symm
  rw [Substitution.value?, Substitution.value?, List.lookup_append, List.lookup_append,
    List.lookup_cons, List.lookup_cons, hkey]

theorem length_render_le (hfront : name ∉ front.map Prod.fst)
    (hle : value.toList.length ≤ value'.toList.length) (p : Piece) :
    (p.render (front ++ (name, value) :: back)).length ≤
      (p.render (front ++ (name, value') :: back)).length := by
  cases p with
  | char c => exact Nat.le_refl _
  | slot n =>
    by_cases hn : n = name.toList
    · rw [hn, Piece.render, Piece.render, value?_self hfront, value?_self hfront]
      exact hle
    · rw [Piece.render, Piece.render, value?_other hn]

/-- A name that is a slot of a template has the same value in two substitutions if these
    differ in no other value and the template is rendered to the same text. -/
theorem eq_of_render_eq (front back : Substitution) {template : String} {names : List String}
    (hnames : front.map Prod.fst ++ name :: back.map Prod.fst = names)
    (hfront : name ∉ front.map Prod.fst)
    (hslot : .slot name.toList ∈ cut (fun n => names.contains (String.ofList n)) template.toList)
    (h : render template (front ++ (name, value) :: back) =
      render template (front ++ (name, value') :: back)) : value = value' := by
  have hcut (v : String) : Substitution.hasValue (front ++ (name, v) :: back) =
      fun n => names.contains (String.ofList n) := by
    funext n
    exact hasValue_eq_contains (by simpa using hnames) n
  rw [← String.toList_inj, toList_render, toList_render, hcut, hcut] at h
  have hvalue (v : String) :
      Piece.render (front ++ (name, v) :: back) (.slot name.toList) = v.toList := by
    rw [Piece.render, value?_self hfront]
    rfl
  -- with the shorter value every piece of the text is at most as long as with the other
  rcases Nat.le_total value.toList.length value'.toList.length with hle | hle
  · have hpieces := eq_of_flatMap_eq (fun p _ => length_render_le hfront hle p) h _ hslot
    rwa [hvalue, hvalue, String.toList_inj] at hpieces
  · have hpieces := eq_of_flatMap_eq (fun p _ => length_render_le hfront hle p) h.symm _ hslot
    rw [hvalue, hvalue, String.toList_inj] at hpieces
    exact hpieces.symm

end Values

end Template

end GrammarBindings
