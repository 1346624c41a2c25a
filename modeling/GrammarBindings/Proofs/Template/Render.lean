/-
  GrammarBindings.Proofs.Template.Render

  What a template is rendered to.  No placeholder goes over a character that is in no
  name, such as the end of a line, so the lines of a template are rendered one by one:

    * `render_append`, `render_eq_intercalate` — texts around such characters.
    * `lines_render` — the lines of what is rendered.
    * `render_of_lookups` — a line without placeholders stays as it is.
    * `render_placeholder` — a line with one placeholder gets the value in its place.
-/
import GrammarBindings.Proofs.Template.Lookup
import GrammarBindings.Proofs.Text.Lines

namespace GrammarBindings

namespace Template

/-! ## Values -/

/-- Whether a name has a value. -/
def Substitution.hasValue (subs : Substitution) (name : List Char) : Bool :=
  (subs.value? name).isSome

theorem render_eq (template : String) (subs : Substitution) :
    render template subs =
      String.ofList ((cut subs.hasValue template.toList).flatMap (Piece.render subs)) :=
  rfl

theorem toList_render (template : String) (subs : Substitution) :
    (render template subs).toList =
      (cut subs.hasValue template.toList).flatMap (Piece.render subs) :=
  String.toList_ofList

theorem hasValue_eq_contains {subs : Substitution} {names : List String}
    (hsubs : subs.map Prod.fst = names) (n : List Char) :
    subs.hasValue n = names.contains (String.ofList n) := by
  rw [Bool.eq_iff_iff, Substitution.hasValue, Substitution.value?, List.lookup_isSome_iff,
    List.contains_iff_mem, ← hsubs, List.mem_map]
  constructor
  · rintro ⟨p, hp, heq⟩
    exact ⟨p, hp, (beq_iff_eq.1 heq).symm⟩
  · rintro ⟨p, hp, heq⟩
    exact ⟨p, hp, beq_iff_eq.2 heq.symm⟩

theorem flatMap_render_char (cs : List Char) (subs : Substitution) :
    (cs.map Piece.char).flatMap (Piece.render subs) = cs := by
  rw [List.flatMap_map]
  exact List.flatMap_singleton' _

theorem flatMap_render_plainMarker (w : List Char) (subs : Substitution) :
    (plainMarker w).flatMap (Piece.render subs) = '@' :: w :=
  flatMap_render_char ('@' :: w) subs

/-! ## Texts in parts -/

section Parts

variable {accepts : List Char → Bool} {w cs : List Char} {c : Char}

/-- A text without placeholders is cut into characters. -/
theorem cut_of_lookups (h : lookups everyName cs = []) : cut accepts cs = cs.map .char := by
  induction scanned everyName cs with
  | nil => rfl
  | char hc _ ih =>
    rw [lookups_char hc] at h
    rw [cut_char hc, ih h, List.map_cons]
  | unfinished hw => rw [cut_unfinished hw, plainMarker]
  | broken hw hc hname _ ih =>
    rw [lookups_broken hw hc hname] at h
    rw [cut_broken hw hc hname, ih h, plainMarker, ← List.map_cons, ← List.map_append,
      List.cons_append]
  | empty _ ih =>
    rw [lookups_empty] at h
    rw [cut_empty, ih h]
    rfl
  | accepted hw hne haccepts _ _ =>
    rw [lookups_accepted hw hne haccepts] at h
    cases h
  | refused hw hne hrefused _ _ => cases hrefused

theorem cut_append (hw : '@' ∉ w) : cut accepts (w ++ cs) = w.map .char ++ cut accepts cs := by
  induction w with
  | nil => rfl
  | cons c w ih =>
    have hc : c ≠ '@' := fun heq => hw (heq ▸ List.mem_cons_self)
    rw [List.cons_append, cut_char hc, ih fun h => hw (List.mem_cons_of_mem _ h), List.map_cons,
      List.cons_append]

/-- What stands before a character that is in no name is cut by itself. -/
theorem cut_append_cons (hc : c ≠ '@') (hname : isNameChar c = false) (xs ys : List Char) :
    cut accepts (xs ++ c :: ys) = cut accepts xs ++ .char c :: cut accepts ys := by
  -- `c` ends the last word of `xs`, so no slot reaches over it
  induction scanned accepts xs with
  | nil => exact cut_char hc
  | char hd _ ih => rw [List.cons_append, cut_char hd, cut_char hd, ih, List.cons_append]
  | unfinished hw => rw [List.cons_append, cut_broken hw hc hname, cut_unfinished hw]
  | broken hw hd hbroken _ ih =>
    rw [List.cons_append, List.append_assoc, List.cons_append, cut_broken hw hd hbroken,
      cut_broken hw hd hbroken, ih, List.append_assoc, List.cons_append]
  | empty _ ih =>
    rw [List.cons_append, List.cons_append, cut_empty, cut_empty, ← List.cons_append, ih,
      List.cons_append]
  | accepted hw hne haccepts _ ih =>
    rw [List.cons_append, List.append_assoc, List.cons_append, cut_accepted hw hne haccepts,
      cut_accepted hw hne haccepts, ih, List.cons_append]
  | refused hw hne hrefused _ ih =>
    rw [List.cons_append, List.append_assoc, List.cons_append, cut_refused hw hrefused,
      cut_refused hw hrefused, ← List.cons_append, ih, List.append_assoc]

end Parts

/-! ## Texts with a separator -/

variable {subs : Substitution} {c : Char}

/-- Around a character that is in no name, texts are rendered by themselves. -/
theorem render_append (hc : c ≠ '@') (hname : isNameChar c = false) (s t : String) :
    render (s ++ String.singleton c ++ t) subs =
      render s subs ++ String.singleton c ++ render t subs := by
  have hchars : (s ++ String.singleton c ++ t).toList = s.toList ++ c :: t.toList := by
    rw [String.toList_append, String.toList_append, String.toList_singleton, List.append_assoc,
      List.singleton_append]
  apply String.toList_inj.1
  rw [toList_render, hchars, cut_append_cons hc hname, List.flatMap_append, List.flatMap_cons,
    String.toList_append, String.toList_append, String.toList_singleton, toList_render,
    toList_render, List.append_assoc]
  rfl

/-- Between such characters a template is rendered part by part. -/
theorem render_eq_intercalate (hc : c ≠ '@') (hname : isNameChar c = false) (template : String) :
    render template subs =
      (String.singleton c).intercalate ((parts c template).map fun t => render t subs) := by
  have hrender (ts : List String) : render ((String.singleton c).intercalate ts) subs =
      (String.singleton c).intercalate (ts.map fun t => render t subs) := by
    induction ts with
    | nil => rfl
    | cons t ts ih =>
      by_cases hempty : ts = []
      · rw [hempty, String.intercalate_singleton, List.map_singleton, String.intercalate_singleton]
      · rw [String.intercalate_cons_of_ne_nil hempty, render_append hc hname, ih, List.map_cons,
          String.intercalate_cons_of_ne_nil (by simpa using hempty)]
  rw [← hrender, intercalate_parts]

/-- A template is rendered line by line. -/
theorem lines_render (template : String) (subs : Substitution) :
    lines (render template subs) = (lines template).flatMap fun l => lines (render l subs) := by
  have hne : (parts '\n' template).map (fun l => render l subs) ≠ [] := by
    simpa using parts_ne_nil template
  rw [render_eq_intercalate (c := '\n') (by decide) (by decide), lines,
    parts_intercalate_eq_flatMap hne, List.flatMap_map]
  rfl

/-- A text without placeholders stays as it is. -/
theorem render_of_lookups {text : String} (h : lookups everyName text.toList = []) :
    render text subs = text := by
  rw [render_eq, cut_of_lookups h, flatMap_render_char, String.ofList_toList]

/-- A text with one placeholder. -/
theorem render_placeholder {lead name tail value : String} (hlead : '@' ∉ lead.toList)
    (hname : IsWord name.toList) (hne : name ≠ "") (hvalue : subs.lookup name = some value)
    (htail : lookups everyName tail.toList = []) :
    render (lead ++ "@" ++ name ++ "@" ++ tail) subs = lead ++ value ++ tail := by
  have hchars : (lead ++ "@" ++ name ++ "@" ++ tail).toList =
      lead.toList ++ '@' :: (name.toList ++ '@' :: tail.toList) := by
    simp only [String.toList_append, List.append_assoc]
    rfl
  have hsome : subs.value? name.toList = some value := by
    rw [Substitution.value?, String.ofList_toList, hvalue]
  have haccepts : subs.hasValue name.toList = true := by
    rw [Substitution.hasValue, hsome]
    rfl
  apply String.toList_inj.1
  rw [toList_render, hchars, cut_append hlead, cut_accepted hname (by simpa using hne) haccepts,
    cut_of_lookups htail, List.flatMap_append, List.flatMap_cons, flatMap_render_char,
    flatMap_render_char, Piece.render, hsome, String.toList_append, String.toList_append,
    List.append_assoc]
  rfl

end Template

end GrammarBindings
