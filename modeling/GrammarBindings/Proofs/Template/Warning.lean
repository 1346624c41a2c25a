/-
  GrammarBindings.Proofs.Template.Warning

  What the warning about a template's placeholders tells.  It lists the names that
  the scan for placeholders finds and that have no value; rendering leaves over the
  names that it looks up and has no value for.

    * `mem_leftovers_iff` — the leftovers are the names without a value for which a
      value would change what is rendered.
    * `unknownPlaceholders_leftovers` — with leftovers in this sense, there is a warning
      exactly when something is left over, the first leftover is always in it, and it
      lists the leftovers if no marker closes one and opens another name.
    * `unknownPlaceholders_shared_marker` — with shared markers a leftover can be
      missing from the warning, and a name that is never looked up can be in it.
-/
import GrammarBindings.Proofs.Template.Render
import GrammarBindings.Template.Collection

namespace GrammarBindings

namespace Template

/-! ## Leftovers -/

/-- The names that rendering looks up and copies, as they have no value. -/
def leftovers (template : String) (subs : Substitution) : List String :=
  ((lookups subs.hasValue template.toList).filter fun n => !subs.hasValue n).map String.ofList

/-! ## What is left over, from what is rendered -/

section Extended

variable {subs : Substitution} {name : List Char} {cs : List Char}

/-- The values with an `x` for one more name. -/
def Substitution.extended (subs : Substitution) (name : List Char) : Substitution :=
  (String.ofList name, "x") :: subs

theorem value?_extended_self : (subs.extended name).value? name = some "x" := by
  rw [Substitution.value?, Substitution.extended, List.lookup_cons_self]

theorem value?_extended {n : List Char} (hn : n ≠ name) :
    (subs.extended name).value? n = subs.value? n := by
  have hne : (String.ofList n == String.ofList name) = false := by
    rw [beq_eq_false_iff_ne]
    exact fun heq => hn (String.ofList_inj.1 heq)
  rw [Substitution.value?, Substitution.extended, List.lookup_cons, hne]
  rfl

theorem render_slot_extended {n : List Char} (hn : n ≠ name) :
    Piece.render (subs.extended name) (.slot n) = Piece.render subs (.slot n) := by
  rw [Piece.render, Piece.render, value?_extended hn]

theorem flatMap_render_ne (hmem : name ∈ lookups subs.hasValue cs)
    (hnone : subs.hasValue name = false) :
    (cut (subs.extended name).hasValue cs).flatMap (Piece.render (subs.extended name)) ≠
      (cut subs.hasValue cs).flatMap (Piece.render subs) := by
  have hother {n : List Char} (hn : n ≠ name) :
      (subs.extended name).hasValue n = subs.hasValue n :=
    congrArg Option.isSome (value?_extended hn)
  have hself : (subs.extended name).hasValue name = true :=
    congrArg Option.isSome value?_extended_self
  -- both texts are the same up to the place where `name` is looked up first
  induction scanned subs.hasValue cs with
  | nil => cases hmem
  | char hc _ ih =>
    rw [lookups_char hc] at hmem
    rw [cut_char hc, cut_char hc, List.flatMap_cons, List.flatMap_cons]
    exact fun heq => ih hmem (List.append_cancel_left heq)
  | unfinished hw =>
    rw [lookups_unfinished hw] at hmem
    cases hmem
  | broken hw hc hname _ ih =>
    rw [lookups_broken hw hc hname] at hmem
    rw [cut_broken hw hc hname, cut_broken hw hc hname, List.flatMap_append, List.flatMap_append,
      List.flatMap_cons, List.flatMap_cons, flatMap_render_plainMarker, flatMap_render_plainMarker]
    exact fun heq => ih hmem (List.append_cancel_left (List.append_cancel_left heq))
  | empty _ ih =>
    rw [lookups_empty] at hmem
    rw [cut_empty, cut_empty, List.flatMap_cons, List.flatMap_cons]
    exact fun heq => ih hmem (List.append_cancel_left heq)
  | @accepted w cs hw hne haccepts _ ih =>
    have hthis : w ≠ name := by
      rintro rfl
      rw [hnone] at haccepts
      cases haccepts
    rw [lookups_accepted hw hne haccepts, List.mem_cons] at hmem
    rw [cut_accepted hw hne haccepts, cut_accepted hw hne ((hother hthis).trans haccepts),
      List.flatMap_cons, List.flatMap_cons, render_slot_extended hthis]
    exact fun heq => ih (hmem.resolve_left (Ne.symm hthis)) (List.append_cancel_left heq)
  | @refused w cs hw hne hrefused _ ih =>
    rw [lookups_refused hw hne hrefused, List.mem_cons] at hmem
    rw [cut_refused hw hrefused, List.flatMap_append, flatMap_render_plainMarker]
    by_cases hthis : w = name
    · -- one text goes on with the new value here and the other with a marker
      subst hthis
      rw [cut_accepted hw hne hself, List.flatMap_cons, Piece.render, value?_extended_self]
      intro heq
      have hhead := congrArg List.head? heq
      simp at hhead
    · rw [cut_refused hw ((hother hthis).trans hrefused), List.flatMap_append,
        flatMap_render_plainMarker]
      exact fun heq => ih (hmem.resolve_left (Ne.symm hthis)) (List.append_cancel_left heq)

theorem flatMap_render_eq (hmem : name ∉ lookups subs.hasValue cs)
    (hnone : subs.hasValue name = false) :
    (cut (subs.extended name).hasValue cs).flatMap (Piece.render (subs.extended name)) =
      (cut subs.hasValue cs).flatMap (Piece.render subs) := by
  have hcut : cut (subs.extended name).hasValue cs = cut subs.hasValue cs := by
    refine cut_congr fun n hn => ?_
    have hthis : n ≠ name := fun heq => hmem (heq ▸ hn)
    exact congrArg Option.isSome (value?_extended hthis)
  rw [hcut]
  refine List.flatMap_congr fun piece hpiece => ?_
  cases piece with
  | char c => rfl
  | slot n =>
    refine render_slot_extended fun heq => ?_
    have hvalue := accepts_of_slot_mem hpiece
    rw [heq, hnone] at hvalue
    cases hvalue

/-- The names that are left over are those without a value for which a value would
    have changed what is rendered. -/
theorem mem_leftovers_iff {template : String} {name : String} {subs : Substitution} :
    name ∈ leftovers template subs ↔
      subs.hasValue name.toList = false ∧
        render template ((name, "x") :: subs) ≠ render template subs := by
  have hrender : render template ((name, "x") :: subs) ≠ render template subs ↔
      (cut (subs.extended name.toList).hasValue template.toList).flatMap
          (Piece.render (subs.extended name.toList)) ≠
        (cut subs.hasValue template.toList).flatMap (Piece.render subs) := by
    have hextended : (name, "x") :: subs = subs.extended name.toList := by
      rw [Substitution.extended, String.ofList_toList]
    rw [hextended, render_eq, render_eq, ne_eq, String.ofList_inj]
  rw [hrender, leftovers, List.mem_map]
  constructor
  · rintro ⟨n, hn, rfl⟩
    obtain ⟨hn, hnone⟩ := List.mem_filter.1 hn
    rw [Bool.not_eq_true'] at hnone
    rw [String.toList_ofList]
    exact ⟨hnone, flatMap_render_ne hn hnone⟩
  · rintro ⟨hnone, hne⟩
    refine ⟨name.toList, List.mem_filter.2 ⟨?_, by rw [hnone]; rfl⟩, String.ofList_toList⟩
    by_contra hmem
    exact hne (flatMap_render_eq hmem hnone)

end Extended

/-! ## The placeholders of a text -/

/-- The placeholders of a text are the names that a scan looks up which accepts all. -/
theorem mem_placeholders_iff {template name : String} :
    name ∈ placeholders template ↔
      name ∈ (lookups everyName template.toList).map String.ofList := by
  rw [mem_placeholders_iff_mem_cut, filterMap_name?_cut, List.filter_eq_self.2 fun _ _ => rfl]

end Template

open Template

namespace TemplateCollection

section

variable {kind : ArtifactKind} {subs : Substitution}
  (hsubs : subs.map Prod.fst = kind.placeholders) (ts : TemplateCollection)
include hsubs

theorem mem_unknownPlaceholders_iff {name : String} :
    name ∈ ts.unknownPlaceholders kind ↔
      name ∈ ((lookups everyName (ts.get kind).toList).filter fun n => !subs.hasValue n).map
        String.ofList := by
  have hvalue : (fun n => !subs.hasValue n) =
      fun n => !kind.placeholders.contains (String.ofList n) := by
    funext n
    rw [hasValue_eq_contains hsubs]
  rw [unknownPlaceholders, List.mem_filter, mem_placeholders_iff, hvalue, List.mem_map,
    List.mem_map]
  constructor
  · rintro ⟨⟨n, hn, rfl⟩, hunknown⟩
    exact ⟨n, List.mem_filter.2 ⟨hn, hunknown⟩, rfl⟩
  · rintro ⟨n, hn, rfl⟩
    obtain ⟨hn, hunknown⟩ := List.mem_filter.1 hn
    exact ⟨⟨n, hn, rfl⟩, hunknown⟩

/-- With values for the placeholders that a kind declares, its template is warned of
    exactly when rendering leaves a name over: one without a value, for which a value
    would change what is rendered.  The first name that is left over is in the warning;
    if no marker closes a name without a value and opens another name, the warning lists
    the names that are left over. -/
theorem unknownPlaceholders_leftovers :
    (∀ name, name ∈ leftovers (ts.get kind) subs ↔
        subs.hasValue name.toList = false ∧
          render (ts.get kind) ((name, "x") :: subs) ≠ render (ts.get kind) subs) ∧
      (ts.unknownPlaceholders kind = [] ↔ leftovers (ts.get kind) subs = []) ∧
      (∀ name, (leftovers (ts.get kind) subs).head? = some name →
        name ∈ ts.unknownPlaceholders kind) ∧
      (Unshared subs.hasValue (ts.get kind).toList →
        ∀ name, name ∈ ts.unknownPlaceholders kind ↔ name ∈ leftovers (ts.get kind) subs) := by
  have hmem (name : String) : name ∈ ts.unknownPlaceholders kind ↔
      name ∈ ((lookups everyName (ts.get kind).toList).filter fun n => !subs.hasValue n).map
        String.ofList :=
    mem_unknownPlaceholders_iff hsubs ts
  -- both scans find the same first name without a value
  have hfirst : ((lookups everyName (ts.get kind).toList).filter fun n => !subs.hasValue n).head? =
      ((lookups subs.hasValue (ts.get kind).toList).filter fun n => !subs.hasValue n).head? := by
    rw [List.head?_filter, List.head?_filter, find?_lookups]
  refine ⟨fun name => mem_leftovers_iff, ?_, fun name hname => ?_, fun hunshared name => ?_⟩
  · have hreport : ts.unknownPlaceholders kind = [] ↔
        (lookups everyName (ts.get kind).toList).filter (fun n => !subs.hasValue n) = [] := by
      rw [List.eq_nil_iff_forall_not_mem]
      simp only [hmem, ← List.eq_nil_iff_forall_not_mem, List.map_eq_nil_iff]
    rw [hreport, leftovers, List.map_eq_nil_iff, ← List.head?_eq_none_iff, hfirst,
      List.head?_eq_none_iff]
  · rw [leftovers, List.head?_map, ← hfirst, ← List.head?_map] at hname
    exact (hmem name).2 (List.mem_of_mem_head? hname)
  · rw [hmem, leftovers, filter_lookups hunshared]

end

/-! ## Shared markers -/

/-- The built-in templates with another one for the shared object. -/
def withCommon (template : String) : TemplateCollection := { builtin with common := template }

/-- Empty values for the placeholders of the shared object. -/
def blank : Substitution := [("PACKAGE", ""), ("CLASS", ""), ("METHODS", "")]

/-- The theorem at a template with a known and two unknown names. -/
theorem unknownPlaceholders_leftovers_unshared :
    blank.map Prod.fst = ArtifactKind.common.placeholders ∧
      (leftovers "@A@ @CLASS@@B@" blank).head? = some "A" ∧
      Unshared blank.hasValue "@A@ @CLASS@@B@".toList ∧
      "A" ∈ (withCommon "@A@ @CLASS@@B@").unknownPlaceholders .common ∧
      ("B" ∈ (withCommon "@A@ @CLASS@@B@").unknownPlaceholders .common ↔
        blank.hasValue "B".toList = false ∧
          render "@A@ @CLASS@@B@" (("B", "x") :: blank) ≠ render "@A@ @CLASS@@B@" blank) := by
  have hsubs : blank.map Prod.fst = ArtifactKind.common.placeholders := rfl
  have hfirst : (leftovers "@A@ @CLASS@@B@" blank).head? = some "A" := by decide +kernel
  have hunshared : Unshared blank.hasValue "@A@ @CLASS@@B@".toList := by
    decide +kernel
  obtain ⟨hleftovers, -, hhead, hall⟩ :=
    unknownPlaceholders_leftovers hsubs (withCommon "@A@ @CLASS@@B@")
  exact ⟨hsubs, hfirst, hunshared, hhead "A" hfirst, (hall hunshared "B").trans (hleftovers "B")⟩

/-- In `@A@B@` the name `B` is left over without a warning; in `@A@CLASS@B@` it is
    warned of and never looked up. -/
theorem unknownPlaceholders_shared_marker :
    ("B" ∈ leftovers "@A@B@" blank ∧
        "B" ∉ (withCommon "@A@B@").unknownPlaceholders .common) ∧
      ("B" ∉ leftovers "@A@CLASS@B@" blank ∧
        "B" ∈ (withCommon "@A@CLASS@B@").unknownPlaceholders .common) := by
  have hsubs : blank.map Prod.fst = ArtifactKind.common.placeholders := rfl
  rw [mem_unknownPlaceholders_iff hsubs, mem_unknownPlaceholders_iff hsubs]
  decide +kernel

end TemplateCollection

end GrammarBindings
