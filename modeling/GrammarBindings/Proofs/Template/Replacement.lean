/-
  GrammarBindings.Proofs.Template.Replacement

  What rendering computes.  The leftmost placeholders whose names have a value are replaced,
  each by the first value of its name, and all else is copied.

    * `render_eq_fill` — the rendered text fills the cutting that the scan finds.
    * `render_leftmost` — this cutting is the only leftmost one; it depends on the template
      and on which words have a value, not on the values.
-/
import GrammarBindings.Proofs.Template.Cutting
import GrammarBindings.Proofs.Template.Render

namespace GrammarBindings

namespace Template

variable {template : String} {subs : Substitution}

/-- The value of a name, empty if it has none. -/
def Substitution.valueOf (subs : Substitution) (name : List Char) : String :=
  (subs.value? name).getD ""

theorem value?_eq_some {name : List Char} (h : subs.hasValue name = true) :
    subs.value? name = some (subs.valueOf name) := by
  obtain ⟨v, hv⟩ := Option.isSome_iff_exists.1 h
  rw [Substitution.valueOf, hv, Option.getD_some]

/-- What is rendered is the cutting of the template with a value in place of each placeholder. -/
theorem render_eq_fill (template : String) (subs : Substitution) :
    render template subs =
      String.ofList ((Cutting.scan subs.hasValue template.toList).fill fun name =>
        (subs.valueOf name).toList) := by
  have hchar (c : Char) : Piece.render subs (.char c) = [c] := rfl
  rw [render_eq, ← Cutting.fill_ofPieces hchar]
  rfl

/-- A name is one of a list of keys. -/
def isKey (keys : List String) (name : List Char) : Bool := keys.contains (String.ofList name)

/-- A template has one leftmost cutting at the words among the keys.  With values for just
    these words, and for whatever names that are empty or hold other characters, rendering
    copies the literals of this cutting and puts the first value of its name in place of each
    placeholder. -/
theorem render_leftmost (template : String) (keys : List String) :
    ∃ c : Cutting, (∀ d : Cutting, d.Leftmost (isKey keys) template.toList ↔ d = c) ∧
      ∀ subs : Substitution,
        (∀ key, key ≠ "" → IsWord key.toList → (key ∈ subs.map Prod.fst ↔ key ∈ keys)) →
        ∃ value : List Char → String,
          (∀ s ∈ c.segments, subs.value? s.name = some (value s.name)) ∧
            render template subs = String.ofList (c.fill fun name => (value name).toList) := by
  refine ⟨Cutting.scan (isKey keys) template.toList, fun d => leftmost_iff_eq_scan, ?_⟩
  intro subs hkeys
  have hscan : Cutting.scan subs.hasValue template.toList =
      Cutting.scan (isKey keys) template.toList := by
    refine scan_congr (fun name hword hne => ?_) template.toList
    have hkey : String.ofList name ∈ subs.map Prod.fst ↔ String.ofList name ∈ keys := by
      apply hkeys
      · intro hempty
        exact hne (String.ofList_inj.1 hempty)
      · rwa [String.toList_ofList]
    rw [hasValue_eq_contains rfl, isKey, Bool.eq_iff_iff, List.contains_iff_mem,
      List.contains_iff_mem, hkey]
  refine ⟨subs.valueOf, fun s hs => ?_, ?_⟩
  · rw [← hscan] at hs
    exact value?_eq_some ((leftmost_scan subs.hasValue template.toList).slots s hs).accepted
  · rw [render_eq_fill, hscan]

/-- Two values for `A`, of which the first one looks like a placeholder, and values for names
    that no placeholder has. -/
def odd : Substitution := [("A", "@B@"), ("", "1"), ("x y", "2"), ("A", "z")]

/-- The theorem at a template in which the markers of placeholders meet stray ones. -/
theorem render_leftmost_odd :
    (∀ key, key ≠ "" → IsWord key.toList → (key ∈ odd.map Prod.fst ↔ key ∈ ["A", "é"])) ∧
      ∃ c : Cutting, c = ⟨[⟨['@'], ['A']⟩, ⟨"B@-@x y@@é".toList, ['A']⟩], "@".toList⟩ ∧
        (∀ d : Cutting, d.Leftmost (isKey ["A", "é"]) "@@A@B@-@x y@@é@A@@".toList ↔ d = c) ∧
        ∃ value : List Char → String,
          (∀ s ∈ c.segments, odd.value? s.name = some (value s.name)) ∧
            render "@@A@B@-@x y@@é@A@@" odd =
              String.ofList (c.fill fun name => (value name).toList) := by
  have hkeys : ∀ key, key ≠ "" → IsWord key.toList →
      (key ∈ odd.map Prod.fst ↔ key ∈ ["A", "é"]) := by
    intro key hne hword
    have hspace : key ≠ "x y" := by
      rintro rfl
      exact absurd hword (by decide)
    have haccent : key ≠ "é" := by
      rintro rfl
      exact absurd hword (by decide)
    simp [odd, hne, hspace, haccent]
  obtain ⟨c, hunique, hrender⟩ := render_leftmost "@@A@B@-@x y@@é@A@@" ["A", "é"]
  have hc : c = ⟨[⟨['@'], ['A']⟩, ⟨"B@-@x y@@é".toList, ['A']⟩], "@".toList⟩ := by
    rw [← (hunique _).1 (leftmost_scan _ _)]
    decide
  exact ⟨hkeys, c, hc, hunique, hrender odd hkeys⟩

end Template

end GrammarBindings
