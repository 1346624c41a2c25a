/-
  GrammarBindings.Accessors

  The accessors of a binding: names of Kotlin functions, each with the C
  function that it calls, in the order in which they were given.
-/

namespace GrammarBindings

/-- An ordered table from accessor names to C functions; no name occurs twice. -/
structure Accessors where
  entries : List (String × String)
  distinct : (entries.map Prod.fst).Nodup
  deriving DecidableEq

namespace Accessors

/-! ## Building a table -/

/-- No accessors. -/
def empty : Accessors := ⟨[], List.nodup_nil⟩

/-- One accessor. -/
def single (name function : String) : Accessors :=
  ⟨[(name, function)], by simp⟩

/-- The entries with the function of `name` replaced. -/
def replaced (entries : List (String × String)) (name function : String) :
    List (String × String) :=
  entries.map fun e => if e.1 = name then (name, function) else e

theorem map_fst_replaced (entries : List (String × String)) (name function : String) :
    (replaced entries name function).map Prod.fst = entries.map Prod.fst := by
  induction entries with
  | nil => rfl
  | cons e es ih =>
    by_cases h : e.1 = name
    · simpa [replaced, h] using ih
    · simpa [replaced, h] using ih

/-- The table with `function` under `name`: a name that is there keeps its
    place, a new one goes to the end. -/
def insert (t : Accessors) (name function : String) : Accessors :=
  if h : name ∈ t.entries.map Prod.fst then
    ⟨replaced t.entries name function, by rw [map_fst_replaced]; exact t.distinct⟩
  else
    ⟨t.entries ++ [(name, function)], by
      rw [List.map_append, List.nodup_append]
      refine ⟨t.distinct, by simp, fun a ha b hb => ?_⟩
      simp only [List.map_cons, List.map_nil, List.mem_singleton] at hb
      subst hb
      exact fun he => h (he ▸ ha)⟩

/-- The table with all pairs of a list inserted one by one. -/
def ofList (pairs : List (String × String)) : Accessors :=
  pairs.foldl (fun t e => t.insert e.1 e.2) empty

/-! ## Reading a table -/

/-- The names of the accessors. -/
def names (t : Accessors) : List String := t.entries.map Prod.fst

/-- The C functions, one for each accessor. -/
def functions (t : Accessors) : List String := t.entries.map Prod.snd

/-- The C functions, each once, in the order of their first occurrence. -/
def distinctFunctions (t : Accessors) : List String := t.functions.eraseDups

end Accessors

end GrammarBindings
