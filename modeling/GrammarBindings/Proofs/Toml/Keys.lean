/-
  GrammarBindings.Proofs.Toml.Keys

  The keys of a table in a document are different.  A line adds to the tables that the lines
  before it made, by one operation on one table; each operation checks that the key is new or
  puts something else under a key that is there.  So the keys stay different from line to line,
  and those of tables between braces are different since these are made in the same way.

    * `Nodes.Distinct` — the invariant of the tables under construction.
    * `distinct_assign`, `distinct_changeAt`, `distinct_addSection` — what the operations keep.
    * `distinct_value` — the values that are read.

  Main lemma: `distinct_parse?`.
-/
import GrammarBindings.Proofs.Result
import GrammarBindings.Toml.Reader
import Mathlib.Data.List.Nodup

namespace GrammarBindings.Toml

/-! ## Values with different keys -/

/-- No table in a value has a key twice. -/
inductive Value.Distinct : Value → Prop
  | text (s : String) : Distinct (.text s)
  | integer (n : Int) : Distinct (.integer n)
  | float (x : Binary64) : Distinct (.float x)
  | boolean (b : Bool) : Distinct (.boolean b)
  | moment (spelling : String) : Distinct (.moment spelling)
  | array {items : List Value} (h : ∀ v ∈ items, v.Distinct) : Distinct (.array items)
  | table {entries : Entries} (hkeys : (entries.map Prod.fst).Nodup)
      (h : ∀ e ∈ entries, e.2.Distinct) : Distinct (.table entries)

/-- No key occurs twice among entries or in a table in one of them. -/
structure Entries.Distinct (entries : Entries) : Prop where
  keys : (entries.map Prod.fst).Nodup
  values : ∀ e ∈ entries, e.2.Distinct

/-- No table of a node has a key twice. -/
inductive Node.Distinct : Node → Prop
  | value {v : Value} (h : v.Distinct) : Distinct (.value v)
  | table {origin : Origin} {entries : Nodes} (hkeys : (entries.map Prod.fst).Nodup)
      (h : ∀ e ∈ entries, e.2.Distinct) : Distinct (.table origin entries)
  | tables {elements : List Nodes} (hkeys : ∀ entries ∈ elements, (entries.map Prod.fst).Nodup)
      (h : ∀ entries ∈ elements, ∀ e ∈ entries, e.2.Distinct) : Distinct (.tables elements)

/-- No key occurs twice among the entries of a table under construction or in a table in one of
    them. -/
structure Nodes.Distinct (entries : Nodes) : Prop where
  keys : (entries.map Prod.fst).Nodup
  nodes : ∀ e ∈ entries, e.2.Distinct

/-! ## From nodes to values -/

theorem toEntries_eq_map (entries : Nodes) :
    Node.toEntries entries = entries.map fun e => (e.1, e.2.toValue) := by
  induction entries with
  | nil => rfl
  | cons e es ih => rw [Node.toEntries, ih, List.map_cons]

theorem toTables_eq_map (elements : List Nodes) :
    Node.toTables elements = elements.map fun entries => .table (Node.toEntries entries) := by
  induction elements with
  | nil => rfl
  | cons entries elements ih => rw [Node.toTables, ih, List.map_cons]

theorem map_fst_toEntries (entries : Nodes) :
    (Node.toEntries entries).map Prod.fst = entries.map Prod.fst := by
  rw [toEntries_eq_map, List.map_map]
  rfl

theorem Node.Distinct.toValue {node : Node} (h : node.Distinct) : node.toValue.Distinct := by
  have htable {entries : Nodes} (hkeys : (entries.map Prod.fst).Nodup)
      (hvalues : ∀ e ∈ entries, e.2.toValue.Distinct) :
      (Value.table (Node.toEntries entries)).Distinct := by
    refine .table (by rwa [map_fst_toEntries]) fun e he => ?_
    rw [toEntries_eq_map] at he
    obtain ⟨n, hn, rfl⟩ := List.mem_map.1 he
    exact hvalues n hn
  induction h with
  | value h =>
    rw [Node.toValue]
    exact h
  | table hkeys _ ih =>
    rw [Node.toValue]
    exact htable hkeys ih
  | tables hkeys _ ih =>
    rw [Node.toValue, toTables_eq_map]
    refine .array fun v hv => ?_
    obtain ⟨entries, hentries, rfl⟩ := List.mem_map.1 hv
    exact htable (hkeys entries hentries) (ih entries hentries)

theorem Nodes.Distinct.toEntries {entries : Nodes} (h : entries.Distinct) :
    (Node.toEntries entries).Distinct := by
  refine ⟨by rw [map_fst_toEntries]; exact h.keys, fun e he => ?_⟩
  rw [toEntries_eq_map] at he
  obtain ⟨n, hn, rfl⟩ := List.mem_map.1 he
  exact (h.nodes n hn).toValue

/-! ## Operations on a table -/

theorem mem_of_lookup {β : Type} {entries : List (String × β)} {key : String} {b : β}
    (h : entries.lookup key = some b) : (key, b) ∈ entries := by
  obtain ⟨before, behind, rfl, -⟩ := List.lookup_eq_some_iff.1 h
  exact List.mem_append_right _ List.mem_cons_self

theorem lookup_eq_none_iff {β : Type} {entries : List (String × β)} {key : String} :
    entries.lookup key = none ↔ key ∉ entries.map Prod.fst := by
  rw [List.lookup_eq_none_iff, List.mem_map]
  constructor
  · rintro h ⟨e, he, rfl⟩
    have hne := h e he
    simp at hne
  · intro h e he
    rw [bne_iff_ne]
    rintro rfl
    exact h ⟨e, he, rfl⟩

/-- Where the keys are different, what stands under a key is all that is there with it. -/
theorem lookup_eq_some_iff {β : Type} {entries : List (String × β)}
    (hkeys : (entries.map Prod.fst).Nodup) {key : String} {b : β} :
    entries.lookup key = some b ↔ (key, b) ∈ entries := by
  refine ⟨mem_of_lookup, fun hmem => ?_⟩
  cases h : entries.lookup key with
  | none => exact absurd (List.mem_map_of_mem hmem) (lookup_eq_none_iff.1 h)
  | some b' =>
    have heq := List.inj_on_of_nodup_map hkeys (mem_of_lookup h) hmem rfl
    rw [Prod.mk.injEq] at heq
    rw [heq.2]

namespace Nodes

variable {entries out : Nodes} {key : String} {node : Node} {path : List String} {v : Value}

theorem distinct_nil : Distinct [] := ⟨List.nodup_nil, fun _ he => absurd he List.not_mem_nil⟩

/-- A new key comes to the end. -/
theorem Distinct.append (h : entries.Distinct) (hnew : key ∉ entries.map Prod.fst)
    (hnode : node.Distinct) : Distinct (entries ++ [(key, node)]) := by
  refine ⟨?_, fun e he => ?_⟩
  · rw [List.map_append, List.nodup_append]
    refine ⟨h.keys, by simp, fun a ha b hb heq => ?_⟩
    rw [List.map_singleton, List.mem_singleton] at hb
    rw [heq, hb] at ha
    exact hnew ha
  · rcases List.mem_append.1 he with he | he
    · exact h.nodes e he
    · rw [List.mem_singleton.1 he]
      exact hnode

theorem map_fst_replace : (replace key node entries).map Prod.fst = entries.map Prod.fst := by
  rw [replace, List.map_map]
  refine List.map_congr_left fun e _ => ?_
  by_cases h : e.1 = key
  · rw [Function.comp_apply, if_pos h, h]
  · rw [Function.comp_apply, if_neg h]

/-- Another node under a key leaves the keys as they are. -/
theorem Distinct.replace (h : entries.Distinct) (hnode : node.Distinct) :
    (Nodes.replace key node entries).Distinct := by
  refine ⟨by rw [map_fst_replace]; exact h.keys, fun e he => ?_⟩
  obtain ⟨e', he', rfl⟩ := List.mem_map.1 he
  by_cases heq : e'.1 = key
  · rw [if_pos heq]
    exact hnode
  · rw [if_neg heq]
    exact h.nodes e' he'

theorem Distinct.remove (h : entries.Distinct) : (Nodes.remove key entries).Distinct :=
  ⟨h.keys.sublist (List.filter_sublist.map _), fun e he => h.nodes e (List.mem_filter.1 he).1⟩

theorem key_notMem_remove : key ∉ (remove key entries).map Prod.fst := by
  intro hmem
  obtain ⟨e, he, rfl⟩ := List.mem_map.1 hmem
  have hne := (List.mem_filter.1 he).2
  simp at hne

/-- A change that keeps the keys of a table different. -/
def Keeps (change : Nodes → Option Nodes) : Prop :=
  ∀ entries out : Nodes, entries.Distinct → change entries = some out → out.Distinct

/-- The node of a table that was changed. -/
theorem Distinct.table (h : entries.Distinct) {origin : Origin} :
    (Node.table origin entries).Distinct :=
  .table h.keys h.nodes

theorem Distinct.table_inner {origin : Origin} {inner : Nodes}
    (h : (Node.table origin inner).Distinct) : inner.Distinct := by
  cases h with
  | table hkeys hnodes => exact ⟨hkeys, hnodes⟩

theorem Distinct.tables {elements : List Nodes} (h : ∀ entries ∈ elements, entries.Distinct) :
    (Node.tables elements).Distinct :=
  .tables (fun entries hentries => (h entries hentries).keys)
    fun entries hentries => (h entries hentries).nodes

theorem Distinct.tables_element {elements : List Nodes} (h : (Node.tables elements).Distinct) :
    ∀ entries ∈ elements, entries.Distinct := by
  cases h with
  | tables hkeys hnodes =>
    exact fun entries hentries => ⟨hkeys entries hentries, hnodes entries hentries⟩

theorem distinct_changeLast {elements changed : List Nodes} {change : Nodes → Option Nodes}
    (hchange : Keeps change) (h : ∀ entries ∈ elements, entries.Distinct)
    (heq : changeLast change elements = some changed) :
    ∀ entries ∈ changed, entries.Distinct := by
  simp only [changeLast, Option.bind_eq_bind, Option.bind_eq_some_iff, Option.pure_def,
    Option.some.injEq] at heq
  obtain ⟨last, hlast, out, hout, rfl⟩ := heq
  intro entries hentries
  rcases List.mem_append.1 hentries with hentries | hentries
  · exact h entries (List.dropLast_subset _ hentries)
  · rw [List.mem_singleton.1 hentries]
    exact hchange last out (h last (List.mem_of_getLast? hlast)) hout

/-- A table with a value put under a dotted key. -/
theorem distinct_assign (hv : v.Distinct) (path : List String) (key : String) :
    Keeps fun entries => entries.assign path key v := by
  induction path with
  | nil =>
    intro entries out h heq
    simp only [assign] at heq
    split at heq
    · cases heq
    · rename_i hnone
      rw [Option.not_isSome_iff_eq_none] at hnone
      cases heq
      exact h.append (lookup_eq_none_iff.1 hnone) (.value hv)
  | cons part path ih =>
    intro entries out h heq
    simp only [assign] at heq
    -- what stands under the first part of the key
    split at heq
    · rename_i hnone
      obtain ⟨inner, hinner, rfl⟩ := bind_pure_eq_some.1 heq
      exact h.append (lookup_eq_none_iff.1 hnone) (ih [] inner distinct_nil hinner).table
    · rename_i origin inner hsome
      split at heq
      · cases heq
      · obtain ⟨changed, hchanged, rfl⟩ := bind_pure_eq_some.1 heq
        have hinner := Distinct.table_inner (h.nodes _ (mem_of_lookup hsome))
        exact h.replace (ih inner changed hinner hchanged).table
    · rename_i elements hsome
      split at heq
      · cases heq
      · obtain ⟨changed, hchanged, rfl⟩ := bind_pure_eq_some.1 heq
        have helements := Distinct.tables_element (h.nodes _ (mem_of_lookup hsome))
        exact h.replace (Distinct.tables (distinct_changeLast ih helements hchanged))
    · cases heq

/-- A table with a change made at the end of a header's way. -/
theorem distinct_changeAt {change : Nodes → Option Nodes} (hchange : Keeps change)
    (path : List String) : Keeps fun entries => entries.changeAt path change := by
  induction path with
  | nil =>
    intro entries out h heq
    exact hchange entries out h heq
  | cons part path ih =>
    intro entries out h heq
    simp only [changeAt] at heq
    split at heq
    · rename_i hnone
      obtain ⟨inner, hinner, rfl⟩ := bind_pure_eq_some.1 heq
      exact h.append (lookup_eq_none_iff.1 hnone) (ih [] inner distinct_nil hinner).table
    · rename_i origin inner hsome
      obtain ⟨changed, hchanged, rfl⟩ := bind_pure_eq_some.1 heq
      have hinner := Distinct.table_inner (h.nodes _ (mem_of_lookup hsome))
      exact h.replace (ih inner changed hinner hchanged).table
    · rename_i elements hsome
      obtain ⟨changed, hchanged, rfl⟩ := bind_pure_eq_some.1 heq
      have helements := Distinct.tables_element (h.nodes _ (mem_of_lookup hsome))
      exact h.replace (Distinct.tables (distinct_changeLast ih helements hchanged))
    · cases heq

theorem distinct_assignAll {lines : List Assignment} (hlines : ∀ a ∈ lines, a.value.Distinct) :
    Keeps fun entries => entries.assignAll lines := by
  induction lines with
  | nil =>
    intro entries out h heq
    cases heq
    exact h
  | cons a lines ih =>
    intro entries out h heq
    simp only [assignAll, List.foldlM_cons, Option.bind_eq_bind, Option.bind_eq_some_iff] at heq
    obtain ⟨first, hfirst, hrest⟩ := heq
    have hafirst : first.Distinct :=
      distinct_assign (hlines a List.mem_cons_self) a.path a.key entries first h hfirst
    exact ih (fun b hb => hlines b (List.mem_cons_of_mem _ hb)) first out hafirst hrest

/-- A table with a section added. -/
theorem distinct_addSection {s : Section} (hlines : ∀ a ∈ s.lines, a.value.Distinct) :
    Keeps fun entries => entries.addSection s := by
  obtain ⟨header, lines⟩ := s
  have hsection := distinct_assignAll hlines
  cases header with
  | table path key =>
    refine distinct_changeAt (fun around out h heq => ?_) path
    simp only at heq
    split at heq
    · rename_i hnone
      obtain ⟨inner, hinner, rfl⟩ := bind_pure_eq_some.1 heq
      exact h.append (lookup_eq_none_iff.1 hnone) (hsection [] inner distinct_nil hinner).table
    · rename_i inner hsome
      obtain ⟨changed, hchanged, rfl⟩ := bind_pure_eq_some.1 heq
      have hinner := Distinct.table_inner (h.nodes _ (mem_of_lookup hsome))
      exact h.remove.append key_notMem_remove (hsection inner changed hinner hchanged).table
    · cases heq
  | element path key =>
    refine distinct_changeAt (fun around out h heq => ?_) path
    simp only at heq
    split at heq
    · rename_i hnone
      obtain ⟨inner, hinner, rfl⟩ := bind_pure_eq_some.1 heq
      refine h.append (lookup_eq_none_iff.1 hnone) (Distinct.tables ?_)
      simpa using hsection [] inner distinct_nil hinner
    · rename_i elements hsome
      obtain ⟨inner, hinner, rfl⟩ := bind_pure_eq_some.1 heq
      have helements := Distinct.tables_element (h.nodes _ (mem_of_lookup hsome))
      refine h.replace (Distinct.tables fun entries hentries => ?_)
      rcases List.mem_append.1 hentries with hentries | hentries
      · exact helements entries hentries
      · rw [List.mem_singleton.1 hentries]
        exact hsection [] inner distinct_nil hinner
    · cases heq

end Nodes

/-! ## Documents -/

/-- The lines of a document hold values with different keys. -/
structure Document.Distinct (d : Document) : Prop where
  lines : ∀ a ∈ d.lines, a.value.Distinct
  sections : ∀ s ∈ d.sections, ∀ a ∈ s.lines, a.value.Distinct

theorem Document.Distinct.entries? {d : Document} {entries : Entries} (h : d.Distinct)
    (heq : d.entries? = some entries) : entries.Distinct := by
  have hsections (sections : List Section)
      (hs : ∀ s ∈ sections, ∀ a ∈ s.lines, a.value.Distinct) :
      Nodes.Keeps fun top => sections.foldlM Nodes.addSection top := by
    induction sections with
    | nil =>
      intro top out htop hout
      cases hout
      exact htop
    | cons s sections ih =>
      intro top out htop hout
      simp only [List.foldlM_cons, Option.bind_eq_bind, Option.bind_eq_some_iff] at hout
      obtain ⟨first, hfirst, hrest⟩ := hout
      have hdistinct : first.Distinct :=
        Nodes.distinct_addSection (hs s List.mem_cons_self) top first htop hfirst
      exact ih (fun s' hs' => hs s' (List.mem_cons_of_mem _ hs')) first out hdistinct hrest
  simp only [Document.entries?, Option.bind_eq_bind, Option.bind_eq_some_iff, Option.pure_def,
    Option.some.injEq] at heq
  obtain ⟨top, htop, out, hout, rfl⟩ := heq
  have hdistinct := Nodes.distinct_assignAll h.lines [] top Nodes.distinct_nil htop
  exact (hsections d.sections h.sections top out hdistinct hout).toEntries

theorem distinct_inlineTable? {lines : List Assignment} {v : Value}
    (hlines : ∀ a ∈ lines, a.value.Distinct) (heq : inlineTable? lines = some v) : v.Distinct := by
  simp only [inlineTable?, Option.bind_eq_bind, Option.bind_eq_some_iff, Option.pure_def,
    Option.some.injEq] at heq
  obtain ⟨entries, hentries, rfl⟩ := heq
  have h := (Nodes.distinct_assignAll hlines [] entries Nodes.distinct_nil hentries).toEntries
  exact .table h.keys h.values

/-! ## Reading -/

/-- All that a reader reads has a property. -/
def Reads {α : Type} (r : Reader α) (P : α → Prop) : Prop :=
  ∀ cs a rest, r cs = some (a, rest) → P a

section Readers

variable {item : Reader Value}

theorem reads_assignment (hitem : Reads item Value.Distinct) :
    Reads (assignment item) fun a => a.value.Distinct := by
  intro cs a rest h
  simp only [assignment, Option.bind_eq_bind, Option.bind_eq_some_iff, Option.pure_def,
    Option.some.injEq, Prod.mk.injEq] at h
  obtain ⟨⟨⟨path, key⟩, cs⟩, -, cs', -, ⟨v, cs''⟩, hv, rfl, -⟩ := h
  exact hitem _ _ _ hv

theorem reads_bracketed (hitem : Reads item Value.Distinct) (fuel : Nat) :
    Reads (bracketed item fuel) fun vs => ∀ v ∈ vs, v.Distinct := by
  induction fuel with
  | zero =>
    intro cs vs rest h
    cases h
  | succ fuel ih =>
    intro cs vs rest h
    rw [bracketed] at h
    split at h
    · cases h
      simp
    · simp only [Option.bind_eq_bind, Option.bind_eq_some_iff] at h
      obtain ⟨⟨v, cs⟩, hv, h⟩ := h
      have hfirst : v.Distinct := hitem _ _ _ hv
      simp only at h
      split at h
      · simp only [Option.bind_eq_some_iff, Option.pure_def, Option.some.injEq,
          Prod.mk.injEq] at h
        obtain ⟨⟨vs', cs'⟩, hvs, rfl, -⟩ := h
        exact List.forall_mem_cons.2 ⟨hfirst, ih _ _ _ hvs⟩
      · cases h
        simpa using hfirst
      · cases h

theorem reads_braced (hitem : Reads item Value.Distinct) (fuel : Nat) :
    Reads (braced item fuel) fun lines => ∀ a ∈ lines, a.value.Distinct := by
  induction fuel with
  | zero =>
    intro cs lines rest h
    cases h
  | succ fuel ih =>
    intro cs lines rest h
    simp only [braced, Option.bind_eq_bind, Option.bind_eq_some_iff] at h
    obtain ⟨⟨a, cs⟩, ha, h⟩ := h
    have hfirst : a.value.Distinct := reads_assignment hitem _ _ _ ha
    simp only at h
    split at h
    · simp only [Option.bind_eq_some_iff, Option.pure_def, Option.some.injEq,
        Prod.mk.injEq] at h
      obtain ⟨⟨lines', cs'⟩, hlines, rfl, -⟩ := h
      exact List.forall_mem_cons.2 ⟨hfirst, ih _ _ _ hlines⟩
    · cases h
      simpa using hfirst
    · cases h

end Readers

theorem distinct_wordValue? {w : List Char} {v : Value} (h : wordValue? w = some v) :
    v.Distinct := by
  unfold wordValue? at h
  split at h
  · cases h
    exact .boolean true
  split at h
  · cases h
    exact .boolean false
  simp only [Option.orElse_eq_orElse, Option.orElse_eq_or, Option.or_eq_some_iff,
    Option.map_eq_some_iff] at h
  rcases h with ⟨t, -, rfl⟩ | ⟨-, ⟨x, -, rfl⟩ | ⟨-, n, -, rfl⟩⟩
  · exact .moment _
  · exact .float x
  · exact .integer n

theorem reads_scalar : Reads scalar Value.Distinct := by
  intro cs v rest h
  unfold scalar at h
  simp only at h
  split at h
  · simp only [Option.bind_eq_bind, Option.bind_eq_some_iff, Option.pure_def, Option.some.injEq,
      Prod.mk.injEq] at h
    obtain ⟨w, hw, rfl, -⟩ := h
    exact distinct_wordValue? hw
  · -- a date, and a time that may stand behind a space
    split at h
    · split at h
      · simp only [Option.bind_eq_bind, Option.bind_eq_some_iff, Option.pure_def,
          Option.some.injEq, Prod.mk.injEq] at h
        obtain ⟨time, -, rfl, -⟩ := h
        exact .moment _
      · cases h
        exact .moment _
    · cases h
      exact .moment _
  · split at h
    · simp only [Option.bind_eq_bind, Option.bind_eq_some_iff, Option.pure_def,
        Option.some.injEq, Prod.mk.injEq] at h
      obtain ⟨time, -, rfl, -⟩ := h
      exact .moment _
    · cases h

theorem reads_atom : Reads atom Value.Distinct := by
  intro cs v rest h
  unfold atom at h
  split at h
  · obtain ⟨⟨s, rest'⟩, -, heq⟩ := Option.map_eq_some_iff.1 h
    cases heq
    exact .text s
  · obtain ⟨⟨s, rest'⟩, -, heq⟩ := Option.map_eq_some_iff.1 h
    cases heq
    exact .text s
  · exact reads_scalar cs v rest h

/-- The values that are read hold no table with a key twice. -/
theorem distinct_value (depth : Nat) : Reads (value depth) Value.Distinct := by
  induction depth with
  | zero =>
    rw [value]
    exact reads_atom
  | succ depth ih =>
    intro cs v rest h
    simp only [value] at h
    split at h
    · simp only [Option.bind_eq_bind, Option.bind_eq_some_iff, Option.pure_def,
        Option.some.injEq, Prod.mk.injEq] at h
      obtain ⟨⟨vs, cs'⟩, hvs, rfl, -⟩ := h
      exact .array (reads_bracketed ih _ _ _ _ hvs)
    · split at h
      · cases h
        exact .table List.nodup_nil fun e he => absurd he List.not_mem_nil
      · simp only [Option.bind_eq_bind, Option.bind_eq_some_iff, Option.pure_def,
          Option.some.injEq, Prod.mk.injEq] at h
        obtain ⟨⟨lines, cs'⟩, hlines, v', hv', rfl, -⟩ := h
        exact distinct_inlineTable? (reads_braced ih _ _ _ _ hlines) hv'
    · exact reads_atom cs v rest h

/-- A line holds no value with a key twice. -/
def Line.Distinct : Line → Prop
  | .assignment a => a.value.Distinct
  | _ => True

theorem reads_line : Reads line Line.Distinct := by
  intro cs l rest h
  unfold line at h
  split at h
  · simp only [Option.bind_eq_bind, Option.bind_eq_some_iff, Option.pure_def, Option.some.injEq,
      Prod.mk.injEq] at h
    obtain ⟨-, -, -, -, -, -, -, -, rfl, -⟩ := h
    trivial
  · simp only [Option.bind_eq_bind, Option.bind_eq_some_iff, Option.pure_def, Option.some.injEq,
      Prod.mk.injEq] at h
    obtain ⟨-, -, -, -, -, -, rfl, -⟩ := h
    trivial
  · split at h
    · cases h
      trivial
    · simp only [Option.bind_eq_bind, Option.bind_eq_some_iff, Option.pure_def,
        Option.some.injEq, Prod.mk.injEq] at h
      obtain ⟨⟨a, cs'⟩, ha, -, -, rfl, -⟩ := h
      exact reads_assignment (distinct_value maxDepth) _ _ _ ha

theorem distinct_lines {fuel : Nat} {cs : List Char} {ls : List Line}
    (h : readLines fuel cs = some ls) : ∀ l ∈ ls, l.Distinct := by
  induction fuel generalizing cs ls with
  | zero =>
    cases cs with
    | nil =>
      cases h
      simp
    | cons c cs => cases h
  | succ fuel ih =>
    cases cs with
    | nil =>
      cases h
      simp
    | cons c cs =>
      simp only [readLines, Option.bind_eq_bind, Option.bind_eq_some_iff, Option.pure_def,
        Option.some.injEq] at h
      obtain ⟨⟨l, rest⟩, hl, ls', hls, rfl⟩ := h
      exact List.forall_mem_cons.2 ⟨reads_line _ _ _ hl, ih hls⟩

theorem distinct_ofLines {ls : List Line} (h : ∀ l ∈ ls, l.Distinct) :
    (Document.ofLines ls).Distinct := by
  induction ls with
  | nil => exact ⟨by simp [Document.ofLines], by simp [Document.ofLines]⟩
  | cons l ls ih =>
    rw [List.forall_mem_cons] at h
    have hrest := ih h.2
    cases l with
    | blank => exact hrest
    | header header =>
      refine ⟨by simp [Document.ofLines], ?_⟩
      exact List.forall_mem_cons.2 ⟨hrest.lines, hrest.sections⟩
    | assignment a => exact ⟨List.forall_mem_cons.2 ⟨h.1, hrest.lines⟩, hrest.sections⟩

/-- No table of a document has a key twice. -/
theorem distinct_parse? {text : String} {entries : Entries} (h : parse? text = some entries) :
    entries.Distinct := by
  simp only [parse?, Option.bind_eq_bind, Option.bind_eq_some_iff] at h
  obtain ⟨ls, hls, hentries⟩ := h
  exact (distinct_ofLines (distinct_lines hls)).entries? hentries

end GrammarBindings.Toml
