/-
  GrammarBindings.Proofs.Config.Fields

  The fields of a configuration against the entries that they are read from.  Each field is
  written as a value under its key; reading an entry gives its field the value that was
  written there and leaves the other fields as they are.

    * `Draft.value?` — the value as which a field of a draft is written.
    * `value?_read_self`, `value?_read_other` — what reading one entry does.
    * `value?_foldlM` — what reading all entries of a table does.
    * `finish_eq_ok_iff` — a draft is finished if it is that of a configuration.
-/
import GrammarBindings.Config
import GrammarBindings.Proofs.Accessors
import GrammarBindings.Proofs.Result
import GrammarBindings.Proofs.Toml.Writing

namespace GrammarBindings

/-! ## Tables of accessors -/

namespace Accessors

variable {t : Accessors} {name function : String}

theorem entries_insert (h : name ∉ t.entries.map Prod.fst) :
    (t.insert name function).entries = t.entries ++ [(name, function)] := by
  rw [insert, dif_neg h]

theorem entries_foldl_insert {pairs : List (String × String)}
    (h : ((t.entries ++ pairs).map Prod.fst).Nodup) :
    (pairs.foldl (fun t e => t.insert e.1 e.2) t).entries = t.entries ++ pairs := by
  induction pairs generalizing t with
  | nil => rw [List.foldl_nil, List.append_nil]
  | cons e pairs ih =>
    have hnew : e.1 ∉ t.entries.map Prod.fst := by
      intro hmem
      rw [List.map_append, List.nodup_append] at h
      exact h.2.2 e.1 hmem e.1 List.mem_cons_self rfl
    have hinsert : (t.insert e.1 e.2).entries = t.entries ++ [e] := entries_insert hnew
    rw [List.foldl_cons, ih, hinsert, List.append_assoc, List.singleton_append]
    rwa [hinsert, List.append_assoc, List.singleton_append]

/-- Pairs with different names are kept in their order. -/
theorem entries_ofList {pairs : List (String × String)} (h : (pairs.map Prod.fst).Nodup) :
    (ofList pairs).entries = pairs := by
  rw [ofList, entries_foldl_insert (by simpa [empty] using h)]
  rfl

end Accessors

namespace Config

/-! ## Values -/

/-- A value as a map where it can be read as one. -/
def asMap : Toml.Value → Toml.Value
  | .moment spelling => .table [(momentKey, .text spelling)]
  | v => v

/-- Paths as they are written. -/
def pathsValue (paths : List Path) : Toml.Value := .array (paths.map fun p => .text p.text)

/-- Accessors as they are written. -/
def accessorsValue (t : Accessors) : Toml.Value :=
  .table (t.entries.map fun e => (e.1, .text e.2))

variable {v : Toml.Value}

theorem entriesOf?_eq_some_iff {entries : Toml.Entries} :
    entriesOf? v = some entries ↔ asMap v = .table entries := by
  cases v <;> simp [entriesOf?, asMap]

theorem keys_of_asMap (hv : v.Distinct) {entries : Toml.Entries} (h : asMap v = .table entries) :
    (entries.map Prod.fst).Nodup := by
  cases hv with
  | moment spelling =>
    cases h
    simp
  | table hkeys _ =>
    cases h
    exact hkeys
  | text _ | integer _ | float _ | boolean _ | array _ => cases h

theorem readText_eq_ok_iff {s : String} : readText v = .ok s ↔ v = .text s := by
  cases v <;> simp [readText, wrong]

theorem readPath_eq_ok_iff {p : Path} : readPath v = .ok p ↔ v = .text p.text := by
  obtain ⟨s⟩ := p
  cases v <;> simp [readPath, wrong]

theorem mapM_eq_ok_iff {α β : Type} {f : α → Except Problem β} {g : β → α}
    (hf : ∀ a b, f a = .ok b ↔ a = g b) {as : List α} {bs : List β} :
    as.mapM f = .ok bs ↔ as = bs.map g := by
  induction as generalizing bs with
  | nil =>
    cases bs <;> simp [pure, Except.pure]
  | cons a as ih =>
    simp only [List.mapM_cons, bind_eq_ok, hf, ih, pure, Except.pure, Except.ok.injEq]
    constructor
    · rintro ⟨b, rfl, bs, rfl, rfl⟩
      rfl
    · intro h
      cases bs with
      | nil => cases h
      | cons b bs =>
        rw [List.map_cons, List.cons.injEq] at h
        exact ⟨b, h.1, bs, h.2, rfl⟩

theorem readPaths_eq_ok_iff {paths : List Path} :
    readPaths v = .ok paths ↔ v = pathsValue paths := by
  cases v <;> simp [readPaths, wrong, pathsValue, mapM_eq_ok_iff fun _ _ => readPath_eq_ok_iff]

/-- Accessors are read from a map without a key twice in the order of its entries. -/
theorem readAccessors_eq_ok_iff (hv : v.Distinct) {t : Accessors} :
    readAccessors v = .ok t ↔ asMap v = accessorsValue t := by
  have hpair (e : String × Toml.Value) (p : String × String) :
      (do return (e.1, ← readText e.2) : Except Problem (String × String)) = .ok p ↔
        e = (p.1, .text p.2) := by
    obtain ⟨name, function⟩ := p
    obtain ⟨key, value⟩ := e
    simp only [bind_pure_eq_ok, readText_eq_ok_iff, Prod.mk.injEq]
    constructor
    · rintro ⟨s, rfl, rfl, rfl⟩
      exact ⟨rfl, rfl⟩
    · rintro ⟨rfl, rfl⟩
      exact ⟨function, rfl, rfl, rfl⟩
  unfold readAccessors
  cases hentries : entriesOf? v with
  | none =>
    simp only [wrong, reduceCtorEq, false_iff]
    intro h
    rw [accessorsValue, ← entriesOf?_eq_some_iff, hentries] at h
    cases h
  | some entries =>
    have hmap := entriesOf?_eq_some_iff.1 hentries
    simp only [bind_pure_eq_ok, mapM_eq_ok_iff hpair, hmap, accessorsValue, Toml.Value.table.injEq]
    constructor
    · rintro ⟨pairs, rfl, rfl⟩
      have hkeys := keys_of_asMap hv hmap
      rw [List.map_map] at hkeys
      rw [Accessors.entries_ofList hkeys]
    · intro h
      refine ⟨t.entries, h, Accessors.eq_of_entries_eq ?_⟩
      rw [Accessors.entries_ofList t.distinct]

/-! ## Fields of a draft -/

namespace Draft

/-- The value as which a field is written. -/
def value? (d : Draft) : Field → Option Toml.Value
  | .name => d.name.map .text
  | .baseDir => d.baseDir.map fun p => .text p.text
  | .files => d.files.map pathsValue
  | .interop => d.interop.map .text
  | .library => d.library.map .text
  | .package => d.package.map .text
  | .className => d.className.map .text
  | .accessors => d.accessors.map accessorsValue

variable {d d' : Draft} {f g : Field}

theorem value?_empty (f : Field) : value? {} f = none := by
  cases f <;> rfl

/-- Reading a field sets it to what the value says. -/
theorem value?_read_self (hv : v.Distinct) (h : d.read f v = .ok d') :
    d'.value? f = some (asMap v) := by
  cases f with
  | name | interop | library | package | className =>
    simp only [read, bind_pure_eq_ok, readText_eq_ok_iff] at h
    obtain ⟨s, rfl, rfl⟩ := h
    rfl
  | baseDir =>
    simp only [read, bind_pure_eq_ok, readPath_eq_ok_iff] at h
    obtain ⟨p, rfl, rfl⟩ := h
    rfl
  | files =>
    simp only [read, bind_pure_eq_ok, readPaths_eq_ok_iff] at h
    obtain ⟨paths, rfl, rfl⟩ := h
    rfl
  | accessors =>
    simp only [read, bind_pure_eq_ok, readAccessors_eq_ok_iff hv] at h
    obtain ⟨t, ht, rfl⟩ := h
    rw [ht]
    rfl

/-- Reading a field changes no other one. -/
theorem value?_read_other (h : d.read f v = .ok d') (hg : g ≠ f) : d'.value? g = d.value? g := by
  cases f with
  | name | baseDir | files | interop | library | package | className | accessors =>
    simp only [read, bind_pure_eq_ok] at h
    obtain ⟨a, -, rfl⟩ := h
    cases g <;> simp [value?] at hg ⊢

/-- A draft is given by the values of its fields. -/
theorem eq_of_value?_eq (h : ∀ f, d.value? f = d'.value? f) : d = d' := by
  have htext : Function.Injective Toml.Value.text := fun s t heq => by cases heq; rfl
  have hpath : Function.Injective fun p : Path => Toml.Value.text p.text := by
    intro p q heq
    obtain ⟨p⟩ := p
    obtain ⟨q⟩ := q
    cases heq
    rfl
  have hpaths : Function.Injective pathsValue := by
    intro ps qs heq
    rw [pathsValue, pathsValue, Toml.Value.array.injEq] at heq
    exact List.map_injective_iff.2 hpath heq
  have haccessors : Function.Injective accessorsValue := by
    intro t u heq
    rw [accessorsValue, accessorsValue, Toml.Value.table.injEq] at heq
    have hpair : Function.Injective fun e : String × String => (e.1, Toml.Value.text e.2) := by
      rintro ⟨a, b⟩ ⟨a', b'⟩ hpair
      cases hpair
      rfl
    exact Accessors.eq_of_entries_eq (List.map_injective_iff.2 hpair heq)
  cases d
  cases d'
  rw [mk.injEq]
  exact ⟨Option.map_injective htext (h .name), Option.map_injective hpath (h .baseDir),
    Option.map_injective hpaths (h .files), Option.map_injective htext (h .interop),
    Option.map_injective htext (h .library), Option.map_injective htext (h .package),
    Option.map_injective htext (h .className), Option.map_injective haccessors (h .accessors)⟩

end Draft

/-! ## Keys -/

theorem ofKey?_key (f : Field) : Field.ofKey? f.key = some f := by
  cases f <;> decide

theorem eq_key_of_ofKey? {key : String} {f : Field} (h : Field.ofKey? key = some f) :
    key = f.key := by
  have hkey := List.find?_some h
  rw [beq_iff_eq] at hkey
  exact hkey.symm

theorem key_injective {f g : Field} (h : f.key = g.key) : f = g := by
  have hkey := ofKey?_key f
  rw [h, ofKey?_key g, Option.some.injEq] at hkey
  exact hkey.symm

/-- The key of a field as it is written, without quotes. -/
def Field.written (f : Field) : Toml.WrittenKey :=
  .bare f.key (by cases f <;> decide) (by cases f <;> decide)

/-- The key of the grammar's table as it is written, without quotes. -/
def grammarWritten : Toml.WrittenKey := .bare grammarKey (by decide) (by decide)

/-! ## Reading a table -/

/-- Only the field of its key is read from an entry. -/
theorem exists_field_of_readEntry {d d' : Draft} {e : String × Toml.Value}
    (h : d.readEntry e = .ok d') : ∃ f : Field, e.1 = f.key ∧ d.read f e.2 = .ok d' := by
  unfold Draft.readEntry at h
  split at h
  · cases h
  · rename_i f hf
    exact ⟨f, eq_key_of_ofKey? hf, h⟩

/-- What all entries of a table say, over what a draft says already. -/
theorem value?_foldlM {entries : Toml.Entries} (hentries : entries.Distinct) {d d' : Draft}
    (h : entries.foldlM Draft.readEntry d = .ok d') (f : Field) :
    d'.value? f = ((entries.lookup f.key).map asMap).or (d.value? f) := by
  obtain ⟨hkeys, hvalues⟩ := hentries
  induction entries generalizing d with
  | nil =>
    cases h
    rfl
  | cons e es ih =>
    rw [List.foldlM_cons, bind_eq_ok] at h
    obtain ⟨first, hfirst, hrest⟩ := h
    obtain ⟨g, hg, hread⟩ := exists_field_of_readEntry hfirst
    rw [List.map_cons, List.nodup_cons] at hkeys
    rw [List.forall_mem_cons] at hvalues
    rw [ih hrest hkeys.2 hvalues.2]
    by_cases hfg : f = g
    · -- no other entry has the same key
      subst hfg
      have hnone : es.lookup f.key = none := by
        rw [Toml.lookup_eq_none_iff, ← hg]
        exact hkeys.1
      rw [hnone, Draft.value?_read_self hvalues.1 hread, List.lookup_cons, hg, beq_self_eq_true]
      rfl
    · have hne : (f.key == e.1) = false := by
        rw [beq_eq_false_iff_ne, hg]
        exact fun heq => hfg (key_injective heq)
      rw [Draft.value?_read_other hread hfg, List.lookup_cons, hne]

/-! ## Finished drafts -/

/-- A configuration as a draft. -/
def draft (c : Config) : Draft where
  name := some c.name
  baseDir := c.baseDir
  files := some c.files
  interop := c.interop
  library := c.library
  package := some c.package
  className := some c.className
  accessors := c.accessors

/-- The value as which a field is written. -/
def value? (c : Config) (f : Field) : Option Toml.Value := c.draft.value? f

theorem required_eq_ok_iff {α : Type} {f : Field} {o : Option α} {a : α} :
    required f o = .ok a ↔ o = some a := by
  cases o <;> simp [required]

theorem finish_eq_ok_iff {d : Draft} {c : Config} : d.finish = .ok c ↔ d = c.draft := by
  constructor
  · intro h
    simp only [Draft.finish, bind_eq_ok, required_eq_ok_iff, pure, Except.pure,
      Except.ok.injEq] at h
    obtain ⟨name, hname, files, hfiles, package, hpackage, className, hclass, rfl⟩ := h
    cases d
    simp only at hname hfiles hpackage hclass
    rw [draft, hname, hfiles, hpackage, hclass]
  · rintro rfl
    rfl

end Config

end GrammarBindings
