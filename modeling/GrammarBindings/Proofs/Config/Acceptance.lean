/-
  GrammarBindings.Proofs.Config.Acceptance

  Which documents are configurations.  Those are the ones without problems, which says the same
  as a description of them: one table `grammar` with known keys only, each with a value of its
  type, and no required one left out.  Since a key has one value, the order of the keys does not
  count for what is read.

    * `IsGrammar` — the tables that describe a binding.
    * `documentProblems_eq_nil_iff` — the documents without problems.
    * `ofEntries_perm` — the order of the keys does not count.

  Main result: `parse_outcome`.
-/
import GrammarBindings.Proofs.Config.Problems
import Mathlib.Data.Set.List

namespace GrammarBindings

namespace Config

/-! ## Grammars -/

/-- A value is of the type of a field. -/
def Field.Fits : Field → Toml.Value → Prop
  | .files, v => ∃ paths : List String, v = .array (paths.map .text)
  | .accessors, v =>
    ∃ pairs : List (String × String), entriesOf? v = some (pairs.map fun e => (e.1, .text e.2))
  | _, v => ∃ s, v = .text s

/-- The table of a grammar: each entry is a field with a value of its type, and no required field
    is left out. -/
structure IsGrammar (entries : Toml.Entries) : Prop where
  fields : ∀ e ∈ entries, ∃ f : Field, e.1 = f.key ∧ f.Fits e.2
  required : ∀ f ∈ requiredFields, f.key ∈ entries.map Prod.fst

variable {v : Toml.Value} {entries : Toml.Entries}

theorem forall_mem_exists_iff {α β : Type} (f : α → β) (l : List β) :
    (∀ b ∈ l, ∃ a, b = f a) ↔ ∃ as : List α, l = as.map f := by
  have h := Set.ext_iff.1 (Set.range_list_map f) l
  simpa [eq_comm] using h.symm

theorem textProblems_eq_nil_iff {wanted : Wanted} :
    textProblems wanted v = [] ↔ ∃ s, v = .text s := by
  cases v <;> simp [textProblems]

theorem pathsProblems_eq_nil_iff : pathsProblems v = [] ↔ Field.files.Fits v := by
  cases v with
  | array vs =>
    simp only [pathsProblems, Field.Fits, List.flatMap_eq_nil_iff, textProblems_eq_nil_iff,
      Toml.Value.array.injEq]
    exact forall_mem_exists_iff Toml.Value.text vs
  | text _ | integer _ | float _ | boolean _ | moment _ | table _ =>
    simp [pathsProblems, Field.Fits]

theorem accessorsProblems_eq_nil_iff : accessorsProblems v = [] ↔ Field.accessors.Fits v := by
  unfold accessorsProblems
  simp only [Field.Fits]
  cases entriesOf? v with
  | none => simp
  | some entries =>
    have hpair (e : String × Toml.Value) :
        (∃ s, e.2 = .text s) ↔ ∃ p : String × String, e = (p.1, .text p.2) := by
      constructor
      · rintro ⟨s, hs⟩
        exact ⟨(e.1, s), by rw [← hs]⟩
      · rintro ⟨p, rfl⟩
        exact ⟨p.2, rfl⟩
    simp only [List.flatMap_eq_nil_iff, textProblems_eq_nil_iff, hpair, Option.some.injEq]
    exact forall_mem_exists_iff (fun p : String × String => (p.1, Toml.Value.text p.2)) entries

/-- The values of a field without problems are those of its type. -/
theorem problems_eq_nil_iff (f : Field) : f.problems v = [] ↔ f.Fits v := by
  cases f with
  | name | baseDir | interop | library | package | className => exact textProblems_eq_nil_iff
  | files => exact pathsProblems_eq_nil_iff
  | accessors => exact accessorsProblems_eq_nil_iff

theorem entryProblems_eq_nil_iff {e : String × Toml.Value} :
    entryProblems e = [] ↔ ∃ f : Field, e.1 = f.key ∧ f.Fits e.2 := by
  unfold entryProblems
  constructor
  · intro h
    split at h
    · rename_i f hf
      exact ⟨f, eq_key_of_ofKey? hf, (problems_eq_nil_iff f).1 h⟩
    · cases h
  · rintro ⟨f, hf, hfits⟩
    rw [hf, ofKey?_key]
    exact (problems_eq_nil_iff f).2 hfits

theorem isGrammar_iff :
    entries.flatMap entryProblems ++ missingProblems entries = [] ↔ IsGrammar entries := by
  have hmissing : missingProblems entries = [] ↔
      ∀ f ∈ requiredFields, f.key ∈ entries.map Prod.fst := by
    rw [missingProblems, List.map_eq_nil_iff, List.filter_eq_nil_iff]
    simp only [decide_eq_true_eq, not_not]
  rw [List.append_eq_nil_iff, List.flatMap_eq_nil_iff, hmissing]
  simp only [entryProblems_eq_nil_iff]
  exact ⟨fun h => ⟨h.1, h.2⟩, fun h => ⟨h.fields, h.required⟩⟩

/-- A date or time is a map, but none of a grammar. -/
theorem grammarProblems_eq_nil_iff :
    grammarProblems v = [] ↔ ∃ es, v = .table es ∧ IsGrammar es := by
  cases v with
  | table entries =>
    simp only [Toml.Value.table.injEq, exists_eq_left']
    exact isGrammar_iff
  | moment spelling =>
    have hunknown : Field.ofKey? momentKey = none := by decide
    simp [grammarProblems, entriesOf?, entryProblems, hunknown]
  | text _ | integer _ | float _ | boolean _ | array _ => simp [grammarProblems, entriesOf?]

/-! ## Documents -/

theorem topProblems_eq_nil_iff {e : String × Toml.Value} :
    topProblems e = [] ↔ e.1 = grammarKey ∧ grammarProblems e.2 = [] := by
  unfold topProblems
  by_cases h : e.1 = grammarKey
  · simp [h]
  · simp [h]

/-- The documents without problems. -/
theorem documentProblems_eq_nil_iff (hkeys : (entries.map Prod.fst).Nodup) :
    documentProblems entries = [] ↔ ∃ es, entries = [(grammarKey, .table es)] ∧ IsGrammar es := by
  rw [documentProblems, List.append_eq_nil_iff, List.flatMap_eq_nil_iff]
  simp only [topProblems_eq_nil_iff]
  constructor
  · rintro ⟨htop, hmissing⟩
    cases entries with
    | nil => simp at hmissing
    | cons e rest =>
      obtain ⟨hkey, hproblems⟩ := htop e List.mem_cons_self
      obtain ⟨es, hes, hgrammar⟩ := grammarProblems_eq_nil_iff.1 hproblems
      -- another entry would have the key once more
      have hrest : rest = [] := by
        rw [List.eq_nil_iff_forall_not_mem]
        intro e' he'
        rw [List.map_cons, List.nodup_cons] at hkeys
        apply hkeys.1
        rw [hkey, ← (htop e' (List.mem_cons_of_mem _ he')).1]
        exact List.mem_map_of_mem he'
      refine ⟨es, ?_, hgrammar⟩
      rw [hrest, ← hkey, ← hes]
  · rintro ⟨es, rfl, hgrammar⟩
    refine ⟨fun e he => ?_, by simp⟩
    rw [List.mem_singleton] at he
    subst he
    exact ⟨rfl, grammarProblems_eq_nil_iff.2 ⟨es, rfl, hgrammar⟩⟩

/-! ## The order of the keys -/

theorem IsGrammar.perm {es es' : Toml.Entries} (h : IsGrammar es) (hperm : es.Perm es') :
    IsGrammar es' := by
  refine ⟨fun e he => h.fields e (hperm.mem_iff.2 he), fun f hf => ?_⟩
  exact (hperm.map Prod.fst).mem_iff.1 (h.required f hf)

/-- A configuration holds what is written under its keys. -/
theorem value?_ofEntries (hentries : entries.Distinct) {c : Config}
    (h : ofEntries entries = .ok c) (f : Field) :
    c.value? f = (entries.lookup f.key).map asMap := by
  rw [ofEntries, bind_eq_ok] at h
  obtain ⟨d, hd, hfinish⟩ := h
  rw [value?, ← finish_eq_ok_iff.1 hfinish, value?_foldlM hentries hd, Draft.value?_empty,
    Option.or_none]

/-- A configuration is given by the values of its fields. -/
theorem eq_of_value?_eq {c c' : Config} (h : ∀ f, c.value? f = c'.value? f) : c = c' := by
  have hdraft : c.draft = c'.draft := Draft.eq_of_value?_eq h
  have hfinish : c.draft.finish = .ok c' := finish_eq_ok_iff.2 hdraft
  rw [finish_eq_ok_iff.2 rfl, Except.ok.injEq] at hfinish
  exact hfinish

theorem exists_ofEntries_iff (hentries : entries.Distinct) :
    (∃ c, ofEntries entries = .ok c) ↔ IsGrammar entries := by
  rw [(reports_ofEntries hentries).exists_ok_iff, isGrammar_iff]

/-- Tables with the same entries in another order describe the same configuration. -/
theorem ofEntries_perm {es es' : Toml.Entries} (hes : es.Distinct) (hes' : es'.Distinct)
    (hperm : es.Perm es') {c : Config} (h : ofEntries es = .ok c) : ofEntries es' = .ok c := by
  have hgrammar := (exists_ofEntries_iff hes).1 ⟨c, h⟩
  obtain ⟨c', hc'⟩ := (exists_ofEntries_iff hes').2 (hgrammar.perm hperm)
  have hlookup (key : String) : es.lookup key = es'.lookup key := by
    refine Option.ext fun v => ?_
    rw [Toml.lookup_eq_some_iff hes.keys, Toml.lookup_eq_some_iff hes'.keys, hperm.mem_iff]
  have hc : c = c' := by
    refine eq_of_value?_eq fun f => ?_
    rw [value?_ofEntries hes h, value?_ofEntries hes' hc', hlookup]
  rw [hc, hc']

/-- A document with one grammar is what its table is. -/
theorem ofDocument_singleton (es : Toml.Entries) :
    ofDocument [(grammarKey, .table es)] = ofEntries es := by
  simp only [ofDocument, List.foldlM_cons, List.foldlM_nil, readTop, if_pos, ofValue, entriesOf?]
  cases ofEntries es <;> rfl

/-! ## Texts -/

theorem parse_of_parse? {text : String} (h : Toml.parse? text = some entries) :
    parse text = (ofDocument entries).mapError .problem := by
  rw [parse, h]

theorem parse_eq_notToml_iff {text : String} :
    parse text = .error .notToml ↔ Toml.parse? text = none := by
  cases h : Toml.parse? text with
  | none => simp [parse, h]
  | some entries =>
    rw [parse_of_parse? h]
    cases ofDocument entries <;> simp [Except.mapError]

theorem parse_eq_ok_iff {text : String} (h : Toml.parse? text = some entries) {c : Config} :
    parse text = .ok c ↔ ofDocument entries = .ok c := by
  rw [parse_of_parse? h]
  cases ofDocument entries <;> simp [Except.mapError]

theorem parse_eq_error_iff {text : String} (h : Toml.parse? text = some entries)
    {e : ParseError} :
    parse text = .error e ↔ ∃ p, e = .problem p ∧ ofDocument entries = .error p := by
  rw [parse_of_parse? h]
  cases ofDocument entries <;> simp [Except.mapError, eq_comm]

theorem distinct_grammar {text : String} {es : Toml.Entries}
    (h : Toml.parse? text = some [(grammarKey, .table es)]) : es.Distinct := by
  cases (Toml.distinct_parse? h).values _ List.mem_cons_self with
  | table hkeys hvalues => exact ⟨hkeys, hvalues⟩

/-- What reading a text comes to.  A text that is not read as TOML is refused as such.  A
    document whose grammar is not given as an array is a configuration if its only entry is a
    table `grammar` as described by `IsGrammar`, in which the order of the keys does not count;
    of any other one the first problem is reported. -/
theorem parse_outcome (text : String) :
    (parse text = .error .notToml ↔ Toml.parse? text = none) ∧
    ∀ entries, Toml.parse? text = some entries → NoArray entries →
      ((∃ c, parse text = .ok c) ↔
        ∃ es, entries = [(grammarKey, .table es)] ∧ IsGrammar es) ∧
      (∀ e, parse text = .error e ↔
        ∃ p, e = .problem p ∧ (documentProblems entries).head? = some p) ∧
      ∀ es es' other c, entries = [(grammarKey, .table es)] → es.Perm es' →
        Toml.parse? other = some [(grammarKey, .table es')] →
        parse text = .ok c → parse other = .ok c := by
  refine ⟨parse_eq_notToml_iff, fun entries hparse harray => ?_⟩
  have hdistinct := Toml.distinct_parse? hparse
  have hreports := reports_ofDocument hdistinct harray
  refine ⟨?_, fun e => ?_, ?_⟩
  · simp only [parse_eq_ok_iff hparse]
    rw [hreports.exists_ok_iff, documentProblems_eq_nil_iff hdistinct.keys]
  · simp only [parse_eq_error_iff hparse, hreports.eq_error_iff]
  · rintro es es' other c rfl hperm hother hok
    rw [parse_eq_ok_iff hparse, ofDocument_singleton] at hok
    rw [parse_eq_ok_iff hother, ofDocument_singleton]
    exact ofEntries_perm (distinct_grammar hparse) (distinct_grammar hother) hperm hok

/-- The name may stand behind the other fields as well as in front of them; and of a wrong value,
    an unknown key and three missing ones the first is reported. -/
theorem parse_outcome_moved_name :
    parse "[grammar]\nfiles = []\npackage_name = \"p\"\nclass_name = \"D\"\nname = \"d\"\n" =
      parse "[grammar]\nname = \"d\"\nfiles = []\npackage_name = \"p\"\nclass_name = \"D\"\n" ∧
    parse "[grammar]\nname = []\nnick = \"n\"\n" =
      .error (.problem (.mismatch .sequence .text)) := by
  constructor
  · have hfront : Toml.parse? _ = some [(grammarKey, .table [("name", .text "d"),
        ("files", .array []), ("package_name", .text "p"), ("class_name", .text "D")])] :=
      Toml.parse?_table (σ := .standard) grammarWritten
        [(Field.name.written, .text "d"), (Field.files.written, .texts []),
          (Field.package.written, .text "p"), (Field.className.written, .text "D")] (by decide)
    have hbehind : Toml.parse? _ = some [(grammarKey, .table [("files", .array []),
        ("package_name", .text "p"), ("class_name", .text "D"), ("name", .text "d")])] :=
      Toml.parse?_table (σ := .standard) grammarWritten
        [(Field.files.written, .texts []), (Field.package.written, .text "p"),
          (Field.className.written, .text "D"), (Field.name.written, .text "d")] (by decide)
    have hgrammar : IsGrammar [("name", .text "d"), ("files", .array []),
        ("package_name", .text "p"), ("class_name", .text "D")] := by
      rw [← isGrammar_iff]
      rfl
    obtain ⟨hok, -, horder⟩ := (parse_outcome _).2 _ hfront (by simp [NoArray])
    obtain ⟨c, hc⟩ := hok.2 ⟨_, rfl, hgrammar⟩
    exact (horder _ _ _ c rfl (List.perm_append_singleton _ _).symm hbehind hc).trans hc.symm
  · have hread : Toml.parse? _ = some [(grammarKey, .table [("name", .array []),
        ("nick", .text "n")])] :=
      Toml.parse?_table (σ := .standard) grammarWritten
        [(Field.name.written, .texts []), (.bare "nick" (by decide) (by decide), .text "n")]
        (by decide)
    obtain ⟨-, herror, -⟩ := (parse_outcome _).2 _ hread (by simp [NoArray])
    exact (herror _).2 ⟨_, rfl, rfl⟩

end Config

end GrammarBindings
