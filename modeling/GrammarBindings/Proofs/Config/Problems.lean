/-
  GrammarBindings.Proofs.Config.Problems

  The problems of a document that is no configuration.  They are listed entry by entry in the
  order of the document, those of a value in front of those of the next entry and missing
  fields behind all entries.  Reading a configuration gives the first of them, or succeeds if
  there are none.

    * `Reports` — a result is the first of a list of problems, or a success.
    * `documentProblems` — all problems of a document.
    * `reports_ofDocument` — the result of reading a document is reported in this way.

  Every reader has a list of problems of its own, and `Reports.bind`, `Reports.mapM` and
  `Reports.foldlM` put the lists together as the readers are.
-/
import GrammarBindings.Proofs.Config.Fields

namespace GrammarBindings

namespace Config

/-! ## The first of several problems -/

/-- A result is the first of a list of problems, or a success if there are none. -/
inductive Reports {α : Type} : Except Problem α → List Problem → Prop
  | ok (a : α) : Reports (.ok a) []
  | error (p : Problem) (ps : List Problem) : Reports (.error p) (p :: ps)

namespace Reports

variable {α β : Type} {r : Except Problem α} {ps qs : List Problem}

theorem exists_ok_iff (h : Reports r ps) : (∃ a, r = .ok a) ↔ ps = [] := by
  cases h <;> simp

theorem eq_error_iff (h : Reports r ps) (p : Problem) : r = .error p ↔ ps.head? = some p := by
  cases h <;> simp

/-- Behind a success come the problems of what follows. -/
theorem bind {f : α → Except Problem β} (h : Reports r ps)
    (hf : ∀ a, r = .ok a → Reports (f a) qs) : Reports (r >>= f) (ps ++ qs) := by
  cases h with
  | ok a => exact hf a rfl
  | error p ps => exact .error p (ps ++ qs)

/-- What is made of a result has the problems of the result. -/
theorem map (h : Reports r ps) (f : α → β) : Reports (r >>= fun a => pure (f a)) ps := by
  cases h with
  | ok a => exact .ok (f a)
  | error p ps => exact .error p ps

theorem mapM {f : α → Except Problem β} {g : α → List Problem} {as : List α}
    (h : ∀ a, Reports (f a) (g a)) : Reports (as.mapM f) (as.flatMap g) := by
  induction as with
  | nil => exact .ok []
  | cons a as ih =>
    rw [List.mapM_cons, List.flatMap_cons]
    exact (h a).bind fun b _ => ih.map (b :: ·)

theorem foldlM {f : β → α → Except Problem β} {g : α → List Problem} {as : List α}
    (h : ∀ b, ∀ a ∈ as, Reports (f b a) (g a)) (b : β) :
    Reports (as.foldlM f b) (as.flatMap g) := by
  induction as generalizing b with
  | nil => exact .ok b
  | cons a as ih =>
    rw [List.foldlM_cons, List.flatMap_cons]
    exact (h b a List.mem_cons_self).bind fun b' _ =>
      ih (fun b'' a' ha' => h b'' a' (List.mem_cons_of_mem _ ha')) b'

end Reports

/-! ## The problems of values -/

/-- The problem of a value where a text is wanted. -/
def textProblems (wanted : Wanted) : Toml.Value → List Problem
  | .text _ => []
  | v => [.mismatch (.ofValue v) wanted]

/-- The problems of a value where paths are wanted. -/
def pathsProblems : Toml.Value → List Problem
  | .array vs => vs.flatMap (textProblems .path)
  | v => [.mismatch (.ofValue v) .sequence]

/-- The problems of a value where accessors are wanted. -/
def accessorsProblems (v : Toml.Value) : List Problem :=
  match entriesOf? v with
  | some entries => entries.flatMap fun e => textProblems .text e.2
  | none => [.mismatch (.ofValue v) .map]

/-- The problems of the value of a field. -/
def Field.problems : Field → Toml.Value → List Problem
  | .baseDir => textProblems .path
  | .files => pathsProblems
  | .accessors => accessorsProblems
  | .name | .interop | .library | .package | .className => textProblems .text

theorem reports_readText (v : Toml.Value) : Reports (readText v) (textProblems .text v) := by
  cases v <;> constructor

theorem reports_readPath (v : Toml.Value) : Reports (readPath v) (textProblems .path v) := by
  cases v <;> constructor

theorem reports_readPaths (v : Toml.Value) : Reports (readPaths v) (pathsProblems v) := by
  cases v with
  | array vs => exact Reports.mapM reports_readPath
  | text _ | integer _ | float _ | boolean _ | moment _ | table _ => constructor

theorem reports_readAccessors (v : Toml.Value) :
    Reports (readAccessors v) (accessorsProblems v) := by
  unfold readAccessors accessorsProblems
  cases entriesOf? v with
  | none => constructor
  | some entries =>
    have hpair (e : String × Toml.Value) :
        Reports (do return (e.1, ← readText e.2)) (textProblems .text e.2) :=
      (reports_readText e.2).map fun s => (e.1, s)
    exact (Reports.mapM hpair).map Accessors.ofList

theorem reports_read (d : Draft) (f : Field) (v : Toml.Value) :
    Reports (d.read f v) (f.problems v) := by
  cases f with
  | name | interop | library | package | className => exact (reports_readText v).map _
  | baseDir => exact (reports_readPath v).map _
  | files => exact (reports_readPaths v).map _
  | accessors => exact (reports_readAccessors v).map _

/-! ## The problems of a grammar -/

/-- The problems of an entry in a grammar's table. -/
def entryProblems (e : String × Toml.Value) : List Problem :=
  match Field.ofKey? e.1 with
  | some f => f.problems e.2
  | none => [.unknown e.1 (Field.all.map Field.key)]

/-- The fields that have to be there, in the order of their positions. -/
def requiredFields : List Field := [.name, .files, .package, .className]

/-- The problems of a grammar's table with fields that are missing. -/
def missingProblems (entries : Toml.Entries) : List Problem :=
  (requiredFields.filter fun f => f.key ∉ entries.map Prod.fst).map fun f => .missing f.key

/-- The problems of a grammar that is given as a value other than an array. -/
def grammarProblems (v : Toml.Value) : List Problem :=
  match entriesOf? v with
  | some entries => entries.flatMap entryProblems ++ missingProblems entries
  | none => [.mismatch (.ofValue v) .grammar]

theorem reports_readEntry (d : Draft) (e : String × Toml.Value) :
    Reports (d.readEntry e) (entryProblems e) := by
  unfold Draft.readEntry entryProblems
  cases Field.ofKey? e.1 with
  | none => constructor
  | some f => exact reports_read d f e.2

theorem reports_required {α : Type} (f : Field) (o : Option α) :
    Reports (required f o) (if o.isNone then [.missing f.key] else []) := by
  cases o <;> constructor

/-- The first field without a value is reported. -/
theorem reports_finish (d : Draft) :
    Reports d.finish
      ((requiredFields.filter fun f => (d.value? f).isNone).map fun f => .missing f.key) := by
  have hname := reports_required .name d.name
  have hfiles := reports_required .files d.files
  have hpackage := reports_required .package d.package
  have hclass := reports_required .className d.className
  have hall := hname.bind fun name _ => hfiles.bind fun files _ =>
    hpackage.bind fun package _ => hclass.map fun className =>
      Config.mk name d.baseDir files d.interop d.library package className d.accessors
  have hlist : (requiredFields.filter fun f => (d.value? f).isNone).map
      (fun f => Problem.missing f.key) =
        (if d.name.isNone then [.missing Field.name.key] else []) ++
          ((if d.files.isNone then [.missing Field.files.key] else []) ++
            ((if d.package.isNone then [.missing Field.package.key] else []) ++
              if d.className.isNone then [.missing Field.className.key] else [])) := by
    simp only [requiredFields, List.filter_cons, List.filter_nil, Draft.value?, Option.isNone_map]
    split_ifs <;> rfl
  rw [hlist]
  exact hall

/-- A field has no value behind all entries if its key is not among theirs. -/
theorem isNone_value?_foldlM {entries : Toml.Entries} (hentries : entries.Distinct) {d : Draft}
    (h : entries.foldlM Draft.readEntry {} = .ok d) (f : Field) :
    (d.value? f).isNone ↔ f.key ∉ entries.map Prod.fst := by
  rw [value?_foldlM hentries h, Draft.value?_empty, Option.or_none, Option.isNone_map,
    Option.isNone_iff_eq_none, Toml.lookup_eq_none_iff]

theorem reports_ofEntries {entries : Toml.Entries} (hentries : entries.Distinct) :
    Reports (ofEntries entries) (entries.flatMap entryProblems ++ missingProblems entries) := by
  have hfold : Reports (entries.foldlM Draft.readEntry {}) (entries.flatMap entryProblems) :=
    Reports.foldlM (fun d e _ => reports_readEntry d e) {}
  refine hfold.bind fun d hd => ?_
  have hmissing : missingProblems entries =
      (requiredFields.filter fun f => (d.value? f).isNone).map fun f => .missing f.key := by
    rw [missingProblems]
    congr 1
    refine List.filter_congr fun f _ => ?_
    rw [Bool.eq_iff_iff, decide_eq_true_iff, isNone_value?_foldlM hentries hd]
  rw [hmissing]
  exact reports_finish d

theorem distinct_entriesOf? {v : Toml.Value} {entries : Toml.Entries} (hv : v.Distinct)
    (h : entriesOf? v = some entries) : entries.Distinct := by
  cases hv with
  | moment spelling =>
    cases h
    exact ⟨by simp, by simp [Toml.Value.Distinct.text]⟩
  | table hkeys hvalues =>
    cases h
    exact ⟨hkeys, hvalues⟩
  | text _ | integer _ | float _ | boolean _ | array _ => cases h

theorem reports_ofValue {v : Toml.Value} (hv : v.Distinct) (harray : ∀ vs, v ≠ .array vs) :
    Reports (ofValue v) (grammarProblems v) := by
  cases v with
  | array vs => exact absurd rfl (harray vs)
  | text _ | integer _ | float _ | boolean _ => constructor
  | moment spelling =>
    exact reports_ofEntries (distinct_entriesOf? hv rfl)
  | table entries => exact reports_ofEntries (distinct_entriesOf? hv rfl)

/-! ## The problems of a document -/

/-- The problems of an entry of a document. -/
def topProblems (e : String × Toml.Value) : List Problem :=
  if e.1 = grammarKey then grammarProblems e.2 else [.unknown e.1 [grammarKey]]

/-- The problems of a document. -/
def documentProblems (entries : Toml.Entries) : List Problem :=
  entries.flatMap topProblems ++
    if grammarKey ∈ entries.map Prod.fst then [] else [.missing grammarKey]

/-- A document whose grammar is not given as an array. -/
def NoArray (entries : Toml.Entries) : Prop := ∀ vs, (grammarKey, .array vs) ∉ entries

theorem reports_readTop {entries : Toml.Entries} (hentries : entries.Distinct)
    (harray : NoArray entries) (c : Option Config) (e : String × Toml.Value) (he : e ∈ entries) :
    Reports (readTop c e) (topProblems e) := by
  obtain ⟨key, v⟩ := e
  unfold readTop topProblems
  by_cases hkey : key = grammarKey
  · subst hkey
    rw [if_pos rfl, if_pos rfl]
    have hv (vs : List Toml.Value) : v ≠ .array vs := by
      rintro rfl
      exact harray vs he
    exact (reports_ofValue (hentries.values _ he) hv).map some
  · rw [if_neg hkey, if_neg hkey]
    constructor

/-- A grammar is found if there is an entry at all. -/
theorem foldlM_readTop {entries : Toml.Entries} {start found : Option Config}
    (h : entries.foldlM readTop start = .ok found) :
    (∀ e ∈ entries, e.1 = grammarKey) ∧ (found = none → entries = []) := by
  induction entries generalizing start with
  | nil => exact ⟨by simp, fun _ => rfl⟩
  | cons e es ih =>
    rw [List.foldlM_cons, bind_eq_ok] at h
    obtain ⟨first, hfirst, hrest⟩ := h
    unfold readTop at hfirst
    split at hfirst
    · rename_i hkey
      refine ⟨List.forall_mem_cons.2 ⟨hkey, (ih hrest).1⟩, fun hnone => ?_⟩
      obtain ⟨c, -, rfl⟩ := bind_pure_eq_ok.1 hfirst
      -- no entry would be left, so the grammar of `e` would have been found
      have hnil := (ih hrest).2 hnone
      subst hnil
      rw [hnone] at hrest
      cases hrest
    · cases hfirst

/-- Reading a document gives the first of its problems. -/
theorem reports_ofDocument {entries : Toml.Entries} (hentries : entries.Distinct)
    (harray : NoArray entries) : Reports (ofDocument entries) (documentProblems entries) := by
  have hfold : Reports (entries.foldlM readTop none) (entries.flatMap topProblems) :=
    Reports.foldlM (reports_readTop hentries harray) none
  refine hfold.bind fun found hfound => ?_
  obtain ⟨hkeys, hnone⟩ := foldlM_readTop hfound
  cases found with
  | none =>
    rw [hnone rfl]
    constructor
  | some c =>
    cases entries with
    | nil => cases hfound
    | cons e es =>
      have hmem : grammarKey ∈ (e :: es).map Prod.fst := by
        rw [List.map_cons, hkeys e List.mem_cons_self]
        exact List.mem_cons_self
      rw [if_pos hmem]
      constructor

end Config

end GrammarBindings
