/-
  GrammarBindings.Proofs.Config.Writing

  Configurations as they are written: a table `grammar` with a line for each field that is there,
  in any order, and a table of its own for the accessors.  Whatever texts the fields hold and
  however their characters are spelled, the configuration is read back from its text.

    * `Style` — what is left open in the writing of a configuration.
    * `text` — the text of a configuration.
    * `parse?_text` — the document that the text holds.

  Main result: `parse_text`.
-/
import GrammarBindings.Proofs.Config.Acceptance

namespace GrammarBindings

namespace Config

/-! ## Written configurations -/

/-- The fields that are written in one line each. -/
def lineFields : List Field := [.name, .baseDir, .files, .interop, .library, .package, .className]

/-- How to write a configuration: the spelling of strings, and the order of the lines. -/
structure Style where
  spelling : Toml.Spelling
  order : List Field
  complete : order.Perm lineFields

/-- The value in the line of a field, unless the field is left out. -/
def item? (c : Config) : Field → Option Toml.WrittenValue
  | .name => some (.text c.name)
  | .baseDir => c.baseDir.map fun p => .text p.text
  | .files => some (.texts (c.files.map Path.text))
  | .interop => c.interop.map .text
  | .library => c.library.map .text
  | .package => some (.text c.package)
  | .className => some (.text c.className)
  | .accessors => none

/-- The lines of the fields that are there. -/
def fieldLines (order : List Field) (c : Config) : List Toml.WrittenLine :=
  order.filterMap fun f => (c.item? f).map (.assignment f.written)

/-- The lines of the accessors, with quotes around their names. -/
def accessorLines (t : Accessors) : List Toml.WrittenLine :=
  .header [grammarWritten] Field.accessors.written (by decide) ::
    t.entries.map fun e => .assignment (.quoted e.1) (.text e.2)

/-- The lines of a configuration. -/
def textLines (order : List Field) (c : Config) : List Toml.WrittenLine :=
  .header [] grammarWritten (by decide) :: fieldLines order c ++
    (c.accessors.map accessorLines).getD []

/-- The text of a configuration. -/
def text (style : Style) (c : Config) : String :=
  Toml.written style.spelling (textLines style.order c)

/-- The style with as few escapes as there can be and the fields in the order of their
    positions. -/
def Style.standard : Style := ⟨.standard, lineFields, .refl _⟩

example :
    text .standard ⟨"d\"", none, [⟨"a"⟩, ⟨"b"⟩], none, none, "p", "D", some (.single "x" "f")⟩ =
      "[grammar]\nname = \"d\\\"\"\nfiles = [\"a\", \"b\"]\npackage_name = \"p\"\n" ++
        "class_name = \"D\"\n[grammar.language_methods]\n\"x\" = \"f\"\n" := by
  rfl

/-! ## The entries of a configuration -/

/-- The fields that are there, as the entries of a table. -/
def entriesIn (order : List Field) (c : Config) : Toml.Entries :=
  order.filterMap fun f => (c.value? f).map (f.key, ·)

section Entries

variable {order : List Field} {c : Config}

theorem mem_entriesIn {key : String} {v : Toml.Value} :
    (key, v) ∈ entriesIn order c ↔ ∃ f ∈ order, f.key = key ∧ c.value? f = some v := by
  simp only [entriesIn, List.mem_filterMap, Option.map_eq_some_iff, Prod.mk.injEq]
  constructor
  · rintro ⟨f, hf, w, hw, rfl, rfl⟩
    exact ⟨f, hf, rfl, hw⟩
  · rintro ⟨f, hf, rfl, hv⟩
    exact ⟨f, hf, v, hv, rfl, rfl⟩

theorem entriesIn_append (fs gs : List Field) (c : Config) :
    entriesIn (fs ++ gs) c = entriesIn fs c ++ entriesIn gs c :=
  List.filterMap_append

theorem nodup_keys_entriesIn (h : order.Nodup) : ((entriesIn order c).map Prod.fst).Nodup := by
  rw [entriesIn, List.map_filterMap]
  refine h.filterMap fun f g key hf hg => ?_
  simp only [Option.map_map, Option.mem_def, Option.map_eq_some_iff, Function.comp_apply] at hf hg
  obtain ⟨v, -, rfl⟩ := hf
  obtain ⟨w, -, hkey⟩ := hg
  exact key_injective hkey.symm

theorem key_notMem_entriesIn {f : Field} (hf : f ∉ order) :
    f.key ∉ (entriesIn order c).map Prod.fst := by
  intro hmem
  obtain ⟨e, he, hkey⟩ := List.mem_map.1 hmem
  obtain ⟨g, hg, hgkey, -⟩ := mem_entriesIn.1 he
  rw [key_injective (hgkey.trans hkey)] at hg
  exact hf hg

/-- Under the key of a field stands its value. -/
theorem lookup_entriesIn (h : order.Nodup) {f : Field} (hf : f ∈ order) :
    (entriesIn order c).lookup f.key = c.value? f := by
  refine Option.ext fun v => ?_
  rw [Toml.lookup_eq_some_iff (nodup_keys_entriesIn h), mem_entriesIn]
  constructor
  · rintro ⟨g, -, hkey, hv⟩
    rwa [← key_injective hkey]
  · intro hv
    exact ⟨f, hf, rfl, hv⟩

/-- The value of a field is of its type. -/
theorem fits_value? {f : Field} {v : Toml.Value} (h : c.value? f = some v) : f.Fits v := by
  cases f with
  | name | package | className =>
    cases h
    exact ⟨_, rfl⟩
  | baseDir | interop | library =>
    obtain ⟨s, -, rfl⟩ := Option.map_eq_some_iff.1 h
    exact ⟨_, rfl⟩
  | files =>
    cases h
    exact ⟨c.files.map Path.text, by rw [pathsValue, List.map_map]; rfl⟩
  | accessors =>
    obtain ⟨t, -, rfl⟩ := Option.map_eq_some_iff.1 h
    exact ⟨t.entries, rfl⟩

/-- The value of a field is no date or time. -/
theorem asMap_value? (f : Field) : (c.value? f).map asMap = c.value? f := by
  cases f with
  | name | files | package | className => rfl
  | baseDir => exact Option.map_map asMap _ c.baseDir
  | interop => exact Option.map_map asMap _ c.interop
  | library => exact Option.map_map asMap _ c.library
  | accessors => exact Option.map_map asMap _ c.accessors

theorem isGrammar_entriesIn (hall : ∀ f, f ∈ order) : IsGrammar (entriesIn order c) := by
  refine ⟨fun e he => ?_, fun f hf => ?_⟩
  · obtain ⟨f, -, hkey, hv⟩ := mem_entriesIn.1 he
    exact ⟨f, hkey.symm, fits_value? hv⟩
  · have hvalue : ∃ v, c.value? f = some v := by
      simp only [requiredFields, List.mem_cons, List.not_mem_nil, or_false] at hf
      rcases hf with rfl | rfl | rfl | rfl <;> exact ⟨_, rfl⟩
    obtain ⟨v, hv⟩ := hvalue
    exact List.mem_map_of_mem (f := Prod.fst) (mem_entriesIn.2 ⟨f, hall f, rfl, hv⟩)

/-- All fields of a configuration, as entries in any order, are read as this configuration. -/
theorem ofEntries_entriesIn (horder : order.Nodup) (hall : ∀ f, f ∈ order)
    (hdistinct : (entriesIn order c).Distinct) : ofEntries (entriesIn order c) = .ok c := by
  obtain ⟨c', hc'⟩ := (exists_ofEntries_iff hdistinct).2 (isGrammar_entriesIn hall)
  have hc : c' = c := by
    refine eq_of_value?_eq fun f => ?_
    rw [value?_ofEntries hdistinct hc', lookup_entriesIn horder (hall f), asMap_value?]
  rw [hc', hc]

end Entries

/-! ## Reading a written configuration -/

section Text

variable {order : List Field} {c : Config}

theorem value?_eq_item? {f : Field} (hf : f ≠ .accessors) :
    c.value? f = (c.item? f).map Toml.WrittenValue.value := by
  cases f with
  | name | package | className => rfl
  | files => simp [value?, draft, Draft.value?, item?, Toml.WrittenValue.value, pathsValue]
  | baseDir | interop | library =>
    rw [item?, Option.map_map]
    rfl
  | accessors => exact absurd rfl hf

theorem map_line_fieldLines (h : .accessors ∉ order) :
    (fieldLines order c).map Toml.WrittenLine.line =
      (Toml.toAssignments (entriesIn order c)).map .assignment := by
  rw [fieldLines, entriesIn, Toml.toAssignments, List.map_filterMap, List.map_filterMap,
    List.map_filterMap]
  refine List.filterMap_congr fun f hf => ?_
  have hne : f ≠ .accessors := by
    rintro rfl
    exact h hf
  rw [value?_eq_item? hne]
  cases c.item? f <;> rfl

theorem map_line_accessorLines (t : Accessors) :
    (accessorLines t).map Toml.WrittenLine.line =
      .header (.table [grammarKey] Field.accessors.key) ::
        (Toml.toAssignments (t.entries.map fun e => (e.1, .text e.2))).map .assignment := by
  rw [accessorLines, Toml.toAssignments, List.map_cons, List.map_map, List.map_map, List.map_map]
  rfl

/-- The text of a configuration holds one table, with the fields that are there. -/
theorem parse?_text (style : Style) (c : Config) :
    Toml.parse? (c.text style) =
      some [(grammarKey, .table (entriesIn (style.order ++ [.accessors]) c))] := by
  obtain ⟨spelling, order, hcomplete⟩ := style
  have hnot : Field.accessors ∉ order := by
    rw [hcomplete.mem_iff]
    decide
  have hkeys : ((entriesIn order c).map Prod.fst).Nodup :=
    nodup_keys_entriesIn (hcomplete.nodup_iff.2 (by decide))
  rw [text, Toml.parse?_written, textLines, List.map_append, List.map_cons, List.cons_append,
    map_line_fieldLines hnot, entriesIn_append]
  -- there is a second section if there are accessors
  cases haccessors : c.accessors with
  | none =>
    have hlast : entriesIn [.accessors] c = [] := by
      simp [entriesIn, value?, draft, Draft.value?, haccessors]
    rw [hlast, List.append_nil, ← Toml.entries?_one hkeys]
    exact congrArg Toml.Document.entries? (Toml.ofLines_section _ _ rfl)
  | some t =>
    have hlast : entriesIn [.accessors] c = [(Field.accessors.key, accessorsValue t)] := by
      simp [entriesIn, value?, draft, Draft.value?, haccessors]
    have hnames : ((t.entries.map fun e => (e.1, Toml.Value.text e.2)).map Prod.fst).Nodup := by
      rw [List.map_map]
      exact t.distinct
    rw [hlast, accessorsValue, ← Toml.entries?_two hkeys (key_notMem_entriesIn hnot) hnames,
      Option.map_some, Option.getD_some, map_line_accessorLines]
    refine congrArg Toml.Document.entries? ?_
    refine (Toml.ofLines_section _ _ ?_).trans ?_
    · rw [Toml.ofLines_last_section]
    · rw [Toml.ofLines_last_section]
      rfl

end Text

/-- Every configuration is read back from its text, with its files and its accessors in the order
    in which they are written. -/
theorem parse_text (style : Style) (c : Config) : parse (c.text style) = .ok c := by
  have hread := parse?_text style c
  have horder : (style.order ++ [Field.accessors]).Perm Field.all := style.complete.append_right _
  rw [parse_eq_ok_iff hread, ofDocument_singleton]
  refine ofEntries_entriesIn (horder.nodup_iff.2 (by decide)) (fun f => ?_) (distinct_grammar hread)
  rw [horder.mem_iff]
  cases f <;> decide

end Config

end GrammarBindings
