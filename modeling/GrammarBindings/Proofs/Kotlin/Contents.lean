/-
  GrammarBindings.Proofs.Kotlin.Contents

  The functions that the Kotlin files of a binding declare and import, when the
  templates are the built-in ones.  A template brings `@METHODS@` and `@IMPORTS@` on
  lines of their own.  On its other lines there are values of one line, which come
  too late to make them declarations or imports.

    * `functionNames_contents` — the functions of a file are those of its methods and
      those of its template.
    * `importedFunctions_contents` — the Kotlin/Native file imports what `@IMPORTS@`
      stands for.
-/
import GrammarBindings.Proofs.Kotlin.FunctionName
import GrammarBindings.Proofs.Template.Render
import Mathlib.Data.List.Count

namespace GrammarBindings

namespace Kotlin

open Identifier Template
open scoped List

/-! ## Beginnings of lines -/

/-- A text behind which a new word begins. -/
def endsWord (s : String) : Bool := s.toList.getLast?.any fun c => !isPart c

theorem words_append_of_endsWord {s : String} (h : endsWord s = true) (t : String) :
    words (s ++ t) = words s ++ words t := by
  obtain ⟨c, hlast, hc⟩ := (Option.any_eq_true _ _).1 h
  obtain ⟨front, hfront⟩ := exists_append_singleton hlast
  have hpart : isPart c = false := by simpa using hc
  have hs : s = front ++ String.singleton c ++ "" := by rw [String.append_empty, hfront]
  have hempty : words "" = [] := by decide
  rw [hs, words_append hpart, hempty, List.append_nil, String.append_empty, words_append hpart]

/-- A line declares no function if its first word behind modifiers is another than `fun`. -/
theorem functionName?_eq_none {start : String} (hends : endsWord start = true)
    (hword : ((words start).dropWhile fun w => decide (w ∈ modifiers)).head?.any
      (fun w => w ≠ "fun") = true) (rest : String) :
    functionName? (start ++ rest) = none := by
  obtain ⟨w, hhead, hw⟩ := (Option.any_eq_true _ _).1 hword
  obtain ⟨ws, hws⟩ := List.head?_eq_some_iff.1 hhead
  -- `w` stays in front of the words of `rest`, also if these begin with `fun`
  rw [functionName?, declaredBy, words_append_of_endsWord hends, List.dropWhile_append, hws]
  cases hrest : ws ++ words rest with
  | nil => simp [hrest, behindFun?]
  | cons name more => simpa [hrest, behindFun?] using hw

/-- A line imports no function if its first word is another than `import`. -/
theorem importedFunction?_eq_none {start : String} (hends : endsWord start = true)
    (hword : (words start).head?.any (fun w => w ≠ "import") = true) (rest : String) :
    importedFunction? (start ++ rest) = none := by
  obtain ⟨w, hhead, hw⟩ := (Option.any_eq_true _ _).1 hword
  obtain ⟨ws, hws⟩ := List.head?_eq_some_iff.1 hhead
  have hne : w ≠ "import" := of_decide_eq_true hw
  rw [importedFunction?, words_append_of_endsWord hends, behindInternal?, hws, if_neg]
  rintro ⟨himport, -⟩
  exact hne (Option.some.inj himport)

/-! ## The lines of a template -/

/-- What `read` finds on the lines that a line of a template is rendered to. -/
def found (read : String → Option String) (subs : Substitution) (line : String) : List String :=
  (lines (render line subs)).filterMap read

section Found

variable {read : String → Option String} {subs : Substitution}

/-- With one line rendered to what is found on `slot` and the others found as they are,
    a template gives what is found on both. -/
theorem filterMap_lines_render {template slot : String} (hslot : slot ∈ lines template)
    (hread : read slot = none)
    (hothers : ∀ line ∈ (lines template).erase slot,
      found read subs line = (read line).toList) :
    ((lines (render template subs)).filterMap read).Perm
      (found read subs slot ++ (lines template).filterMap read) := by
  have hperm : (lines template).Perm (slot :: (lines template).erase slot) :=
    List.perm_cons_erase hslot
  have hplain : ((lines template).erase slot).flatMap (found read subs) =
      ((lines template).erase slot).filterMap read := by
    rw [List.filterMap_eq_flatMap_toList]
    exact List.flatMap_congr hothers
  have hlines : ((lines template).erase slot).filterMap read =
      (slot :: (lines template).erase slot).filterMap read :=
    (List.filterMap_cons_none hread).symm
  -- `slot` is brought to the front, which is where the order is lost
  calc (lines (render template subs)).filterMap read
      = (lines template).flatMap (found read subs) := by
        rw [lines_render, List.filterMap_flatMap]
        rfl
    _ ~ (slot :: (lines template).erase slot).flatMap (found read subs) :=
        hperm.flatMap_right _
    _ = found read subs slot ++ (slot :: (lines template).erase slot).filterMap read := by
        rw [List.flatMap_cons, hplain, hlines]
    _ ~ found read subs slot ++ (lines template).filterMap read :=
        (hperm.symm.filterMap read).append_left _

theorem found_of_lookups {line : String} (hline : OneLine line)
    (hlookups : lookups everyName line.toList = []) :
    found read subs line = (read line).toList := by
  rw [found, render_of_lookups hlookups, hline.lines_eq]
  cases hread : read line with
  | none => rw [List.filterMap_cons_none hread]; rfl
  | some name => rw [List.filterMap_cons_some hread]; rfl

/-- A line that is nothing but a placeholder is rendered to its value. -/
theorem render_slot {slot name value : String} (hslot : slot = "@" ++ name ++ "@")
    (hname : IsWord name.toList) (hne : name ≠ "") (hvalue : subs.lookup name = some value) :
    render slot subs = value := by
  have hline : render ("" ++ "@" ++ name ++ "@" ++ "") subs = "" ++ value ++ "" :=
    render_placeholder List.not_mem_nil hname hne hvalue rfl
  rw [String.empty_append, String.append_empty, String.empty_append, String.append_empty] at hline
  rw [hslot, hline]

theorem found_placeholder {slot name value : String} (hslot : slot = "@" ++ name ++ "@")
    (hname : IsWord name.toList) (hne : name ≠ "") (hvalue : subs.lookup name = some value) :
    found read subs slot = (lines value).filterMap read := by
  rw [found, render_slot hslot hname hne hvalue]

end Found

/-! ## Lines with a value -/

/-- A line with one placeholder: what stands before it, its name and what stands behind. -/
structure ValueLine where
  start : String
  name : String
  rest : String
  deriving DecidableEq

/-- The whole line. -/
def ValueLine.text (line : ValueLine) : String :=
  line.start ++ "@" ++ line.name ++ "@" ++ line.rest

/-- The lines of the built-in templates that get a value of one line. -/
def valueLines : List ValueLine :=
  [⟨"package ", "PACKAGE", ""⟩, ⟨"expect object ", "CLASS", " \x7b"⟩,
    ⟨"actual object ", "CLASS", " \x7b"⟩,
    ⟨"    private const val LIB_NAME = \"", "LIBRARY", "\""⟩,
    ⟨"        System.loadLibrary(\"", "LIBRARY", "\")"⟩]

/-- A line with a value neither declares nor imports a function, whatever the value. -/
theorem read_valueLine {line : ValueLine} (hline : line ∈ valueLines) (rest : String) :
    functionName? (line.start ++ rest) = none ∧ importedFunction? (line.start ++ rest) = none := by
  have hall : ∀ line ∈ valueLines, endsWord line.start = true ∧
      (((words line.start).dropWhile fun w => decide (w ∈ modifiers)).head?.any
        fun w => w ≠ "fun") = true ∧
      ((words line.start).head?.any fun w => w ≠ "import") = true := by decide
  obtain ⟨hends, hfun, himport⟩ := hall line hline
  exact ⟨functionName?_eq_none hends hfun rest, importedFunction?_eq_none hends himport rest⟩

/-- The placeholder of a line is the only one on it. -/
structure ValueLine.Single (line : ValueLine) : Prop where
  start : '@' ∉ line.start.toList
  word : IsWord line.name.toList
  nonempty : line.name ≠ ""
  rest : lookups everyName line.rest.toList = []

theorem ValueLine.Single.render_text {line : ValueLine} (h : line.Single) {subs : Substitution}
    {value : String} (hvalue : subs.lookup line.name = some value) :
    render line.text subs = line.start ++ (value ++ line.rest) := by
  rw [ValueLine.text, render_placeholder h.start h.word h.nonempty hvalue h.rest,
    String.append_assoc]

theorem single_of_mem_valueLines {line : ValueLine} (hline : line ∈ valueLines) :
    line.Single := by
  have hall : ∀ line ∈ valueLines, '@' ∉ line.start.toList ∧ IsWord line.name.toList ∧
      line.name ≠ "" ∧ lookups everyName line.rest.toList = [] := by decide
  obtain ⟨hstart, hname, hne, hrest⟩ := hall line hline
  exact ⟨hstart, hname, hne, hrest⟩

theorem lines_render_valueLine {line : ValueLine} (hline : line ∈ valueLines)
    {subs : Substitution} {value : String} (hvalue : subs.lookup line.name = some value)
    (hone : OneLine value) :
    lines (render line.text subs) = [line.start ++ (value ++ line.rest)] := by
  have hall : ∀ line ∈ valueLines, OneLine line.start ∧ OneLine line.rest := by decide
  obtain ⟨hfirst, hlast⟩ := hall line hline
  rw [(single_of_mem_valueLines hline).render_text hvalue]
  exact (hfirst.append (hone.append hlast)).lines_eq

/-! ## The templates of the Kotlin files -/

/-- The characters of a line with a value. -/
def ValueLine.chars (line : ValueLine) : List Char :=
  line.start.toList ++ '@' :: (line.name.toList ++ '@' :: line.rest.toList)

theorem ValueLine.toList_text (line : ValueLine) : line.text.toList = line.chars := by
  simp only [text, chars, String.toList_append, List.append_assoc]
  rfl

/-- The lines in the template of a Kotlin file: those that stay as they are, those of
    the methods and the imports, and those with a value. -/
def IsTemplateLine (kind : ArtifactKind) (cs : List Char) : Prop :=
  lookups everyName cs = [] ∨ cs = "@METHODS@".toList ∨ cs = "@IMPORTS@".toList ∧ kind = .native ∨
    ∃ line ∈ valueLines, line.name ∈ kind.placeholders ∧ cs = line.chars

instance (kind : ArtifactKind) : DecidablePred (IsTemplateLine kind) := fun _ =>
  inferInstanceAs (Decidable (_ ∨ _))

/-- Characters can be given in place of texts where something is to be evaluated. -/
theorem exists_characters {texts : List String} {css : List (List Char)}
    (h : List.Forall₂ (fun s cs => s = String.ofList cs) texts css)
    {P : List (List Char) → Prop} (hP : P css) :
    ∃ css, String.join texts = String.join (css.map String.ofList) ∧ P css := by
  refine ⟨css, congrArg String.join ?_, hP⟩
  clear hP
  induction h with
  | nil => rfl
  | cons hs _ ih => rw [List.map_cons, hs, ih]

/-- What holds of the lines of a text that is given by the characters of ended lines. -/
theorem forall_lines_of_characters {text : String} {P : List Char → Prop} (hblank : P [])
    (h : ∃ css : List (List Char), text = String.join (css.map String.ofList) ∧
      ∀ cs ∈ css, cs.getLast? = some '\n' ∧ '\n' ∉ cs.dropLast ∧ P cs.dropLast) :
    ∀ line ∈ lines text, OneLine line ∧ P line.toList := by
  obtain ⟨css, rfl, hcss⟩ := h
  rw [lines_join_ofList fun cs hcs => ⟨(hcss cs hcs).1, (hcss cs hcs).2.1⟩,
    List.forall_mem_append, List.forall_mem_singleton]
  refine ⟨fun line hmem => ?_, by decide, hblank⟩
  obtain ⟨cs, hcs, rfl⟩ := List.mem_map.1 hmem
  rw [OneLine, String.toList_ofList]
  exact (hcss cs hcs).2

/-- How often a line occurs in a text that is given by the characters of ended lines. -/
theorem count_lines_of_characters {css : List (List Char)}
    (hcss : ∀ cs ∈ css, cs.getLast? = some '\n' ∧ '\n' ∉ cs.dropLast) {line : String}
    (hne : line ≠ "") :
    (lines (String.join (css.map String.ofList))).count line =
      (css.map List.dropLast).count line.toList := by
  have hlines : lines (String.join (css.map String.ofList)) =
      (css.map List.dropLast).map String.ofList ++ [""] := by
    rw [lines_join_ofList hcss, List.map_map]
    rfl
  -- the empty line at the end is another one
  rw [hlines, List.count_append, List.count_singleton, if_neg (by simpa using hne.symm),
    Nat.add_zero, ← String.ofList_toList (s := line),
    List.count_map_of_injective _ _ fun _ _ h => String.ofList_inj.1 h, String.ofList_toList]

theorem exists_templateLines {kind : ArtifactKind} (hkind : "METHODS" ∈ kind.placeholders) :
    ∃ css : List (List Char), kind.builtinTemplate = String.join (css.map String.ofList) ∧
      (∀ cs ∈ css, cs.getLast? = some '\n' ∧ '\n' ∉ cs.dropLast ∧
        IsTemplateLine kind cs.dropLast) ∧
      (css.map List.dropLast).count "@METHODS@".toList = 1 ∧
      (css.map List.dropLast).count "@IMPORTS@".toList = (if kind = .native then 1 else 0) ∧
      (css.map List.dropLast).filterMap (fun cs => declaredBy (wordsOf cs)) =
        (if kind = .jvm then ["libPath"] else []) ∧
      (css.map List.dropLast).filterMap (fun cs => behindInternal? (wordsOf cs)) = [] := by
  cases kind
  case jni | build | interop => simp [ArtifactKind.placeholders] at hkind
  -- unification gives the characters of the lines, which are quicker to go through than texts
  all_goals
    apply exists_characters
    case h => repeat' constructor
    case hP => decide

/-- The lines of the template of a Kotlin file, and what they declare and import. -/
structure TemplateLines (kind : ArtifactKind) : Prop where
  line : ∀ line ∈ lines kind.builtinTemplate, OneLine line ∧ IsTemplateLine kind line.toList
  methods : (lines kind.builtinTemplate).count "@METHODS@" = 1
  imports : (lines kind.builtinTemplate).count "@IMPORTS@" = if kind = .native then 1 else 0
  declared : functionNames kind.builtinTemplate = if kind = .jvm then ["libPath"] else []
  imported : importedFunctions kind.builtinTemplate = []

theorem templateLines {kind : ArtifactKind} (hkind : "METHODS" ∈ kind.placeholders) :
    TemplateLines kind := by
  obtain ⟨css, htemplate, hline, hmethods, himports, hdeclared, himported⟩ :=
    exists_templateLines hkind
  have hended : ∀ cs ∈ css, cs.getLast? = some '\n' ∧ '\n' ∉ cs.dropLast := fun cs hcs =>
    ⟨(hline cs hcs).1, (hline cs hcs).2.1⟩
  have hcount {slot : String} (hne : slot ≠ "") :
      (lines kind.builtinTemplate).count slot = (css.map List.dropLast).count slot.toList := by
    rw [htemplate, count_lines_of_characters hended hne]
  -- nothing is found on the empty line at the end
  have hread (f : List String → Option String) (hempty : f (words "") = none) :
      (lines kind.builtinTemplate).filterMap (fun line => f (words line)) =
        (css.map List.dropLast).filterMap fun cs => f (wordsOf cs) := by
    have hblank : [""].filterMap (fun line => f (words line)) = [] := by simp [hempty]
    rw [htemplate, lines_join_ofList hended, List.filterMap_append, hblank, List.append_nil,
      List.filterMap_map, List.filterMap_map]
    refine List.filterMap_congr fun cs _ => ?_
    rw [Function.comp_apply, Function.comp_apply, words, String.toList_ofList]
  constructor
  case line => exact forall_lines_of_characters (Or.inl rfl) ⟨css, htemplate, hline⟩
  case methods => rw [hcount (by decide), hmethods]
  case imports => rw [hcount (by decide), himports]
  case declared => exact (hread declaredBy (by decide)).trans hdeclared
  case imported => exact (hread behindInternal? (by decide)).trans himported

end Kotlin

namespace Spec

open Kotlin

theorem notMem_erase_of_count {ls : List String} {slot : String} (h : ls.count slot = 1) :
    slot ∉ ls.erase slot := by
  rw [← List.count_eq_zero, List.count_erase_self, h]

section Contents

variable {s : Spec} (hs : s.Valid) (l : Layout) {kind : ArtifactKind}
  (hkind : "METHODS" ∈ kind.placeholders)
  (hlibrary : "LIBRARY" ∈ kind.placeholders → OneLine s.library)

include hs hlibrary in
/-- A line of a template with a value has a value of one line. -/
theorem exists_oneLine_value {line : ValueLine} (hline : line ∈ valueLines)
    (hname : line.name ∈ kind.placeholders) :
    ∃ value, (s.substitution l kind).lookup line.name = some value ∧ OneLine value := by
  have hpackage : "PACKAGE" ∈ kind.placeholders →
      (s.substitution l kind).lookup "PACKAGE" = some s.package := by
    cases kind <;> simp [substitution, ArtifactKind.placeholders, List.lookup_cons]
  have hclass : "CLASS" ∈ kind.placeholders →
      (s.substitution l kind).lookup "CLASS" = some s.className := by
    cases kind <;> simp [substitution, ArtifactKind.placeholders, List.lookup_cons]
  have hlookup : "LIBRARY" ∈ kind.placeholders →
      (s.substitution l kind).lookup "LIBRARY" = some s.library := by
    cases kind <;> simp [substitution, ArtifactKind.placeholders, List.lookup_cons]
  have hnames : ∀ line ∈ valueLines,
      line.name = "PACKAGE" ∨ line.name = "CLASS" ∨ line.name = "LIBRARY" := by decide
  rcases hnames line hline with heq | heq | heq <;> rw [heq] at hname ⊢
  · exact ⟨_, hpackage hname, oneLine_of_isDottedIdentifier hs.package⟩
  · exact ⟨_, hclass hname, oneLine_of_isIdentifier hs.className⟩
  · exact ⟨_, hlookup hname, hlibrary hname⟩

include hs hkind hlibrary in
/-- What is found on a rendered line, unless that is the line of the methods or the imports. -/
theorem found_templateLine {read : String → Option String}
    (hread : ∀ line ∈ valueLines, ∀ rest, read (line.start ++ rest) = none)
    {line : String} (hline : line ∈ lines kind.builtinTemplate) (hmethods : line ≠ "@METHODS@")
    (himports : line ≠ "@IMPORTS@") :
    found read (s.substitution l kind) line = (read line).toList := by
  obtain ⟨hone, hplain | hslot | ⟨hslot, -⟩ | ⟨v, hv, hname, hchars⟩⟩ :=
    (templateLines hkind).line line hline
  · exact found_of_lookups hone hplain
  · exact absurd (String.toList_inj.1 hslot) hmethods
  · exact absurd (String.toList_inj.1 hslot) himports
  · obtain ⟨value, hvalue, hvalueOne⟩ := exists_oneLine_value hs l hlibrary hv hname
    have htext : line = v.text := String.toList_inj.1 (hchars.trans v.toList_text.symm)
    have hline : read v.text = none := by
      rw [ValueLine.text, String.append_assoc, String.append_assoc, String.append_assoc]
      exact hread v hv _
    rw [htext, found, lines_render_valueLine hv hvalue hvalueOne, hline,
      List.filterMap_cons_none (hread v hv _)]
    rfl

include hs hkind hlibrary in
/-- What is found in a file if, of its lines for the methods and the imports, `slot` alone
    brings anything. -/
theorem perm_filterMap_contents {read : String → Option String} {slot : String}
    (honce : (lines kind.builtinTemplate).count slot = 1) (hslot : read slot = none)
    (hread : ∀ line ∈ valueLines, ∀ rest, read (line.start ++ rest) = none)
    (hother : ∀ line ∈ lines kind.builtinTemplate, line ≠ slot →
      line = "@METHODS@" ∨ line = "@IMPORTS@" →
        found read (s.substitution l kind) line = (read line).toList) :
    ((lines (s.artifact .builtin l kind).contents).filterMap read).Perm
      (found read (s.substitution l kind) slot ++
        (lines kind.builtinTemplate).filterMap read) := by
  have hmem : slot ∈ lines kind.builtinTemplate := List.count_pos_iff.1 (by rw [honce]; decide)
  rw [artifact, TemplateCollection.get_builtin]
  refine filterMap_lines_render hmem hslot fun line herase => ?_
  have hline := List.mem_of_mem_erase herase
  have hne : line ≠ slot := by
    rintro rfl
    exact notMem_erase_of_count honce herase
  by_cases hspecial : line = "@METHODS@" ∨ line = "@IMPORTS@"
  · exact hother line hline hne hspecial
  · rw [not_or] at hspecial
    exact found_templateLine hs l hkind hlibrary hread hline hspecial.1 hspecial.2

end Contents

section Files

variable {s : Spec} (hs : s.Valid) (l : Layout)

theorem found_imports (read : String → Option String) :
    found read (s.substitution l .native) "@IMPORTS@" = (lines s.nativeImports).filterMap read := by
  have hvalue : (s.substitution l .native).lookup "IMPORTS" = some s.nativeImports := by
    simp [substitution, List.lookup_cons]
  exact found_placeholder (by decide) (by decide) (by decide) hvalue

theorem found_methods {kind : ArtifactKind} {methods : String}
    (hmethods : (s.substitution l kind).lookup "METHODS" = some methods)
    (read : String → Option String) :
    found read (s.substitution l kind) "@METHODS@" = (lines methods).filterMap read :=
  found_placeholder (by decide) (by decide) (by decide) hmethods

include hs

/-- A Kotlin file declares the functions of its methods and of its template. -/
theorem functionNames_contents {kind : ArtifactKind} {methods : String}
    (hmethods : (s.substitution l kind).lookup "METHODS" = some methods)
    (hlibrary : "LIBRARY" ∈ kind.placeholders → OneLine s.library) :
    (functionNames (s.artifact .builtin l kind).contents).Perm
      (functionNames methods ++ functionNames kind.builtinTemplate) := by
  have hkind : "METHODS" ∈ kind.placeholders := by
    obtain ⟨before, after, hsplit, -⟩ := List.lookup_eq_some_iff.1 hmethods
    rw [← s.map_fst_substitution l kind, hsplit]
    simp
  have htemplate := templateLines hkind
  have hslot : found functionName? (s.substitution l kind) "@METHODS@" = functionNames methods :=
    found_methods l hmethods functionName?
  rw [← hslot]
  refine perm_filterMap_contents hs l hkind hlibrary htemplate.methods (by decide)
    (fun v hv rest => (read_valueLine hv rest).1) fun line hline hne hspecial => ?_
  obtain rfl : line = "@IMPORTS@" := hspecial.resolve_left hne
  -- only the file for Kotlin/Native has imports, and these declare nothing
  have hnative : kind = .native := by
    by_contra hother
    have hcount := htemplate.imports
    rw [if_neg hother, List.count_eq_zero] at hcount
    exact hcount hline
  subst hnative
  rw [found_imports, ← functionNames, functionNames_nativeImports hs]
  decide

theorem importedFunctions_nativeMethods : importedFunctions s.nativeMethods = [] := by
  have hbegin : endsWord "    actual fun " = true := by decide
  have hword : (words "    actual fun ").head?.any (fun w => w ≠ "import") = true := by
    decide
  have hline (e : String × String) : importedFunction? (nativeAccessor e) = none := by
    unfold nativeAccessor
    rw [String.append_assoc, String.append_assoc, String.append_assoc]
    exact importedFunction?_eq_none hbegin hword _
  rw [importedFunctions, lines_nativeMethods hs, filterMap_intercalate (by decide),
    List.flatMap_map, List.flatMap_eq_nil_iff]
  exact fun e _ => List.filterMap_cons_none (hline e)

/-- The Kotlin/Native file imports the C functions that its imports name. -/
theorem importedFunctions_contents :
    (importedFunctions (s.artifact .builtin l .native).contents).Perm
      s.accessors.distinctFunctions := by
  have hkind : "METHODS" ∈ ArtifactKind.native.placeholders := by decide
  have hlibrary : "LIBRARY" ∈ ArtifactKind.native.placeholders → OneLine s.library :=
    fun h => absurd h (by decide)
  have htemplate := templateLines hkind
  have honce : (lines ArtifactKind.native.builtinTemplate).count "@IMPORTS@" = 1 := by
    rw [htemplate.imports, if_pos rfl]
  have hmethods : (s.substitution l .native).lookup "METHODS" = some s.nativeMethods := by
    simp [substitution, List.lookup_cons]
  have hperm : (importedFunctions (s.artifact .builtin l .native).contents).Perm
      (found importedFunction? (s.substitution l .native) "@IMPORTS@" ++
        importedFunctions ArtifactKind.native.builtinTemplate) := by
    refine perm_filterMap_contents hs l hkind hlibrary honce (by decide)
      (fun v hv rest => (read_valueLine hv rest).2) fun line hline hne hspecial => ?_
    -- accessors import nothing
    obtain rfl : line = "@METHODS@" := hspecial.resolve_right hne
    rw [found_methods l hmethods, ← importedFunctions, importedFunctions_nativeMethods hs]
    decide
  rwa [found_imports, ← importedFunctions, importedFunctions_nativeImports hs, htemplate.imported,
    List.append_nil] at hperm

end Files

end Spec

end GrammarBindings
