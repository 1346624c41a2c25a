/-
  GrammarBindings.Proofs.Kotlin.Reading

  The Kotlin/Native file read back.  It holds all that a spec says about the Kotlin side,
  each on lines of its own: the package on the first line, the class where the object
  begins, and the accessors, each with the C function that it calls, where they are
  declared.

    * `classOn?`, `accessorOn?` — what a line tells by its words.
    * `lines_nativeContents` — the lines of the file.
    * `head?_lines_nativeContents`, `classes_nativeContents`, `accessors_nativeContents` —
      what is read from them.

  Main statement: `eq_of_nativeContents_eq`, the file tells package, class and accessors.
-/
import GrammarBindings.Proofs.Kotlin.Contents

namespace GrammarBindings

namespace Kotlin

open Identifier Template

/-! ## What a line tells -/

/-- The words behind `actual`, if that comes first. -/
def behindActual : List String → List String
  | modifier :: ws => if modifier = "actual" then ws else []
  | [] => []

/-- The class whose object is begun by words behind `actual`. -/
def classOf : List String → Option String
  | [keyword, name] => if keyword = "object" then some name else none
  | _ => none

/-- The accessor that is declared by words behind `actual`, with the function it calls. -/
def accessorOf : List String → Option (String × String)
  | [keyword, name, type, function] =>
    if keyword = "fun" ∧ type = "Any" then some (name, function) else none
  | _ => none

/-- The class whose object begins on a line. -/
def classOn? (line : String) : Option String := classOf (behindActual (words line))

/-- The accessor that a line declares. -/
def accessorOn? (line : String) : Option (String × String) :=
  accessorOf (behindActual (words line))

theorem behindActual_eq_nil {w : String} (h : w ≠ "actual") (ws : List String) :
    behindActual (w :: ws) = [] :=
  if_neg h

/-! ## Words around a name -/

theorem endsWord_append (s : String) {t : String} (h : endsWord t = true) :
    endsWord (s ++ t) = true := by
  obtain ⟨c, hlast, hc⟩ := (Option.any_eq_true _ _).1 h
  rw [endsWord, String.toList_append, List.getLast?_append, hlast]
  exact (Option.any_eq_true _ _).2 ⟨c, rfl, hc⟩

/-- A name between a text behind which a word begins and a character that ends words. -/
theorem words_name {start name : String} (hstart : endsWord start = true)
    (hname : isIdentifier name = true) {c : Char} (hc : isPart c = false) (rest : String) :
    words (start ++ name ++ (String.singleton c ++ rest)) = words start ++ name :: words rest := by
  rw [← String.append_assoc, words_append hc, words_append_of_endsWord hstart,
    words_of_isIdentifier hname, List.append_assoc, List.singleton_append]

theorem words_nativeAccessor {e : String × String} (hname : isIdentifier e.1 = true)
    (hfunction : isIdentifier e.2 = true) :
    words (Spec.nativeAccessor e) = ["actual", "fun", e.1, "Any", e.2] := by
  have hopen : isPart '(' = false := not_isPart_of_mem (by simp)
  have htype : "(): Any = " = String.singleton '(' ++ "): Any = " := by decide
  have hcall : "()!!" = String.singleton '(' ++ ")!!" := by decide
  have hbegin : words "    actual fun " = ["actual", "fun"] := by decide
  have hany : words "): Any = " = ["Any"] := by decide
  have hend : words ")!!" = [] := by decide
  have hstart : endsWord "    actual fun " = true := by decide
  have hmiddle : endsWord ("    actual fun " ++ e.1 ++ "(): Any = ") = true :=
    endsWord_append _ (by decide)
  have hdeclared : words ("    actual fun " ++ e.1 ++ "(): Any = ") =
      ["actual", "fun"] ++ e.1 :: ["Any"] := by
    rw [htype, words_name hstart hname hopen, hbegin, hany]
  have hwhole := words_name hmiddle hfunction hopen ")!!"
  rw [hdeclared, hend] at hwhole
  unfold Spec.nativeAccessor
  rw [hcall]
  exact hwhole

theorem words_objectLine {className : String} (hclass : isIdentifier className = true) :
    words ("actual object " ++ (className ++ " \x7b")) = ["actual", "object", className] := by
  have hblank : isPart ' ' = false := not_isPart_of_mem (by simp)
  have hopen : " \x7b" = String.singleton ' ' ++ "\x7b" := by decide
  have hbegin : words "actual object " = ["actual", "object"] := by decide
  have hend : words "\x7b" = [] := by decide
  have hstart : endsWord "actual object " = true := by decide
  have hwhole := words_name hstart hclass hblank "\x7b"
  rw [hbegin, hend] at hwhole
  rw [← String.append_assoc, hopen]
  exact hwhole

theorem words_packageLine (package : String) :
    words ("package " ++ package) = "package" :: words package := by
  have hstart : endsWord "package " = true := by decide
  have hbegin : words "package " = ["package"] := by decide
  rw [words_append_of_endsWord hstart, hbegin, List.singleton_append]

end Kotlin

namespace Spec

open Kotlin Template

section Valid

variable {s : Spec} (hs : s.Valid) (l : Layout)
include hs

/-! ## The lines of the file -/

/-- The Kotlin/Native file line by line. -/
theorem lines_nativeContents :
    lines (s.artifact .builtin l .native).contents =
      ["package " ++ s.package, ""] ++ s.accessors.distinctFunctions.map (importLine s.package) ++
        ["import kotlinx.cinterop.ExperimentalForeignApi", "",
          "@OptIn(ExperimentalForeignApi::class)", "actual object " ++ (s.className ++ " \x7b")] ++
        [""].intercalate (s.accessors.entries.map fun e => [nativeAccessor e]) ++ ["\x7d", ""] := by
  have htemplate : lines ArtifactKind.native.builtinTemplate =
      ["package @PACKAGE@", "", "@IMPORTS@", "import kotlinx.cinterop.ExperimentalForeignApi", "",
        "@OptIn(ExperimentalForeignApi::class)", "actual object @CLASS@ \x7b", "@METHODS@", "\x7d",
        ""] := by
    decide +kernel
  -- line by line, as the template has them
  have hplain {line : String} (hone : OneLine line) (h : lookups everyName line.toList = []) :
      lines (render line (s.substitution l .native)) = [line] := by
    rw [render_of_lookups h, hone.lines_eq]
  have hpackage : lines (render "package @PACKAGE@" (s.substitution l .native)) =
      ["package " ++ s.package] := by
    have htext : "package @PACKAGE@" = (ValueLine.mk "package " "PACKAGE" "").text := by
      decide
    have hvalue : (s.substitution l .native).lookup "PACKAGE" = some s.package := by
      simp [substitution]
    rw [htext, lines_render_valueLine (by decide) hvalue (oneLine_of_isDottedIdentifier hs.package),
      String.append_empty]
  have hclass : lines (render "actual object @CLASS@ \x7b" (s.substitution l .native)) =
      ["actual object " ++ (s.className ++ " \x7b")] := by
    have htext : "actual object @CLASS@ \x7b" =
        (ValueLine.mk "actual object " "CLASS" " \x7b").text := by
      decide
    have hvalue : (s.substitution l .native).lookup "CLASS" = some s.className := by
      simp [substitution, List.lookup_cons]
    rw [htext, lines_render_valueLine (by decide) hvalue (oneLine_of_isIdentifier hs.className)]
  have himports : lines (render "@IMPORTS@" (s.substitution l .native)) =
      s.accessors.distinctFunctions.map (importLine s.package) := by
    have hvalue : (s.substitution l .native).lookup "IMPORTS" = some s.nativeImports := by
      simp [substitution, List.lookup_cons]
    rw [render_slot (by decide) (by decide) (by decide) hvalue, lines_nativeImports hs]
  have hmethods : lines (render "@METHODS@" (s.substitution l .native)) =
      [""].intercalate (s.accessors.entries.map fun e => [nativeAccessor e]) := by
    have hvalue : (s.substitution l .native).lookup "METHODS" = some s.nativeMethods := by
      simp [substitution, List.lookup_cons]
    rw [render_slot (by decide) (by decide) (by decide) hvalue, lines_nativeMethods hs]
  rw [artifact, TemplateCollection.get_builtin, lines_render, htemplate]
  simp only [List.flatMap_cons, List.flatMap_nil]
  rw [hpackage, himports, hclass, hmethods, hplain (by decide) (by decide),
    hplain (by decide) (by decide), hplain (by decide) (by decide),
    hplain (by decide) (by decide)]
  simp only [List.append_assoc, List.cons_append, List.nil_append, List.append_nil]

/-! ## What is read from the file -/

theorem head?_lines_nativeContents :
    (lines (s.artifact .builtin l .native).contents).head? = some ("package " ++ s.package) := by
  rw [lines_nativeContents hs]
  rfl

/-- What lines tell by their words behind `actual` is found where the object begins and
    where accessors are declared. -/
theorem filterMap_lines_nativeContents {α : Type} (read : List String → Option α)
    (hread : read [] = none) :
    (lines (s.artifact .builtin l .native).contents).filterMap
        (fun line => read (behindActual (words line))) =
      (read ["object", s.className]).toList ++
        s.accessors.entries.filterMap fun e => read ["fun", e.1, "Any", e.2] := by
  -- lines with other words in front tell nothing
  have hnone {line w : String} {ws : List String} (hwords : words line = w :: ws)
      (hw : w ≠ "actual") : read (behindActual (words line)) = none := by
    rw [hwords, behindActual_eq_nil hw, hread]
  have hplain {line : String} (hwords : behindActual (words line) = []) :
      read (behindActual (words line)) = none := by
    rw [hwords, hread]
  have hpackage : read (behindActual (words ("package " ++ s.package))) = none :=
    hnone (words_packageLine s.package) (by decide)
  have himports : (s.accessors.distinctFunctions.map (importLine s.package)).filterMap
      (fun line => read (behindActual (words line))) = [] := by
    rw [List.filterMap_map, List.filterMap_eq_nil_iff]
    intro f hf
    exact hnone (words_importLine (isIdentifier_function hs hf)) (by decide)
  have hobject : behindActual (words ("actual object " ++ (s.className ++ " \x7b"))) =
      ["object", s.className] := by
    rw [words_objectLine hs.className]
    rfl
  have hmethods :
      ([""].intercalate (s.accessors.entries.map fun e => [nativeAccessor e])).filterMap
        (fun line => read (behindActual (words line))) =
      s.accessors.entries.filterMap fun e => read ["fun", e.1, "Any", e.2] := by
    rw [filterMap_intercalate (hplain (by decide)), List.flatMap_map,
      List.filterMap_eq_flatMap_toList]
    refine List.flatMap_congr fun e he => ?_
    obtain ⟨hname, hfunction⟩ := hs.entries e he
    rw [List.filterMap_cons, words_nativeAccessor hname hfunction, behindActual, if_pos rfl]
    cases read ["fun", e.1, "Any", e.2] <;> rfl
  have hblank : read (behindActual (words "")) = none := hplain (by decide)
  have hcinterop :
      read (behindActual (words "import kotlinx.cinterop.ExperimentalForeignApi")) = none :=
    hplain (by decide)
  have hannotation :
      read (behindActual (words "@OptIn(ExperimentalForeignApi::class)")) = none :=
    hplain (by decide)
  have hclose : read (behindActual (words "\x7d")) = none := hplain (by decide)
  rw [lines_nativeContents hs]
  simp only [List.filterMap_append, List.filterMap_cons, List.filterMap_nil, hpackage, himports,
    hcinterop, hannotation, hobject, hmethods, hblank, hclose]
  cases read ["object", s.className] <;> simp

theorem classes_nativeContents :
    (lines (s.artifact .builtin l .native).contents).filterMap classOn? = [s.className] := by
  have hentries : (s.accessors.entries.filterMap fun e => classOf ["fun", e.1, "Any", e.2]) = [] :=
    List.filterMap_eq_nil_iff.2 fun _ _ => rfl
  have hlines := filterMap_lines_nativeContents hs l classOf rfl
  rw [hentries, List.append_nil] at hlines
  exact hlines

theorem accessors_nativeContents :
    (lines (s.artifact .builtin l .native).contents).filterMap accessorOn? =
      s.accessors.entries := by
  have hentries : (s.accessors.entries.filterMap fun e => accessorOf ["fun", e.1, "Any", e.2]) =
      s.accessors.entries := List.filterMap_some
  have hlines := filterMap_lines_nativeContents hs l accessorOf rfl
  rw [hentries] at hlines
  exact hlines

end Valid

/-- The Kotlin/Native file tells the package, the class and the accessors. -/
theorem eq_of_nativeContents_eq {s t : Spec} (hs : s.Valid) (ht : t.Valid) {l m : Layout}
    (h : (s.artifact .builtin l .native).contents = (t.artifact .builtin m .native).contents) :
    s.package = t.package ∧ s.className = t.className ∧ s.accessors = t.accessors := by
  have hpackage := head?_lines_nativeContents hs l
  have hclass := classes_nativeContents hs l
  have hentries := accessors_nativeContents hs l
  rw [h, head?_lines_nativeContents ht, Option.some.injEq, String.append_right_inj] at hpackage
  rw [h, classes_nativeContents ht, List.singleton_inj] at hclass
  rw [h, accessors_nativeContents ht] at hentries
  exact ⟨hpackage.symm, hclass.symm, Accessors.eq_of_entries_eq hentries.symm⟩

end Spec

end GrammarBindings
