/-
  GrammarBindings.Proofs.JniSymbol.Alphabet

  Symbols are identifiers of C: whatever letters the names have, an escape is made of ASCII
  letters, digits and underscores, and the dots of the package become underscores.

    * `toNat_le_of_mem_escapeChar` — escapes are ASCII.
    * `isWordChar_ofMethod` — the characters of a symbol.
    * `definedSymbol?` — the symbol that a line of the C file defines.

  Main statement: `definedSymbols_wordChars`, for the symbols that are read in the text that
  goes into the C file.
-/
import GrammarBindings.Proofs.Identifier
import GrammarBindings.Proofs.JniSymbol.Exports
import GrammarBindings.Proofs.NativeFunctions
import GrammarBindings.Proofs.Text.Ascii
import Mathlib.Data.Bool.AllAny

namespace GrammarBindings

open Identifier

namespace JniSymbol

/-! ## Escapes -/

theorem toNat_le_of_isHexDigit {d : Char} (h : IsHexDigit d) : d.toNat ≤ 0x7F := by
  have hall : ∀ n < 16, (Nat.digitChar n).toNat ≤ 0x7F := by decide
  obtain ⟨n, hn, rfl⟩ := h
  exact hall n hn

theorem isWordChar_of_isHexDigit {d : Char} (h : IsHexDigit d) : IsWordChar d := by
  have hall : ∀ n < 16, IsWordChar (Nat.digitChar n) := by decide
  obtain ⟨n, hn, rfl⟩ := h
  exact hall n hn

/-- Escapes are ASCII. -/
theorem toNat_le_of_mem_escapeChar {c d : Char} (h : d ∈ escapeChar c) : d.toNat ≤ 0x7F := by
  rcases mem_escapeChar h with rfl | rfl | hdigit
  · -- a character that stands for itself is no wide one
    unfold escapeChar at h
    split_ifs at h with hunderscore hsemicolon hbracket hwide
    · rw [hunderscore]
      decide
    · rw [hsemicolon]
      decide
    · rw [hbracket]
      decide
    · simp only [List.mem_cons] at h
      rcases h with rfl | rfl | h
      · decide
      · decide
      · exact toNat_le_of_isHexDigit (isHexDigit_of_mem_hexPadded h)
    · exact Nat.le_of_not_lt hwide
  · decide
  · exact toNat_le_of_isHexDigit hdigit

/-- In ASCII the parts of identifiers are the characters of words. -/
theorem isWordChar_of_isPart {c : Char} (hc : isPart c = true) (hascii : c.toNat ≤ 0x7F) :
    IsWordChar c := by
  rw [isPart, Bool.or_eq_true, Bool.or_eq_true, beq_iff_eq,
    isLetter_ascii (Nat.lt_succ_of_le hascii), isAlpha_iff, isDigit_iff] at hc
  rcases hc with (hunderscore | hupper | hlower) | hdigit
  · exact Or.inr (Or.inr (Or.inr hunderscore))
  · exact Or.inl hupper
  · exact Or.inr (Or.inl hlower)
  · exact Or.inr (Or.inr (Or.inl hdigit))

theorem isWordChar_of_mem_escapeChar {c d : Char} (hc : isPart c = true) (hd : d ∈ escapeChar c) :
    IsWordChar d := by
  rcases mem_escapeChar hd with rfl | rfl | hdigit
  · exact isWordChar_of_isPart hc (toNat_le_of_mem_escapeChar hd)
  · decide
  · exact isWordChar_of_isHexDigit hdigit

/-! ## Symbols -/

theorem isWordChar_escape {name : String} (h : isIdentifier name = true) :
    ∀ d ∈ (escape name).toList, IsWordChar d := by
  intro d hd
  rw [escape, String.toList_ofList, List.mem_flatMap] at hd
  obtain ⟨c, hc, hd⟩ := hd
  exact isWordChar_of_mem_escapeChar (isPart_of_accepts h hc) hd

/-- A package is made of parts of identifiers and dots, and no dot is left. -/
theorem isWordChar_escapePackage {package : String} (h : isDottedIdentifier package = true) :
    ∀ d ∈ (escapePackage package).toList, IsWordChar d := by
  have hunderscore : IsWordChar '_' := by decide
  intro d hd
  rw [escapePackage, String.toList_ofList, List.mem_map] at hd
  obtain ⟨e, he, rfl⟩ := hd
  split_ifs with hdot
  · exact hunderscore
  · rw [escape, String.toList_ofList, List.mem_flatMap] at he
    obtain ⟨c, hc, he⟩ := he
    refine isWordChar_of_mem_escapeChar (c := c) ?_ he
    by_contra hpart
    -- what is no part of an identifier is a dot, which stands for itself
    refine notMem_of_isDottedIdentifier h (by simpa using hpart) ?_ hc
    rintro rfl
    exact hdot (List.mem_singleton.1 he)

/-- A symbol of valid names is made of ASCII letters, digits and underscores. -/
theorem isWordChar_ofMethod {package className method : String}
    (hp : isDottedIdentifier package = true) (hc : isIdentifier className = true)
    (hm : isIdentifier method = true) :
    ∀ d ∈ (ofMethod package className method).toList, IsWordChar d := by
  have hjava : ∀ d ∈ "Java_".toList, IsWordChar d := List.all_iff_forall_prop.1 (by decide)
  have hunderscore : ∀ d ∈ "_".toList, IsWordChar d := List.all_iff_forall_prop.1 (by decide)
  simp only [ofMethod, stem, String.toList_append, List.forall_mem_append]
  exact ⟨⟨⟨⟨⟨hjava, isWordChar_escapePackage hp⟩, hunderscore⟩, isWordChar_escape hc⟩,
    hunderscore⟩, isWordChar_escape hm⟩

theorem java_prefix_ofMethod (package className method : String) :
    "Java_".toList <+: (ofMethod package className method).toList := by
  simp only [ofMethod, stem, String.toList_append, List.append_assoc]
  exact List.prefix_append _ _

/-! ## Symbols in the C file -/

/-- The symbol whose definition begins on a line: what stands between `NATIVE_FUNCTION(` at the
    beginning and the next `)`. -/
def definedSymbol? (line : String) : Option String :=
  (line.toList.dropPrefix? "NATIVE_FUNCTION(".toList).map fun cs =>
    String.ofList (cs.takeWhile fun c => c ≠ ')')

theorem definedSymbol?_opening {symbol : String} (h : ∀ c ∈ symbol.toList, IsWordChar c)
    (rest : String) : definedSymbol? ("NATIVE_FUNCTION(" ++ symbol ++ ")" ++ rest) = some symbol := by
  have hparenthesis : ¬ IsWordChar ')' := by decide
  have hsymbol : ∀ c ∈ symbol.toList, (decide (c ≠ ')')) = true := by
    intro c hc
    rw [decide_eq_true_eq]
    rintro rfl
    exact hparenthesis (h _ hc)
  have hend : ")".toList = [')'] := rfl
  simp only [definedSymbol?, String.toList_append, List.append_assoc]
  rw [List.dropPrefix?_append_of_beq _ (beq_self_eq_true _), Option.map_some,
    List.takeWhile_append_of_pos hsymbol, hend, List.singleton_append,
    List.takeWhile_cons_of_neg (by decide), List.append_nil, String.ofList_toList]

/-- A line that begins with a blank defines no symbol. -/
theorem definedSymbol?_blank (rest : String) : definedSymbol? (" " ++ rest) = none := by
  rw [definedSymbol?, String.toList_append]
  rfl

end JniSymbol

namespace Spec

open JniSymbol

section Valid

variable {s : Spec} (hs : s.Valid)
include hs

theorem isWordChar_exportedSymbols {symbol : String} (h : symbol ∈ s.exportedSymbols) :
    ∀ c ∈ symbol.toList, IsWordChar c := by
  obtain ⟨f, hf, rfl⟩ := List.mem_map.1 h
  obtain ⟨e, he, rfl⟩ := List.mem_map.1 (Accessors.mem_distinctFunctions.1 hf)
  exact isWordChar_ofMethod hs.package hs.className (hs.entries e he).2

/-- Of the lines of a definition the first one tells the symbol. -/
theorem filterMap_definedSymbol?_definitionLines {f : String}
    (hf : f ∈ s.accessors.distinctFunctions) :
    (s.definitionLines f).filterMap definedSymbol? = [ofMethod s.package s.className f] := by
  have hwords := isWordChar_exportedSymbols hs (List.mem_map_of_mem hf)
  have hopen : definedSymbol? ("NATIVE_FUNCTION(" ++ ofMethod s.package s.className f ++ ") \x7b") =
      some (ofMethod s.package s.className f) := by
    have hsplit : ") \x7b" = ")" ++ " \x7b" := by decide
    rw [hsplit, ← String.append_assoc]
    exact definedSymbol?_opening hwords " \x7b"
  have hcall : definedSymbol? ("    return (jlong)" ++ f ++ "();") = none := by
    have hsplit : "    return (jlong)" = " " ++ "   return (jlong)" := by decide
    rw [hsplit, String.append_assoc, String.append_assoc]
    exact definedSymbol?_blank _
  have hclose : definedSymbol? "\x7d" = none := by decide
  rw [definitionLines, List.filterMap_cons_some hopen, List.filterMap_cons_none hcall,
    List.filterMap_cons_none hclose, List.filterMap_nil]

theorem filterMap_definedSymbol?_lines :
    (lines s.nativeFunctions).filterMap definedSymbol? = s.exportedSymbols := by
  have hend : [""].filterMap definedSymbol? = [] := by decide
  rw [lines_nativeFunctions hs, List.filterMap_append, hend, List.append_nil,
    List.filterMap_flatMap, exportedSymbols, ← List.flatMap_pure_eq_map]
  exact List.flatMap_congr fun f hf => filterMap_definedSymbol?_definitionLines hs hf

end Valid

/-- The symbols that are defined in the text for the C file are those of the C functions.  All
    of them begin with `Java_` and are made of ASCII letters, digits and underscores, whatever
    letters the package, the class and the functions have. -/
theorem definedSymbols_wordChars (v : ValidSpec) (l : Layout) :
    (v.spec.placeholderLines l .jni "FUNCTIONS").map (List.filterMap definedSymbol?) =
        some (v.spec.accessors.distinctFunctions.map fun f =>
          stem v.spec.package v.spec.className ++ escape f) ∧
      ∀ f ∈ v.spec.accessors.distinctFunctions,
        "Java_".toList <+: (stem v.spec.package v.spec.className ++ escape f).toList ∧
          ∀ c ∈ (stem v.spec.package v.spec.className ++ escape f).toList, IsWordChar c := by
  constructor
  · rw [placeholderLines_eq v.spec.nativeFunctions (by simp [substitution, List.lookup_cons]),
      Option.map_some, filterMap_definedSymbol?_lines v.valid]
    rfl
  · intro f hf
    exact ⟨java_prefix_ofMethod _ _ _,
      isWordChar_exportedSymbols v.valid (List.mem_map_of_mem hf)⟩

/-- The theorem at a function whose only letter lies beyond U+FFFF. -/
theorem definedSymbols_wordChars_wideNames :
    "𝐀" ∈ wideNames.accessors.distinctFunctions ∧
      'd' ∈ (stem wideNames.package wideNames.className ++ escape "𝐀").toList ∧
      (stem wideNames.package wideNames.className ++ escape "𝐀") =
        "Java_com_example_Foo__01d400" ∧
      "Java_".toList <+: "Java_com_example_Foo__01d400".toList ∧ IsWordChar 'd' := by
  have hmem : "𝐀" ∈ wideNames.accessors.distinctFunctions := by decide +kernel
  have hsymbol : stem wideNames.package wideNames.className ++ escape "𝐀" =
      "Java_com_example_Foo__01d400" := by decide +kernel
  have hd : 'd' ∈ "Java_com_example_Foo__01d400".toList := by decide +kernel
  obtain ⟨hjava, hwords⟩ :=
    (definedSymbols_wordChars ⟨wideNames, wideNames_valid⟩ ⟨⟨"/out"⟩⟩).2 "𝐀" hmem
  rw [hsymbol] at hjava hwords
  exact ⟨hmem, hsymbol ▸ hd, hsymbol, hjava, hwords 'd' hd⟩

end Spec

end GrammarBindings
