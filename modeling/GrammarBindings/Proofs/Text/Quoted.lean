/-
  GrammarBindings.Proofs.Text.Quoted

  Quoted texts.  Each character between the quotes is read back, whichever escape it has: a
  backslash comes before every escape, the letter behind it tells which, and the number of a
  hidden character ends at its brace.  A bare quote is no character, so that is where the text
  ends.  And whatever the text is, nothing in its quoted form is hidden.

    * `readChar_escapeChar_append` — one character is read back.
    * `quoted_inj` — a text is told from its quoted form.
    * `isHidden_of_printable` — the characters of ASCII that show.
    * `shows_quoted` — a quoted text shows on one line.
-/
import GrammarBindings.Proofs.JniSymbol.Characters
import GrammarBindings.Proofs.JniSymbol.Reading
import GrammarBindings.Proofs.Text.Code
import GrammarBindings.Text.Quoted
import Mathlib.Data.Bool.AllAny

namespace GrammarBindings

open JniSymbol (IsHexDigit isHexDigit_of_mem_toDigits hexNumber hexNumber_toDigits)

namespace Quoted

/-! ## Reading back -/

/-- The character that a letter behind a backslash stands for. -/
def shortEscape? (letter : Char) : Option Char :=
  [('"', '"'), ('\\', '\\'), ('n', '\n'), ('r', '\r'), ('t', '\t'), ('0', '\x00')].lookup letter

/-- Reads what stands behind a backslash. -/
def readEscape : List Char → Option (Char × List Char)
  | [] => none
  | letter :: cs =>
    if letter = 'u' then
      some (Char.ofNat (hexNumber ((cs.drop 1).takeWhile fun c => c ≠ '\x7d')),
        ((cs.drop 1).dropWhile fun c => c ≠ '\x7d').drop 1)
    else (shortEscape? letter).map fun c => (c, cs)

/-- Reads one character and gives what is left; a bare quote ends the text. -/
def readChar : List Char → Option (Char × List Char)
  | [] => none
  | c :: cs =>
    if c = '\\' then readEscape cs
    else if c = '"' then none
    else some (c, cs)

theorem readEscape_number (n : Nat) (rest : List Char) :
    readEscape (['u', '\x7b'] ++ Nat.toDigits 16 n ++ ['\x7d'] ++ rest) =
      some (Char.ofNat n, rest) := by
  have hbrace : ∀ d < 16, Nat.digitChar d ≠ '\x7d' := by decide
  have hdigits : ∀ c ∈ Nat.toDigits 16 n, decide (c ≠ '\x7d') = true := by
    intro c hc
    obtain ⟨d, hd, rfl⟩ := isHexDigit_of_mem_toDigits hc
    exact decide_eq_true (hbrace d hd)
  simp only [List.append_assoc, List.cons_append, List.nil_append, readEscape, if_true,
    List.drop_succ_cons, List.drop_zero]
  -- the digits end at the brace
  rw [List.takeWhile_append_of_pos hdigits, List.dropWhile_append_of_pos hdigits,
    List.takeWhile_cons_of_neg (by decide), List.dropWhile_cons_of_neg (by decide),
    List.append_nil, hexNumber_toDigits]
  rfl

/-- A character is read back from its escape, whatever follows it. -/
theorem readChar_escapeChar_append (c : Char) (rest : List Char) :
    readChar (escapeChar c ++ rest) = some (c, rest) := by
  unfold escapeChar
  split_ifs with hquote hbackslash hn hr ht hzero hhidden
  · rw [hquote]; rfl
  · rw [hbackslash]; rfl
  · rw [hn]; rfl
  · rw [hr]; rfl
  · rw [ht]; rfl
  · rw [hzero]; rfl
  · have hnumber := readEscape_number c.toNat rest
    rwa [Char.ofNat_toNat] at hnumber
  · rw [List.singleton_append, readChar, if_neg hbackslash, if_neg hquote]

/-- Nothing is read at the quote that ends a text. -/
theorem readChar_quote (rest : List Char) : readChar ('"' :: rest) = none := rfl

end Quoted

/-- A text is told from its quoted form. -/
theorem quoted_inj {s t : String} : quoted s = quoted t ↔ s = t := by
  refine ⟨fun h => ?_, fun h => h ▸ rfl⟩
  rw [quoted, quoted, String.ofList_inj, List.cons_append, List.cons_append, List.cons.injEq] at h
  have hread : ∀ cs : List Char, ∀ c ∈ cs, ∀ rest,
      Quoted.readChar (Quoted.escapeChar c ++ rest) = some (id c, rest) := fun _ c _ rest =>
    Quoted.readChar_escapeChar_append c rest
  obtain ⟨hchars, -⟩ := eq_of_flatMap_append_eq (hread s.toList) (hread t.toList)
    (Quoted.readChar_quote []) (Quoted.readChar_quote []) h.2
  rw [List.map_id, List.map_id] at hchars
  exact String.toList_inj.1 hchars

theorem toList_quoted (s : String) :
    (quoted s).toList = '"' :: (Quoted.body s.toList ++ ['"']) := by
  rw [quoted, String.toList_ofList, List.cons_append]

theorem quoted_ne_empty (s : String) : quoted s ≠ "" := by
  intro h
  have hnil : (quoted s).toList = [] := by rw [h, String.toList_empty]
  rw [toList_quoted] at hnil
  cases hnil

/-! ## What shows -/

set_option maxRecDepth 4000 in
/-- Behind the controls the table goes on with delete. -/
theorem le_of_mem_tail_hiddenRanges : ∀ r ∈ hiddenRanges.tail, 0x7F ≤ r.1 :=
  List.all_iff_forall_prop.1 (by decide)

/-- From the space to the tilde every character shows. -/
theorem isHidden_of_printable {c : Char} (h : 0x20 ≤ c.toNat) (h' : c.toNat < 0x7F) :
    isHidden c = false := by
  have hranges : hiddenRanges = (0x0, 0x1F) :: hiddenRanges.tail := rfl
  rw [isHidden, inRanges, hranges, List.any_cons, Bool.or_eq_false_iff]
  constructor
  · simp only [Bool.and_eq_false_iff, decide_eq_false_iff_not]
    omega
  · rw [List.any_eq_false]
    intro r hr
    have hle := le_of_mem_tail_hiddenRanges r hr
    simp only [decide_eq_true_eq, Bool.and_eq_true, not_and]
    omega

/-- A text that shows on one line: no character of it is hidden. -/
def Shows (cs : List Char) : Prop := ∀ c ∈ cs, isHidden c = false

theorem shows_append {cs ds : List Char} : Shows (cs ++ ds) ↔ Shows cs ∧ Shows ds :=
  List.forall_mem_append

theorem shows_of_printable {cs : List Char}
    (h : (cs.all fun c => 0x20 ≤ c.toNat ∧ c.toNat < 0x7F) = true) : Shows cs := fun c hc =>
  have hc := List.all_iff_forall_prop.1 h c hc
  isHidden_of_printable hc.1 hc.2

theorem shows_toDigits (n : Nat) : Shows (Nat.toDigits 16 n) := by
  have hall : ∀ d < 16, 0x20 ≤ (Nat.digitChar d).toNat ∧ (Nat.digitChar d).toNat < 0x7F := by
    decide
  intro c hc
  obtain ⟨d, hd, rfl⟩ := isHexDigit_of_mem_toDigits hc
  exact isHidden_of_printable (hall d hd).1 (hall d hd).2

theorem shows_escapeChar (c : Char) : Shows (Quoted.escapeChar c) := by
  unfold Quoted.escapeChar
  split_ifs with hquote hbackslash hn hr ht hzero hhidden
  · exact shows_of_printable (by decide)
  · exact shows_of_printable (by decide)
  · exact shows_of_printable (by decide)
  · exact shows_of_printable (by decide)
  · exact shows_of_printable (by decide)
  · exact shows_of_printable (by decide)
  · exact shows_append.2 ⟨shows_append.2 ⟨shows_of_printable (by decide), shows_toDigits _⟩,
      shows_of_printable (by decide)⟩
  · intro d hd
    rw [List.mem_singleton.1 hd]
    simpa using hhidden

/-- Whatever a text is, it shows when it is quoted. -/
theorem shows_quoted (s : String) : Shows (quoted s).toList := by
  have hquote : Shows ['"'] := shows_of_printable (by decide)
  have hbody : Shows (Quoted.body s.toList) := by
    intro d hd
    obtain ⟨c, -, hd⟩ := List.mem_flatMap.1 hd
    exact shows_escapeChar c d hd
  rw [toList_quoted, ← List.singleton_append]
  exact shows_append.2 ⟨hquote, shows_append.2 ⟨hbody, hquote⟩⟩

end GrammarBindings
