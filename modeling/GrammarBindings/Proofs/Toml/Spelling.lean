/-
  GrammarBindings.Proofs.Toml.Spelling

  Strings as they are written between quotes.  A character stands for itself or is written as an
  escape, by a letter or by its number; quotes, backslashes and control characters are always
  written as escapes.  Whichever way each character is written, reading gives the string back.

    * `Spells` — the ways to write a character.
    * `Spelling` — one of them for each character; `Spelling.standard` is an example.
    * `basicLine_spells` — what reading one character does.
    * `lineText_quote`, `anyText_quote` — reading a string with its quotes.
-/
import GrammarBindings.Toml.Text
import Mathlib.Data.List.Forall2
import Mathlib.Tactic.SplitIfs

namespace GrammarBindings.Toml

/-! ## Writing a character -/

/-- The letters of the short escapes with the characters that they stand for. -/
def shortEscapes : List (Char × Char) :=
  [('b', '\x08'), ('t', '\t'), ('n', '\n'), ('f', '\x0c'), ('r', '\r'), ('"', '"'), ('\\', '\\')]

/-- `d` is the hexadecimal digit `k`, a small letter or a capital one. -/
def IsHexDigit (d : Char) (k : Nat) : Prop :=
  k < 16 ∧ (d = Nat.digitChar k ∨ d = (Nat.digitChar k).toUpper)

/-- The ways to write a character in a string with escapes on one line. -/
inductive Spells (c : Char) : List Char → Prop
  /-- The character itself, unless it is a control other than a tab, a quote or a backslash. -/
  | plain (hcontrol : c = '\t' ∨ (0x20 ≤ c.toNat ∧ c.toNat ≠ 0x7F)) (hquote : c ≠ '"')
      (hbackslash : c ≠ '\\') : Spells c [c]
  /-- A backslash and a letter. -/
  | short {letter : Char} (h : (letter, c) ∈ shortEscapes) : Spells c ['\\', letter]
  /-- A backslash, a letter and the number of the character in four or eight digits. -/
  | number {letter : Char} {digits : List Char} {ks : List Nat}
      (hcount : (letter = 'u' ∧ digits.length = 4) ∨ (letter = 'U' ∧ digits.length = 8))
      (hdigits : List.Forall₂ IsHexDigit digits ks)
      (hnumber : ks.foldl (fun n k => 16 * n + k) 0 = c.toNat) :
      Spells c ('\\' :: letter :: digits)

/-- A way to write each character. -/
structure Spelling where
  spell : Char → List Char
  spells : ∀ c, Spells c (spell c)

namespace Spelling

variable (σ : Spelling)

/-- A string between quotes. -/
def quote (s : String) : List Char := '"' :: (s.toList.flatMap σ.spell ++ ['"'])

/-- Each character for itself if it may be; of the others, quotes and backslashes behind a
    backslash and control characters by number. -/
def standard : Spelling where
  spell c :=
    if c = '"' then ['\\', '"']
    else if c = '\\' then ['\\', '\\']
    else if c = '\t' ∨ (0x20 ≤ c.toNat ∧ c.toNat ≠ 0x7F) then [c]
    else ['\\', 'u', '0', '0', Nat.digitChar (c.toNat / 16), Nat.digitChar (c.toNat % 16)]
  spells c := by
    split_ifs with hquote hbackslash hcontrol
    · exact .short (by rw [hquote]; decide)
    · exact .short (by rw [hbackslash]; decide)
    · exact .plain hcontrol hquote hbackslash
    · -- a control character is below `0x80`, so that two digits are enough
      have hlow : c.toNat < 0x80 := by omega
      have hdigit (k : Nat) (hk : k < 16) : IsHexDigit (Nat.digitChar k) k := ⟨hk, .inl rfl⟩
      have hzero : IsHexDigit '0' 0 := hdigit 0 (by omega)
      have hdigits : List.Forall₂ IsHexDigit
          ['0', '0', Nat.digitChar (c.toNat / 16), Nat.digitChar (c.toNat % 16)]
          [0, 0, c.toNat / 16, c.toNat % 16] :=
        .cons hzero (.cons hzero (.cons (hdigit _ (by omega)) (.cons (hdigit _ (by omega)) .nil)))
      refine .number (.inl ⟨rfl, rfl⟩) hdigits ?_
      simp only [List.foldl_cons, List.foldl_nil]
      omega

end Spelling

/-! ## Reading a character -/

theorem charOf?_toNat (c : Char) : charOf? c.toNat = some c := by
  have hvalid : c.toNat.isValidChar := c.valid
  rw [charOf?, dif_pos hvalid]
  rfl

theorem hexDigit?_of_isHexDigit {d : Char} {k : Nat} (h : IsHexDigit d k) :
    hexDigit? d = some k := by
  have hlower : ∀ k < 16, hexDigit? (Nat.digitChar k) = some k := by decide
  have hupper : ∀ k < 16, hexDigit? (Nat.digitChar k).toUpper = some k := by decide
  obtain ⟨hk, rfl | rfl⟩ := h
  · exact hlower k hk
  · exact hupper k hk

theorem shortEscape?_of_mem {letter c : Char} (h : (letter, c) ∈ shortEscapes) :
    shortEscape? letter = some c := by
  have hall : ∀ e ∈ shortEscapes, shortEscape? e.1 = some e.2 := by decide
  exact hall _ h

/-- The digits behind the letter of an escape are read to its end, with a number `n` read
    before them. -/
theorem basicLine_number {digits : List Char} {ks : List Nat} (hdigits : digits ≠ [])
    (h : List.Forall₂ IsHexDigit digits ks) {n : Nat} {c : Char}
    (hnumber : ks.foldl (fun n k => 16 * n + k) n = c.toNat) (rest : List Char) :
    basicLine (.number digits.length n) (digits ++ rest) =
      prepend [c] (basicLine .plain rest) := by
  induction h generalizing n with
  | nil => exact absurd rfl hdigits
  | @cons d k digits ks hd h ih =>
    rw [List.foldl_cons] at hnumber
    rw [List.cons_append, basicLine, hexDigit?_of_isHexDigit hd]
    cases h with
    | nil =>
      rw [List.foldl_nil] at hnumber
      simp only [hnumber, charOf?_toNat]
      rfl
    | @cons e _ digits _ _ _ =>
      have hmore : 1 < (d :: e :: digits).length := by simp
      simp only [if_pos hmore]
      exact ih (List.cons_ne_nil e digits) hnumber

theorem basicLine_spells {c : Char} {t : List Char} (h : Spells c t) (rest : List Char) :
    basicLine .plain (t ++ rest) = prepend [c] (basicLine .plain rest) := by
  cases h with
  | plain hcontrol hquote hbackslash =>
    have hplain : isPlain c = true := by
      simpa [isPlain] using hcontrol
    rw [List.singleton_append, basicLine, if_neg hquote, if_neg hbackslash, if_pos hplain]
  | short h =>
    rw [List.cons_append, List.singleton_append, basicLine, if_neg (by decide), if_pos rfl,
      basicLine, shortEscape?_of_mem h]
  | @number letter digits ks hcount h hnumber =>
    have hletter : shortEscape? letter = none ∧ numberEscape? letter = some digits.length := by
      rcases hcount with ⟨rfl, hlength⟩ | ⟨rfl, hlength⟩
      · exact ⟨rfl, by rw [hlength]; rfl⟩
      · exact ⟨rfl, by rw [hlength]; rfl⟩
    have hdigits : digits ≠ [] := by
      rintro rfl
      rw [List.length_nil] at hcount
      omega
    rw [List.cons_append, List.cons_append, basicLine, if_neg (by decide), if_pos rfl, basicLine,
      hletter.1, hletter.2]
    exact basicLine_number hdigits h hnumber rest

/-! ## Reading a string -/

section Strings

variable {σ : Spelling} {s : String}

theorem basicLine_flatMap (cs rest : List Char) :
    basicLine .plain (cs.flatMap σ.spell ++ '"' :: rest) = some (cs, rest) := by
  induction cs with
  | nil => rfl
  | cons c cs ih =>
    rw [List.flatMap_cons, List.append_assoc, basicLine_spells (σ.spells c), ih]
    rfl

theorem lineText_quote (rest : List Char) : lineText (σ.quote s ++ rest) = some (s, rest) := by
  rw [Spelling.quote, List.cons_append, List.append_assoc, List.singleton_append, lineText,
    basicLine_flatMap]
  simp only [asText, Option.map_some, String.ofList_toList]

/-- No character is written with a quote in front. -/
theorem Spells.exists_cons {c : Char} {t : List Char} (h : Spells c t) :
    ∃ d ds, t = d :: ds ∧ d ≠ '"' := by
  cases h with
  | plain _ hquote _ => exact ⟨c, [], rfl, hquote⟩
  | short _ => exact ⟨'\\', _, rfl, by decide⟩
  | number _ _ _ => exact ⟨'\\', _, rfl, by decide⟩

/-- The quotes of a string are not taken for those of a string over several lines. -/
theorem anyText_quote {d : Char} (hd : d ≠ '"') (rest : List Char) :
    anyText (σ.quote s ++ d :: rest) = some (s, d :: rest) := by
  rw [← lineText_quote (σ := σ) (s := s)]
  unfold anyText
  split
  · rename_i cs heq
    exfalso
    cases hs : s.toList with
    | nil =>
      simp only [Spelling.quote, hs, List.flatMap_nil, List.nil_append, List.cons_append,
        List.cons.injEq, true_and] at heq
      exact hd heq.1
    | cons c s =>
      obtain ⟨e, es, hes, he⟩ := (σ.spells c).exists_cons
      simp only [Spelling.quote, hs, List.flatMap_cons, hes, List.cons_append,
        List.cons.injEq, true_and] at heq
      exact he heq.1
  · rename_i cs heq
    cases heq
  · rfl

end Strings

end GrammarBindings.Toml
