/-
  GrammarBindings.Proofs.JniSymbol.Characters

  The characters of an escaped name: those of the name that stand for themselves,
  underscores and hexadecimal digits.
-/
import GrammarBindings.JniSymbol
import GrammarBindings.Proofs.Text.Lines

namespace GrammarBindings

namespace JniSymbol

/-! ## Hexadecimal digits -/

/-- A lowercase hexadecimal digit. -/
def IsHexDigit (c : Char) : Prop := ∃ d < 16, c = Nat.digitChar d

theorem isHexDigit_of_mem_toDigits {n : Nat} {c : Char} (h : c ∈ Nat.toDigits 16 n) :
    IsHexDigit c := by
  induction n using Nat.strongRecOn with
  | ind n ih =>
    rcases Nat.lt_or_ge n 16 with hlt | hge
    · rw [Nat.toDigits_of_lt_base hlt, List.mem_singleton] at h
      exact ⟨n, hlt, h⟩
    · rw [Nat.toDigits_of_base_le (by decide) hge, List.mem_append, List.mem_singleton] at h
      rcases h with h | h
      · exact ih (n / 16) (by omega) h
      · exact ⟨n % 16, Nat.mod_lt n (by decide), h⟩

theorem isHexDigit_of_mem_hexPadded {width n : Nat} {c : Char} (h : c ∈ hexPadded width n) :
    IsHexDigit c := by
  rw [hexPadded, List.mem_append, List.mem_replicate] at h
  rcases h with ⟨-, rfl⟩ | h
  · exact ⟨0, by decide, rfl⟩
  · exact isHexDigit_of_mem_toDigits h

/-! ## Escaped names -/

/-- The escape of a character consists of that character, underscores and digits. -/
theorem mem_escapeChar {c d : Char} (h : d ∈ escapeChar c) : d = c ∨ d = '_' ∨ IsHexDigit d := by
  have hnumber {n : Nat} (hn : n < 16) (h : d ∈ ['_', Nat.digitChar n]) :
      d = '_' ∨ IsHexDigit d := by
    simp only [List.mem_cons, List.not_mem_nil, or_false] at h
    exact h.imp_right fun heq => ⟨n, hn, heq⟩
  unfold escapeChar at h
  split_ifs at h
  · exact Or.inr (hnumber (n := 1) (by decide) h)
  · exact Or.inr (hnumber (n := 2) (by decide) h)
  · exact Or.inr (hnumber (n := 3) (by decide) h)
  · simp only [List.mem_cons] at h
    rcases h with rfl | rfl | h
    · exact Or.inr (Or.inl rfl)
    · exact Or.inr (Or.inr ⟨0, by decide, rfl⟩)
    · exact Or.inr (Or.inr (isHexDigit_of_mem_hexPadded h))
  · exact Or.inl (List.mem_singleton.1 h)

theorem mem_escape {name : String} {d : Char} (h : d ∈ (escape name).toList) :
    d ∈ name.toList ∨ d = '_' ∨ IsHexDigit d := by
  rw [escape, String.toList_ofList, List.mem_flatMap] at h
  obtain ⟨c, hc, hd⟩ := h
  rcases mem_escapeChar hd with rfl | hd
  · exact Or.inl hc
  · exact Or.inr hd

/-! ## Symbols on one line -/

theorem oneLine_escape {name : String} (h : OneLine name) : OneLine (escape name) := by
  have hdigit : ∀ d < 16, '\n' ≠ Nat.digitChar d := by decide
  intro hmem
  rcases mem_escape hmem with hname | hunderscore | ⟨d, hd, heq⟩
  · exact h hname
  · cases hunderscore
  · exact hdigit d hd heq

theorem oneLine_escapePackage {package : String} (h : OneLine package) :
    OneLine (escapePackage package) := by
  rw [OneLine, escapePackage, String.toList_ofList, List.mem_map]
  rintro ⟨c, hc, heq⟩
  split_ifs at heq
  · cases heq
  · exact oneLine_escape h (heq ▸ hc)

/-- A symbol fits on a line if the names in it do. -/
theorem oneLine_ofMethod {package className method : String} (hp : OneLine package)
    (hc : OneLine className) (hm : OneLine method) :
    OneLine (ofMethod package className method) := by
  have hjava : OneLine "Java_" := by decide
  have hunderscore : OneLine "_" := by decide
  have hstem : OneLine (stem package className) :=
    (((hjava.append (oneLine_escapePackage hp)).append hunderscore).append
      (oneLine_escape hc)).append hunderscore
  exact hstem.append (oneLine_escape hm)

end JniSymbol

end GrammarBindings
