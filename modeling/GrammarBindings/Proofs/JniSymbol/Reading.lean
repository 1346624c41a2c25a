/-
  GrammarBindings.Proofs.JniSymbol.Reading

  What an escaped name still tells about the name.  An escape `_0` takes at
  least four hexadecimal digits and ends nowhere in particular, so a reader that
  always takes four gets another name back where a character is beyond U+FFFF:
  its first four digits stand for one character, the others for themselves.

    * `reading n` — the code points that such a reader sees in place of `n`.
    * `readCode` — that reader, one escape at a time.

  The escapes of code points up to U+FFFF form a prefix-free code, which
  `readCode` decodes; every other escape is a word of that code.  Main statement:
  `escape_eq_iff`, two names have the same escape exactly when their readings
  are equal.
-/
import GrammarBindings.JniSymbol
import GrammarBindings.Proofs.Text.Code
import Mathlib.Data.List.Basic

namespace GrammarBindings

namespace JniSymbol

/-! ## Hexadecimal numbers -/

/-- The value of a lowercase hexadecimal digit. -/
def hexValue (c : Char) : Nat := if c.isDigit then c.toNat - 0x30 else c.toNat - 0x57

/-- The number that hexadecimal digits spell. -/
def hexNumber (digits : List Char) : Nat :=
  digits.foldl (fun n c => 16 * n + hexValue c) 0

theorem hexValue_digitChar {d : Nat} (h : d < 16) : hexValue (Nat.digitChar d) = d := by
  have hall : ∀ d < 16, hexValue (Nat.digitChar d) = d := by decide
  exact hall d h

theorem hexNumber_append_digit (digits : List Char) (c : Char) :
    hexNumber (digits ++ [c]) = 16 * hexNumber digits + hexValue c := by
  simp [hexNumber, List.foldl_append]

theorem hexNumber_toDigits (n : Nat) : hexNumber (Nat.toDigits 16 n) = n := by
  induction n using Nat.strongRecOn with
  | ind n ih =>
    rcases Nat.lt_or_ge n 16 with hlt | hge
    · rw [Nat.toDigits_of_lt_base hlt]
      simp [hexNumber, hexValue_digitChar hlt]
    · have hmod : n % 16 < 16 := Nat.mod_lt n (by decide)
      rw [Nat.toDigits_of_base_le (by decide) hge, hexNumber_append_digit,
        ih (n / 16) (by omega), hexValue_digitChar hmod]
      omega

theorem hexNumber_zeros_append (k : Nat) (digits : List Char) :
    hexNumber (List.replicate k '0' ++ digits) = hexNumber digits := by
  induction k with
  | zero => rfl
  | succ k ih =>
    have hzero : 16 * 0 + hexValue '0' = 0 := by decide
    simp only [hexNumber, List.replicate_succ, List.cons_append, List.foldl_cons] at ih ⊢
    rw [hzero]
    exact ih

/-- Zeros in front do not change the number. -/
theorem hexNumber_hexPadded (width n : Nat) : hexNumber (hexPadded width n) = n := by
  rw [hexPadded, hexNumber_zeros_append, hexNumber_toDigits]

/-- Up to U+FFFF the digits of an escape are four. -/
theorem length_hexPadded_four {n : Nat} (h : n ≤ 0xFFFF) : (hexPadded 4 n).length = 4 := by
  have hlen : (Nat.toDigits 16 n).length ≤ 4 :=
    (Nat.length_toDigits_le_iff (by decide) (by decide)).2 (by omega)
  simp only [hexPadded, List.length_append, List.length_replicate]
  omega

/-- From U+1000 on there are four digits without padding. -/
theorem hexPadded_four_eq_toDigits {n : Nat} (h : 0x1000 ≤ n) :
    hexPadded 4 n = Nat.toDigits 16 n := by
  have hlen : ¬ (Nat.toDigits 16 n).length ≤ 3 := by
    rw [Nat.length_toDigits_le_iff (by decide) (by decide)]
    omega
  have hpad : 4 - (Nat.toDigits 16 n).length = 0 := by omega
  rw [hexPadded, hpad, List.replicate_zero, List.nil_append]

/-- Beyond U+FFFF the digits are those of the number without its last digit, and
    that digit. -/
theorem hexPadded_four_of_lt {n : Nat} (h : 0xFFFF < n) :
    hexPadded 4 n = hexPadded 4 (n / 16) ++ [Nat.digitChar (n % 16)] := by
  rw [hexPadded_four_eq_toDigits (by omega), hexPadded_four_eq_toDigits (by omega),
    Nat.toDigits_of_base_le (by decide) (by omega)]

/-! ## Escapes by code point -/

/-- The escape of the character with a code point. -/
def escapeCode (n : Nat) : List Char :=
  if n = 0x5F then ['_', '1']
  else if n = 0x3B then ['_', '2']
  else if n = 0x5B then ['_', '3']
  else if 0x7F < n then '_' :: '0' :: hexPadded 4 n
  else [Char.ofNat n]

theorem escapeCode_toNat (c : Char) : escapeCode c.toNat = escapeChar c := by
  have hcode (d : Char) : c.toNat = d.toNat ↔ c = d := Char.toNat_inj
  have hunderscore : c.toNat = 0x5F ↔ c = '_' := hcode '_'
  have hsemicolon : c.toNat = 0x3B ↔ c = ';' := hcode ';'
  have hbracket : c.toNat = 0x5B ↔ c = '[' := hcode '['
  simp only [escapeCode, escapeChar, hunderscore, hsemicolon, hbracket, Char.ofNat_toNat]

/-- A hexadecimal digit stands for itself in an escaped name. -/
theorem escapeCode_digitChar {d : Nat} (h : d < 16) :
    escapeCode (Nat.digitChar d).toNat = [Nat.digitChar d] := by
  have hall : ∀ d < 16, escapeCode (Nat.digitChar d).toNat = [Nat.digitChar d] := by decide
  exact hall d h

/-- The escape of a code point beyond U+FFFF is that of the code point without
    its last digit, and that digit. -/
theorem escapeCode_of_lt {n : Nat} (h : 0xFFFF < n) :
    escapeCode n = escapeCode (n / 16) ++ [Nat.digitChar (n % 16)] := by
  have hwide {m : Nat} (hm : 0xFFF < m) : escapeCode m = '_' :: '0' :: hexPadded 4 m := by
    simp only [escapeCode]
    rw [if_neg (by omega), if_neg (by omega), if_neg (by omega), if_pos (by omega)]
  rw [hwide (by omega), hwide (by omega), hexPadded_four_of_lt h]
  rfl

/-! ## Readings -/

/-- The code points that are seen in the escape of `n` when `_0` is taken to be
    followed by four digits. -/
def reading (n : Nat) : List Nat :=
  if n ≤ 0xFFFF then [n] else reading (n / 16) ++ [(Nat.digitChar (n % 16)).toNat]

/-- The reading of a whole name. -/
def nameReading (name : String) : List Nat :=
  name.toList.flatMap fun c => reading c.toNat

theorem reading_of_le {n : Nat} (h : n ≤ 0xFFFF) : reading n = [n] := by
  rw [reading, if_pos h]

theorem reading_of_lt {n : Nat} (h : 0xFFFF < n) :
    reading n = reading (n / 16) ++ [(Nat.digitChar (n % 16)).toNat] := by
  rw [reading, if_neg (by omega)]

theorem toNat_digitChar_le {d : Nat} (h : d < 16) : (Nat.digitChar d).toNat ≤ 0xFFFF := by
  have hall : ∀ d < 16, (Nat.digitChar d).toNat ≤ 0xFFFF := by decide
  exact hall d h

/-- A reading holds no code point beyond U+FFFF. -/
theorem le_of_mem_reading {n m : Nat} (h : m ∈ reading n) : m ≤ 0xFFFF := by
  induction n using Nat.strongRecOn with
  | ind n ih =>
    rcases Nat.lt_or_ge 0xFFFF n with hlt | hle
    · rw [reading_of_lt hlt, List.mem_append, List.mem_singleton] at h
      rcases h with h | h
      · exact ih (n / 16) (by omega) h
      · rw [h]
        exact toNat_digitChar_le (Nat.mod_lt n (by decide))
    · rw [reading_of_le hle, List.mem_singleton] at h
      omega

/-- A code point and its reading have the same escape. -/
theorem flatMap_escapeCode_reading (n : Nat) : (reading n).flatMap escapeCode = escapeCode n := by
  -- `reading` takes off the last digit, which the escape has at its end
  induction n using Nat.strongRecOn with
  | ind n ih =>
    rcases Nat.lt_or_ge 0xFFFF n with hlt | hle
    · have hmod : n % 16 < 16 := Nat.mod_lt n (by decide)
      rw [reading_of_lt hlt, List.flatMap_append, ih (n / 16) (by omega),
        List.flatMap_singleton, escapeCode_digitChar hmod, escapeCode_of_lt hlt]
    · rw [reading_of_le hle, List.flatMap_singleton]

theorem toList_escape (name : String) :
    (escape name).toList = (nameReading name).flatMap escapeCode := by
  rw [escape, String.toList_ofList, nameReading, List.flatMap_assoc]
  congr 1
  funext c
  rw [flatMap_escapeCode_reading, escapeCode_toNat]

/-! ## Reading back -/

theorem toNat_ofNat_of_le {n : Nat} (h : n ≤ 0x7F) : (Char.ofNat n).toNat = n := by
  have hall : ∀ n < 0x80, (Char.ofNat n).toNat = n := by decide
  exact hall n (by omega)

/-- Reads one code point and gives what is left.  `_0` takes four digits. -/
def readCode : List Char → Option (Nat × List Char)
  | '_' :: '0' :: cs => some (hexNumber (cs.take 4), cs.drop 4)
  | '_' :: '1' :: cs => some (0x5F, cs)
  | '_' :: '2' :: cs => some (0x3B, cs)
  | '_' :: '3' :: cs => some (0x5B, cs)
  | c :: cs => if c = '_' then none else some (c.toNat, cs)
  | [] => none

theorem readCode_cons_of_ne {c : Char} (h : c ≠ '_') (cs : List Char) :
    readCode (c :: cs) = some (c.toNat, cs) := by
  -- only the case of a single character fits; the others begin with an underscore
  rw [readCode.eq_def]
  split
  case h_5 heq =>
    obtain ⟨rfl, rfl⟩ := List.cons.inj heq
    rw [if_neg h]
  all_goals simp_all

/-- The escape of a code point up to U+FFFF is read back, whatever follows it. -/
theorem readCode_escapeCode_append {n : Nat} (h : n ≤ 0xFFFF) (cs : List Char) :
    readCode (escapeCode n ++ cs) = some (n, cs) := by
  unfold escapeCode
  split_ifs with hunderscore hsemicolon hbracket hwide
  · rw [hunderscore]; rfl
  · rw [hsemicolon]; rfl
  · rw [hbracket]; rfl
  · -- four digits are what the reader takes, so the rest is left to what follows
    have hlen := length_hexPadded_four h
    have htake : (hexPadded 4 n ++ cs).take 4 = hexPadded 4 n := List.take_left' hlen
    have hdrop : (hexPadded 4 n ++ cs).drop 4 = cs := List.drop_left' hlen
    simp only [List.cons_append, readCode, htake, hdrop, hexNumber_hexPadded]
  · have hvalid : (Char.ofNat n).toNat = n := toNat_ofNat_of_le (by omega)
    have hne : Char.ofNat n ≠ '_' := by
      intro heq
      rw [heq] at hvalid
      exact hunderscore hvalid.symm
    rw [List.singleton_append, readCode_cons_of_ne hne, hvalid]

/-- Code points up to U+FFFF are told from their escapes put together. -/
theorem flatMap_escapeCode_inj {ms ns : List Nat} (hms : ∀ m ∈ ms, m ≤ 0xFFFF)
    (hns : ∀ n ∈ ns, n ≤ 0xFFFF) (h : ms.flatMap escapeCode = ns.flatMap escapeCode) :
    ms = ns := by
  have hread {ks : List Nat} (hks : ∀ k ∈ ks, k ≤ 0xFFFF) :
      ∀ k ∈ ks, ∀ cs, readCode (escapeCode k ++ cs) = some (id k, cs) := fun k hk =>
    readCode_escapeCode_append (hks k hk)
  have hend : readCode [] = none := rfl
  have heq : ms.flatMap escapeCode ++ [] = ns.flatMap escapeCode ++ [] := by rw [h]
  obtain ⟨hcodes, -⟩ := eq_of_flatMap_append_eq (hread hms) (hread hns) hend hend heq
  rwa [List.map_id, List.map_id] at hcodes

/-! ## Names with the same escape -/

theorem le_of_mem_nameReading {name : String} {n : Nat} (h : n ∈ nameReading name) :
    n ≤ 0xFFFF := by
  obtain ⟨c, -, hc⟩ := List.mem_flatMap.1 h
  exact le_of_mem_reading hc

/-- Two names have the same escape exactly when their readings are equal. -/
theorem escape_eq_iff {s t : String} : escape s = escape t ↔ nameReading s = nameReading t := by
  rw [← String.toList_inj, toList_escape, toList_escape]
  constructor
  · exact flatMap_escapeCode_inj (fun _ => le_of_mem_nameReading) fun _ => le_of_mem_nameReading
  · exact fun h => by rw [h]

/-- A name without a character beyond U+FFFF is its own reading. -/
theorem nameReading_of_narrow {name : String} (h : ∀ c ∈ name.toList, c.toNat ≤ 0xFFFF) :
    nameReading name = name.toList.map Char.toNat := by
  rw [nameReading, ← List.flatMap_pure_eq_map]
  exact List.flatMap_congr fun c hc => reading_of_le (h c hc)

/-- Names without characters beyond U+FFFF are told from their escapes. -/
theorem eq_of_escape_eq {s t : String} (hs : ∀ c ∈ s.toList, c.toNat ≤ 0xFFFF)
    (ht : ∀ c ∈ t.toList, c.toNat ≤ 0xFFFF) (h : escape s = escape t) : s = t := by
  rw [escape_eq_iff, nameReading_of_narrow hs, nameReading_of_narrow ht] at h
  exact String.toList_inj.1 (List.map_injective_iff.2 (fun _ _ => Char.toNat_inj.1) h)

end JniSymbol

end GrammarBindings
