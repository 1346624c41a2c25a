/-
  GrammarBindings.Proofs.Text.Lines

  Texts and their parts between the occurrences of a character.  Joining the parts
  gives the text back, and parts without the character are found again; so a text
  that was put together from lines has exactly these lines.
-/
import Mathlib.Data.List.Basic

namespace GrammarBindings

/-! ## Parts -/

/-- The parts of a text between the occurrences of a character, empty ones included. -/
def parts (sep : Char) (s : String) : List String := (s.toList.splitOn sep).map String.ofList

section Parts

variable {sep : Char}

theorem parts_ne_nil (s : String) : parts sep s ≠ [] := by
  simp [parts]

/-- A text that ends in a character is a shorter one with this character behind it. -/
theorem exists_append_singleton {s : String} {c : Char} (h : s.toList.getLast? = some c) :
    ∃ front, s = front ++ String.singleton c := by
  obtain ⟨cs, hcs⟩ := List.getLast?_eq_some_iff.1 h
  refine ⟨String.ofList cs, String.toList_inj.1 ?_⟩
  rw [hcs, String.toList_append, String.toList_ofList, String.toList_singleton]

/-- A text without the character is its only part. -/
theorem parts_of_notMem {s : String} (h : sep ∉ s.toList) : parts sep s = [s] := by
  rw [parts, List.splitOn_eq_singleton h, List.map_singleton, String.ofList_toList]

theorem parts_append (s t : String) :
    parts sep (s ++ String.singleton sep ++ t) = parts sep s ++ parts sep t := by
  rw [parts, String.toList_append, String.toList_append, String.toList_singleton,
    List.append_assoc, List.singleton_append, List.splitOn_append_cons_self, List.map_append]
  rfl

/-- A text is its parts with the character between them. -/
theorem intercalate_parts (s : String) : (String.singleton sep).intercalate (parts sep s) = s := by
  apply String.toList_inj.1
  have hid : String.toList ∘ String.ofList = id := by
    funext cs
    exact String.toList_ofList
  rw [String.toList_intercalate, parts, List.map_map, hid, List.map_id, String.toList_singleton]
  exact List.intercalate_splitOn sep

/-- Texts with the character between them have the parts of each. -/
theorem parts_intercalate_eq_flatMap {ts : List String} (hne : ts ≠ []) :
    parts sep ((String.singleton sep).intercalate ts) = ts.flatMap (parts sep) := by
  induction ts with
  | nil => exact absurd rfl hne
  | cons t ts ih =>
    by_cases hempty : ts = []
    · rw [hempty, String.intercalate_singleton, List.flatMap_cons, List.flatMap_nil,
        List.append_nil]
    · rw [String.intercalate_cons_of_ne_nil hempty, parts_append, ih hempty, List.flatMap_cons]

/-- Parts without the character are found again. -/
theorem parts_intercalate {ps : List String} (hne : ps ≠ []) (hps : ∀ s ∈ ps, sep ∉ s.toList) :
    parts sep ((String.singleton sep).intercalate ps) = ps := by
  have hchars : ∀ cs ∈ ps.map String.toList, sep ∉ cs := by
    intro cs hcs
    obtain ⟨s, hs, rfl⟩ := List.mem_map.1 hcs
    exact hps s hs
  have hid : String.ofList ∘ String.toList = id := by
    funext s
    exact String.ofList_toList
  rw [parts, String.toList_intercalate, String.toList_singleton,
    List.splitOn_intercalate sep hchars (by simpa using hne), List.map_map, hid, List.map_id]

theorem notMem_of_mem_splitOn {cs piece : List Char} (h : piece ∈ cs.splitOn sep) :
    sep ∉ piece := by
  -- character by character; the separator begins a new piece
  induction cs generalizing piece with
  | nil =>
    rw [List.splitOn_nil, List.mem_singleton] at h
    rw [h]
    exact List.not_mem_nil
  | cons c cs ih =>
    rw [List.splitOn_cons_eq_if_modifyHead] at h
    split_ifs at h with hc
    · rcases List.mem_cons.1 h with rfl | h
      · exact List.not_mem_nil
      · exact ih h
    · -- the first piece of the rest gets `c` in front, the others stay
      obtain ⟨first, rest, hsplit⟩ := List.exists_cons_of_ne_nil (List.splitOn_ne_nil sep cs)
      rw [hsplit, List.modifyHead_cons] at h
      have hne : sep ≠ c := fun heq => hc (beq_iff_eq.2 heq.symm)
      rcases List.mem_cons.1 h with rfl | h
      · have hfirst : sep ∉ first := ih (by rw [hsplit]; exact List.mem_cons_self)
        simp only [List.mem_cons, not_or]
        exact ⟨hne, hfirst⟩
      · exact ih (by rw [hsplit]; exact List.mem_cons_of_mem _ h)

theorem notMem_of_mem_parts {s p : String} (h : p ∈ parts sep s) : sep ∉ p.toList := by
  obtain ⟨cs, hcs, rfl⟩ := List.mem_map.1 h
  rw [String.toList_ofList]
  exact notMem_of_mem_splitOn hcs

/-- Texts are their own parts if the character is in none of them. -/
theorem parts_intercalate_eq_iff {ts : List String} (hne : ts ≠ []) :
    parts sep ((String.singleton sep).intercalate ts) = ts ↔ ∀ t ∈ ts, sep ∉ t.toList := by
  constructor
  · intro h t ht
    rw [← h] at ht
    exact notMem_of_mem_parts ht
  · exact parts_intercalate hne

/-- A text has one part more than the character occurs in it. -/
theorem length_parts (s : String) : (parts sep s).length = s.toList.count sep + 1 := by
  rw [parts, List.length_map]
  induction s.toList with
  | nil => rfl
  | cons c cs ih =>
    rw [List.splitOn_cons_eq_if_modifyHead, List.count_cons]
    split_ifs
    · rw [List.length_cons, ih]
    · rw [List.length_modifyHead, ih]

theorem parts_injective : Function.Injective (parts sep) := fun s t h =>
  calc
    s = (String.singleton sep).intercalate (parts sep s) := (intercalate_parts s).symm
    _ = (String.singleton sep).intercalate (parts sep t) := by rw [h]
    _ = t := intercalate_parts t

/-- Texts in which the character occurs equally often, one by one, are told from what they
    give with the character between them. -/
theorem eq_of_intercalate_eq {ts us : List String} (hts : ts ≠ []) (hus : us ≠ [])
    (hcount : ts.map (fun t => t.toList.count sep) = us.map (fun u => u.toList.count sep))
    (h : (String.singleton sep).intercalate ts = (String.singleton sep).intercalate us) :
    ts = us := by
  have hparts : (ts.map (parts sep)).flatten = (us.map (parts sep)).flatten := by
    rw [← List.flatMap_def, ← List.flatMap_def, ← parts_intercalate_eq_flatMap hts, h,
      parts_intercalate_eq_flatMap hus]
  have hlengths (vs : List String) : (vs.map (parts sep)).map List.length =
      (vs.map fun v => v.toList.count sep).map (· + 1) := by
    rw [List.map_map, List.map_map]
    exact List.map_congr_left fun v _ => length_parts v
  refine List.map_injective_iff.2 parts_injective (List.eq_iff_flatten_eq.2 ⟨hparts, ?_⟩)
  rw [hlengths, hlengths, hcount]

end Parts

/-! ## Lines -/

/-- The lines of a text; a line break at its end is followed by an empty line. -/
def lines (s : String) : List String := parts '\n' s

/-- A text of one line. -/
def OneLine (s : String) : Prop := '\n' ∉ s.toList

instance (s : String) : Decidable (OneLine s) := inferInstanceAs (Decidable ('\n' ∉ s.toList))

theorem OneLine.append {s t : String} (hs : OneLine s) (ht : OneLine t) : OneLine (s ++ t) := by
  rw [OneLine, String.toList_append, List.mem_append, not_or]
  exact ⟨hs, ht⟩

theorem OneLine.lines_eq {s : String} (h : OneLine s) : lines s = [s] := parts_of_notMem h

theorem lines_append (s t : String) : lines (s ++ "\n" ++ t) = lines s ++ lines t :=
  parts_append s t

theorem lines_intercalate {ls : List String} (hne : ls ≠ []) (hls : ∀ l ∈ ls, OneLine l) :
    lines ("\n".intercalate ls) = ls :=
  parts_intercalate hne hls

/-- Lines that are ended one by one are found again, before those of what follows. -/
theorem lines_join_append {ls : List String} (hls : ∀ l ∈ ls, OneLine l) (t : String) :
    lines (String.join (ls.map (· ++ "\n")) ++ t) = ls ++ lines t := by
  induction ls with
  | nil => rw [List.map_nil, String.join_nil, String.empty_append, List.nil_append]
  | cons l ls ih =>
    have hl : OneLine l := hls l List.mem_cons_self
    rw [List.map_cons, String.join_cons, String.append_assoc, lines_append, hl.lines_eq,
      ih fun m hm => hls m (List.mem_cons_of_mem _ hm), List.singleton_append, List.cons_append]

/-- The lines of a text that is given by the characters of ended lines. -/
theorem lines_join_ofList {css : List (List Char)}
    (h : ∀ cs ∈ css, cs.getLast? = some '\n' ∧ '\n' ∉ cs.dropLast) :
    lines (String.join (css.map String.ofList)) =
      css.map (fun cs => String.ofList cs.dropLast) ++ [""] := by
  have hended : ∀ cs ∈ css, String.ofList cs = String.ofList cs.dropLast ++ "\n" := by
    intro cs hcs
    obtain ⟨front, hfront⟩ := List.getLast?_eq_some_iff.1 (h cs hcs).1
    rw [hfront, List.dropLast_concat, String.ofList_append]
  have hone : ∀ l ∈ css.map (fun cs => String.ofList cs.dropLast), OneLine l := by
    intro l hl
    obtain ⟨cs, hcs, rfl⟩ := List.mem_map.1 hl
    rw [OneLine, String.toList_ofList]
    exact (h cs hcs).2
  have hlines := lines_join_append hone ""
  rw [List.map_map, String.append_empty] at hlines
  rw [List.map_congr_left hended]
  exact hlines

/-- Blocks of ended lines are found again line by line, before an empty line. -/
theorem lines_join_blocks {α : Type} {items : List α} {block : α → List String}
    (hitems : ∀ a ∈ items, ∀ l ∈ block a, OneLine l) :
    lines (String.join (items.map fun a => String.join ((block a).map (· ++ "\n")))) =
      items.flatMap block ++ [""] := by
  induction items with
  | nil => rfl
  | cons a items ih =>
    rw [List.forall_mem_cons] at hitems
    rw [List.map_cons, String.join_cons, lines_join_append hitems.1, ih hitems.2,
      List.flatMap_cons, List.append_assoc]

/-- Blocks with an empty line between them have their lines with an empty line
    between them. -/
theorem lines_blocks {blocks : List String} (hne : blocks ≠ []) :
    lines ("\n\n".intercalate blocks) = [""].intercalate (blocks.map lines) := by
  induction blocks with
  | nil => exact absurd rfl hne
  | cons b blocks ih =>
    by_cases hempty : blocks = []
    · rw [hempty, String.intercalate_singleton, List.map_singleton, List.intercalate_singleton]
    · obtain ⟨b', blocks', hcons⟩ := List.exists_cons_of_ne_nil hempty
      -- the second line break ends an empty line
      have hbreak : b ++ "\n\n" = b ++ "\n" ++ "" ++ "\n" := by
        rw [String.append_empty, String.append_assoc]
        rfl
      have hblank : lines "" = [""] := rfl
      rw [String.intercalate_cons_of_ne_nil hempty, hbreak, lines_append, lines_append, hblank,
        ih hempty, hcons, List.map_cons, List.map_cons, List.map_cons,
        List.intercalate_cons_cons]

/-! ## Lists with separators -/

/-- What is not in the separator is in a joined list if it is in a part of it. -/
theorem mem_intercalate_iff {α : Type} {a : α} {sep : List α} {ls : List (List α)} (hsep : a ∉ sep) :
    a ∈ sep.intercalate ls ↔ ∃ l ∈ ls, a ∈ l := by
  induction ls with
  | nil => simp
  | cons l ls ih =>
    cases ls with
    | nil => simp
    | cons l' ls =>
      rw [List.intercalate_cons_cons, List.mem_append, List.mem_append, ih,
        List.exists_mem_cons_iff (a := l)]
      simp only [hsep, or_false]

section Separated

variable {α : Type} (sep : α) {ls ms : List (List α)}

/-- With one more separator in front, each part comes behind a separator. -/
theorem cons_intercalate (h : ls ≠ []) : sep :: [sep].intercalate ls = ls.flatMap (sep :: ·) := by
  induction ls with
  | nil => exact absurd rfl h
  | cons l ls ih =>
    cases ls with
    | nil => simp
    | cons l' ls =>
      rw [List.intercalate_cons_cons, List.flatMap_cons, ← ih (List.cons_ne_nil _ _)]
      simp

/-- Parts in another order take the same separators. -/
theorem perm_intercalate (h : ls.Perm ms) : ([sep].intercalate ls).Perm ([sep].intercalate ms) := by
  by_cases hempty : ls = []
  · subst hempty
    rw [List.nil_perm.1 h]
  · -- with a separator in front of each part, no part is special any more
    have hempty' : ms ≠ [] := fun hnil => hempty (List.perm_nil.1 (hnil ▸ h))
    have hparts : (ls.flatMap (sep :: ·)).Perm (ms.flatMap (sep :: ·)) := h.flatMap_right _
    rw [← cons_intercalate sep hempty, ← cons_intercalate sep hempty'] at hparts
    exact hparts.cons_inv

end Separated

end GrammarBindings
