/-
  GrammarBindings.Proofs.Template.Scan

  How a text is cut into characters and slots.  The scan goes from marker to marker:
  behind a marker it reads a word, and what ends the word decides.

    * `Scanned` — the ways in which a text can go on.  Every text is `scanned`, so
      facts about the scan are proved by induction over these ways.
    * `cut_unfinished`, `cut_broken`, `cut_empty`, `cut_accepted`, `cut_refused` —
      what the scan makes of a marker in each of them.
-/
import GrammarBindings.Template

namespace GrammarBindings

namespace Template

/-! ## Words -/

/-- Characters of which a placeholder's name may consist, possibly none. -/
def IsWord (cs : List Char) : Prop := ∀ c ∈ cs, isNameChar c = true

-- by the members of the list, not by all characters there are
instance : DecidablePred IsWord := List.decidableBAll fun c => isNameChar c = true

theorem isNameChar_marker : isNameChar '@' = false := by decide

theorem not_mem_of_isWord {w : List Char} (hw : IsWord w) : '@' ∉ w := by
  intro h
  have hmarker := hw _ h
  rw [isNameChar_marker] at hmarker
  cases hmarker

/-! ## The shape of a text -/

variable {accepts : List Char → Bool} {w cs : List Char} {c : Char}

/-- A text as it is scanned.  The word behind a marker is ended by the end of the
    text, by a character that is no part of a name, or by another marker.  Behind
    that one the scan goes on if it closed an accepted name, else from it. -/
inductive Scanned (accepts : List Char → Bool) : List Char → Prop
  | nil : Scanned accepts []
  | char {c : Char} {cs : List Char} (hc : c ≠ '@') (rest : Scanned accepts cs) :
      Scanned accepts (c :: cs)
  | unfinished {w : List Char} (hw : IsWord w) : Scanned accepts ('@' :: w)
  | broken {w : List Char} {c : Char} {cs : List Char} (hw : IsWord w) (hc : c ≠ '@')
      (hname : isNameChar c = false) (rest : Scanned accepts cs) :
      Scanned accepts ('@' :: (w ++ c :: cs))
  | empty {cs : List Char} (rest : Scanned accepts ('@' :: cs)) : Scanned accepts ('@' :: '@' :: cs)
  | accepted {w cs : List Char} (hw : IsWord w) (hne : w ≠ []) (haccepts : accepts w = true)
      (rest : Scanned accepts cs) : Scanned accepts ('@' :: (w ++ '@' :: cs))
  | refused {w cs : List Char} (hw : IsWord w) (hne : w ≠ []) (hrefused : accepts w = false)
      (rest : Scanned accepts ('@' :: cs)) : Scanned accepts ('@' :: (w ++ '@' :: cs))

/-- A text begins with a word, and what follows it is no part of a name. -/
theorem exists_word (cs : List Char) :
    ∃ w rest, cs = w ++ rest ∧ IsWord w ∧ ∀ c, rest.head? = some c → isNameChar c = false := by
  refine ⟨cs.takeWhile isNameChar, cs.dropWhile isNameChar,
    List.takeWhile_append_dropWhile.symm,
    fun c hc => List.all_eq_true.1 List.all_takeWhile c hc, fun c hc => ?_⟩
  have hstop := List.head?_dropWhile_not isNameChar cs
  rw [hc] at hstop
  exact hstop

/-- Every text is scanned in one of these ways. -/
theorem scanned (accepts : List Char → Bool) (cs : List Char) : Scanned accepts cs := by
  -- on the length, since a closing marker is met again as an opening one
  induction hn : cs.length using Nat.strongRecOn generalizing cs with
  | ind n ih =>
    have hshorter {ds : List Char} (hlt : ds.length < cs.length) : Scanned accepts ds :=
      ih ds.length (hn ▸ hlt) ds rfl
    cases cs with
    | nil => exact .nil
    | cons c cs =>
      by_cases hc : c = '@'
      · subst hc
        obtain ⟨w, rest, rfl, hw, hstop⟩ := exists_word cs
        simp only [List.length_cons, List.length_append] at hshorter
        cases rest with
        | nil =>
          rw [List.append_nil]
          exact .unfinished hw
        | cons d rest =>
          simp only [List.length_cons] at hshorter
          by_cases hd : d = '@'
          · subst hd
            by_cases hne : w = []
            · subst hne
              exact .empty (hshorter (by simp))
            · have hlength : 0 < w.length := List.length_pos_iff.2 hne
              cases haccepts : accepts w with
              | true => exact .accepted hw hne haccepts (hshorter (by omega))
              | false =>
                exact .refused hw hne haccepts (hshorter (by simp only [List.length_cons]; omega))
          · exact .broken hw hd (hstop d rfl) (hshorter (by omega))
      · exact .char hc (hshorter (by simp))

/-! ## Cutting -/

theorem cut_char (hc : c ≠ '@') : cut accepts (c :: cs) = .char c :: cut accepts cs := by
  rw [cut, if_neg hc]

theorem cut_marker : cut accepts ('@' :: cs) = cutName accepts [] cs := by
  rw [cut, if_pos rfl]

theorem cutName_append (hw : IsWord w) (name : List Char) :
    cutName accepts name (w ++ cs) = cutName accepts (name ++ w) cs := by
  induction w generalizing name with
  | nil => rw [List.nil_append, List.append_nil]
  | cons c w ih =>
    have hname : isNameChar c = true := hw c List.mem_cons_self
    have hc : c ≠ '@' := by
      rintro rfl
      exact not_mem_of_isWord hw List.mem_cons_self
    rw [List.cons_append, cutName, if_neg hc, if_pos hname,
      ih (fun d hd => hw d (List.mem_cons_of_mem _ hd)), List.append_assoc, List.singleton_append]

theorem cut_unfinished (hw : IsWord w) : cut accepts ('@' :: w) = plainMarker w := by
  have happend : cutName accepts [] (w ++ []) = cutName accepts w [] := cutName_append hw []
  rw [List.append_nil] at happend
  rw [cut_marker, happend, cutName]

theorem cut_broken (hw : IsWord w) (hc : c ≠ '@') (hname : isNameChar c = false) :
    cut accepts ('@' :: (w ++ c :: cs)) = plainMarker w ++ .char c :: cut accepts cs := by
  rw [cut_marker, cutName_append hw, cutName, if_neg hc, if_neg (by rw [hname]; decide),
    List.nil_append]

/-- The second of two markers in a row is scanned again. -/
theorem cut_empty : cut accepts ('@' :: '@' :: cs) = .char '@' :: cut accepts ('@' :: cs) := by
  rw [cut_marker, cut_marker, cutName, if_pos rfl, if_neg (by simp)]
  rfl

theorem cut_accepted (hw : IsWord w) (hne : w ≠ []) (haccepts : accepts w = true) :
    cut accepts ('@' :: (w ++ '@' :: cs)) = .slot w :: cut accepts cs := by
  rw [cut_marker, cutName_append hw, List.nil_append, cutName, if_pos rfl,
    if_pos ⟨hne, haccepts⟩]

/-- The closing marker of a name that is not accepted is scanned again. -/
theorem cut_refused (hw : IsWord w) (hrefused : accepts w = false) :
    cut accepts ('@' :: (w ++ '@' :: cs)) = plainMarker w ++ cut accepts ('@' :: cs) := by
  have hnot : ¬ (w ≠ [] ∧ accepts w = true) := by
    rintro ⟨-, haccepts⟩
    rw [hrefused] at haccepts
    cases haccepts
  rw [cut_marker, cut_marker, cutName_append hw, List.nil_append, cutName, if_pos rfl,
    if_neg hnot]

end Template

end GrammarBindings
