/-
  GrammarBindings.Proofs.Template.Lookup

  Where a scan looks names up, and how two scans of one text compare.

    * `lookups` — the names that a scan looks up, in order; nothing else decides how
      a text is cut (`cut_congr`).
    * `find?_lookups` — a scan that accepts every name and one that accepts only some
      find the same first name that is not accepted.
    * `filter_lookups` — they find the same ones altogether if no marker is shared,
      `Unshared`.

  The scan that does not accept a name goes on from its closing marker, the other
  one behind it.  They part where that marker opens another name.
-/
import GrammarBindings.Proofs.Template.Scan
import Mathlib.Data.List.Infix

namespace GrammarBindings

namespace Template

/-! ## The names that are looked up -/

mutual

/-- The names that are looked up when a text is cut, in order. -/
def lookups (accepts : List Char → Bool) : List Char → List (List Char)
  | [] => []
  | c :: cs => if c = '@' then lookupsName accepts [] cs else lookups accepts cs

/-- The names that are looked up behind an opening marker of which `name` has been
    read. -/
def lookupsName (accepts : List Char → Bool) (name : List Char) : List Char → List (List Char)
  | [] => []
  | c :: cs =>
    if c = '@' then
      if name = [] then lookupsName accepts [] cs
      else name :: (if accepts name then lookups accepts cs else lookupsName accepts [] cs)
    else if isNameChar c then lookupsName accepts (name ++ [c]) cs
    else lookups accepts cs

end

variable {accepts : List Char → Bool} {w cs : List Char} {c : Char}

theorem lookups_char (hc : c ≠ '@') : lookups accepts (c :: cs) = lookups accepts cs := by
  rw [lookups, if_neg hc]

theorem lookups_marker : lookups accepts ('@' :: cs) = lookupsName accepts [] cs := by
  rw [lookups, if_pos rfl]

theorem lookupsName_append (hw : IsWord w) (name : List Char) :
    lookupsName accepts name (w ++ cs) = lookupsName accepts (name ++ w) cs := by
  induction w generalizing name with
  | nil => rw [List.nil_append, List.append_nil]
  | cons c w ih =>
    have hname : isNameChar c = true := hw c List.mem_cons_self
    have hc : c ≠ '@' := by
      rintro rfl
      exact not_mem_of_isWord hw List.mem_cons_self
    rw [List.cons_append, lookupsName, if_neg hc, if_pos hname,
      ih (fun d hd => hw d (List.mem_cons_of_mem _ hd)), List.append_assoc, List.singleton_append]

theorem lookups_unfinished (hw : IsWord w) : lookups accepts ('@' :: w) = [] := by
  have happend : lookupsName accepts [] (w ++ []) = lookupsName accepts w [] :=
    lookupsName_append hw []
  rw [List.append_nil] at happend
  rw [lookups_marker, happend, lookupsName]

theorem lookups_broken (hw : IsWord w) (hc : c ≠ '@') (hname : isNameChar c = false) :
    lookups accepts ('@' :: (w ++ c :: cs)) = lookups accepts cs := by
  rw [lookups_marker, lookupsName_append hw, lookupsName, if_neg hc,
    if_neg (by rw [hname]; decide)]

theorem lookups_empty : lookups accepts ('@' :: '@' :: cs) = lookups accepts ('@' :: cs) := by
  rw [lookups_marker, lookups_marker, lookupsName, if_pos rfl, if_pos rfl]

theorem lookups_accepted (hw : IsWord w) (hne : w ≠ []) (haccepts : accepts w = true) :
    lookups accepts ('@' :: (w ++ '@' :: cs)) = w :: lookups accepts cs := by
  rw [lookups_marker, lookupsName_append hw, List.nil_append, lookupsName, if_pos rfl,
    if_neg hne, if_pos haccepts]

theorem lookups_refused (hw : IsWord w) (hne : w ≠ []) (hrefused : accepts w = false) :
    lookups accepts ('@' :: (w ++ '@' :: cs)) = w :: lookups accepts ('@' :: cs) := by
  rw [lookups_marker, lookups_marker, lookupsName_append hw, List.nil_append, lookupsName,
    if_pos rfl, if_neg hne, if_neg (by rw [hrefused]; decide)]

/-! ## Lookups and the cut -/

theorem filterMap_name?_plainMarker (w : List Char) :
    (plainMarker w).filterMap Piece.name? = [] := by
  rw [plainMarker, List.filterMap_map]
  exact List.filterMap_eq_nil_iff.2 fun _ _ => rfl

/-- The slots of a cut are the names that are looked up and accepted. -/
theorem filterMap_name?_cut (accepts : List Char → Bool) (cs : List Char) :
    (cut accepts cs).filterMap Piece.name? =
      ((lookups accepts cs).filter accepts).map String.ofList := by
  induction scanned accepts cs with
  | nil => rfl
  | char hc _ ih =>
    rw [cut_char hc, lookups_char hc, ← ih]
    rfl
  | unfinished hw =>
    rw [cut_unfinished hw, lookups_unfinished hw, filterMap_name?_plainMarker]
    rfl
  | broken hw hc hname _ ih =>
    rw [cut_broken hw hc hname, lookups_broken hw hc hname, ← ih, List.filterMap_append,
      filterMap_name?_plainMarker]
    rfl
  | empty _ ih =>
    rw [cut_empty, lookups_empty, ← ih]
    rfl
  | accepted hw hne haccepts _ ih =>
    rw [cut_accepted hw hne haccepts, lookups_accepted hw hne haccepts,
      List.filter_cons_of_pos haccepts, List.map_cons, ← ih]
    rfl
  | refused hw hne hrefused _ ih =>
    rw [cut_refused hw hrefused, lookups_refused hw hne hrefused,
      List.filter_cons_of_neg (by rw [hrefused]; decide), ← ih, List.filterMap_append,
      filterMap_name?_plainMarker, List.nil_append]

/-- Only the names that are looked up decide how a text is cut. -/
theorem cut_congr {other : List Char → Bool} (h : ∀ n ∈ lookups accepts cs, other n = accepts n) :
    cut other cs = cut accepts cs := by
  induction scanned accepts cs with
  | nil => rfl
  | char hc _ ih =>
    rw [lookups_char hc] at h
    rw [cut_char hc, cut_char hc, ih h]
  | unfinished hw => rw [cut_unfinished hw, cut_unfinished hw]
  | broken hw hc hname _ ih =>
    rw [lookups_broken hw hc hname] at h
    rw [cut_broken hw hc hname, cut_broken hw hc hname, ih h]
  | empty _ ih =>
    rw [lookups_empty] at h
    rw [cut_empty, cut_empty, ih h]
  | accepted hw hne haccepts _ ih =>
    rw [lookups_accepted hw hne haccepts, List.forall_mem_cons] at h
    rw [cut_accepted hw hne haccepts, cut_accepted hw hne (h.1.trans haccepts), ih h.2]
  | refused hw hne hrefused _ ih =>
    rw [lookups_refused hw hne hrefused, List.forall_mem_cons] at h
    rw [cut_refused hw hrefused, cut_refused hw (h.1.trans hrefused), ih h.2]

/-- A slot has an accepted name. -/
theorem accepts_of_slot_mem {n : List Char} (h : .slot n ∈ cut accepts cs) : accepts n = true := by
  have hname : String.ofList n ∈ (cut accepts cs).filterMap Piece.name? :=
    List.mem_filterMap.2 ⟨.slot n, h, rfl⟩
  rw [filterMap_name?_cut, List.mem_map] at hname
  obtain ⟨m, hm, heq⟩ := hname
  rw [← String.ofList_inj.1 heq]
  exact (List.mem_filter.1 hm).2

/-! ## Two scans of a text -/

/-- The names that every scan would look up if it accepted all of them. -/
abbrev everyName : List Char → Bool := fun _ => true

/-- The placeholders of a text are the slots of its cut at all names. -/
theorem mem_placeholders_iff_mem_cut {template name : String} :
    name ∈ placeholders template ↔
      name ∈ (cut everyName template.toList).filterMap Piece.name? := by
  rw [placeholders, List.mem_mergeSort, List.mem_eraseDups]

/-- The first name without a value is looked up whether or not the others are accepted. -/
theorem find?_lookups (known : List Char → Bool) (cs : List Char) :
    (lookups everyName cs).find? (fun n => !known n) =
      (lookups known cs).find? (fun n => !known n) := by
  induction scanned known cs with
  | nil => rfl
  | char hc _ ih => rw [lookups_char hc, lookups_char hc, ih]
  | unfinished hw => rw [lookups_unfinished hw, lookups_unfinished hw]
  | broken hw hc hname _ ih =>
    rw [lookups_broken hw hc hname, lookups_broken hw hc hname, ih]
  | empty _ ih => rw [lookups_empty, lookups_empty, ih]
  | accepted hw hne haccepts _ ih =>
    rw [lookups_accepted hw hne rfl, lookups_accepted hw hne haccepts, List.find?_cons,
      List.find?_cons, ih]
  | refused hw hne hrefused _ _ =>
    -- it is found here; what the scans look up behind it may differ
    rw [lookups_accepted hw hne rfl, lookups_refused hw hne hrefused, List.find?_cons,
      List.find?_cons, hrefused]
    rfl

/-- No marker closes a name without a value and opens another name. -/
def Unshared (known : List Char → Bool) (cs : List Char) : Prop :=
  ∀ n m, IsWord n → IsWord m → n ≠ [] → m ≠ [] →
    '@' :: (n ++ '@' :: (m ++ ['@'])) <:+: cs → known n = true

/-- Whether a text begins with a marker, a name without a value, a marker, another
    name and a third marker. -/
def beginsShared (known : List Char → Bool) : List Char → Bool
  | '@' :: cs =>
    match cs.dropWhile isNameChar with
    | '@' :: ds =>
      cs.takeWhile isNameChar ≠ [] && !known (cs.takeWhile isNameChar) &&
        ds.takeWhile isNameChar ≠ [] && (ds.dropWhile isNameChar).head? == some '@'
    | _ => false
  | _ => false

theorem takeWhile_word (hw : IsWord w) : (w ++ '@' :: cs).takeWhile isNameChar = w := by
  rw [List.takeWhile_append_of_pos hw, List.takeWhile_cons_of_neg (by decide), List.append_nil]

theorem dropWhile_word (hw : IsWord w) :
    (w ++ '@' :: cs).dropWhile isNameChar = '@' :: cs := by
  rw [List.dropWhile_append_of_pos hw, List.dropWhile_cons_of_neg (by decide)]

theorem beginsShared_eq_true_iff {known : List Char → Bool} :
    beginsShared known cs = true ↔
      ∃ n m post, cs = '@' :: (n ++ '@' :: (m ++ '@' :: post)) ∧ IsWord n ∧ IsWord m ∧
        n ≠ [] ∧ m ≠ [] ∧ known n = false := by
  constructor
  · intro h
    unfold beginsShared at h
    split at h
    case h_2 => cases h
    case h_1 cs =>
      split at h
      case h_2 => cases h
      case h_1 ds hds =>
        simp only [Bool.and_eq_true, decide_eq_true_eq, Bool.not_eq_true', beq_iff_eq] at h
        obtain ⟨⟨⟨hn, hknown⟩, hm⟩, hpost⟩ := h
        obtain ⟨post, hpost⟩ : ∃ post, ds.dropWhile isNameChar = '@' :: post :=
          List.head?_eq_some_iff.1 hpost
        refine ⟨cs.takeWhile isNameChar, ds.takeWhile isNameChar, post, ?_,
          List.all_eq_true.1 List.all_takeWhile, List.all_eq_true.1 List.all_takeWhile, hn, hm,
          hknown⟩
        rw [← hpost, List.takeWhile_append_dropWhile, ← hds, List.takeWhile_append_dropWhile]
  · rintro ⟨n, m, post, rfl, hn, hm, hne, hme, hknown⟩
    simp [beginsShared, dropWhile_word hn, takeWhile_word hn, dropWhile_word hm,
      takeWhile_word hm, hne, hme, hknown]

theorem unshared_iff {known : List Char → Bool} :
    Unshared known cs ↔ ∀ t ∈ cs.tails, beginsShared known t = false := by
  -- what stands within a text begins one of its suffixes
  simp only [← Bool.not_eq_true, beginsShared_eq_true_iff, List.mem_tails]
  constructor
  · rintro h _ ⟨before, hcs⟩ ⟨n, m, post, rfl, hn, hm, hne, hme, hknown⟩
    have hwithin : '@' :: (n ++ '@' :: (m ++ ['@'])) <:+: cs := ⟨before, post, by simp [← hcs]⟩
    exact hknown (h n m hn hm hne hme hwithin)
  · rintro h n m hn hm hne hme ⟨before, post, hcs⟩
    by_contra hknown
    exact h ('@' :: (n ++ '@' :: (m ++ '@' :: post))) ⟨before, by simp [← hcs]⟩
      ⟨n, m, post, rfl, hn, hm, hne, hme, hknown⟩

instance (known : List Char → Bool) : DecidablePred (Unshared known) :=
  fun _ => decidable_of_iff _ unshared_iff.symm

theorem lookups_append (hw : '@' ∉ w) : lookups accepts (w ++ cs) = lookups accepts cs := by
  induction w with
  | nil => rfl
  | cons c w ih =>
    have hc : c ≠ '@' := fun heq => hw (heq ▸ List.mem_cons_self)
    rw [List.cons_append, lookups_char hc, ih fun h => hw (List.mem_cons_of_mem _ h)]

/-- A marker behind which no name is closed makes no difference. -/
theorem lookups_cons_marker
    (h : ∀ m post, cs = m ++ '@' :: post → IsWord m → m = []) :
    lookups accepts ('@' :: cs) = lookups accepts cs := by
  obtain ⟨w, rest, rfl, hw, hstop⟩ := exists_word cs
  rw [lookups_append (not_mem_of_isWord hw)]
  cases rest with
  | nil =>
    rw [List.append_nil, lookups_unfinished hw]
    rfl
  | cons c rest =>
    by_cases hc : c = '@'
    · -- only the empty word can be closed, and that is no name
      subst hc
      rw [h w rest rfl hw, List.nil_append, lookups_empty]
    · rw [lookups_broken hw hc (hstop c rfl), lookups_char hc]

/-- The names without a value are the same in both scans if no marker is shared. -/
theorem filter_lookups {known : List Char → Bool} (h : Unshared known cs) :
    (lookups everyName cs).filter (fun n => !known n) =
      (lookups known cs).filter (fun n => !known n) := by
  have hpart {cs ds : List Char} (hcs : Unshared known cs) (hsuffix : ds <:+ cs) :
      Unshared known ds := fun n m hn hm hne hme hwithin =>
    hcs n m hn hm hne hme (hwithin.trans hsuffix.isInfix)
  induction scanned known cs with
  | nil => rfl
  | char hc _ ih =>
    rw [lookups_char hc, lookups_char hc, ih (hpart h (List.suffix_cons _ _))]
  | unfinished hw => rw [lookups_unfinished hw, lookups_unfinished hw]
  | @broken w c cs hw hc hname _ ih =>
    have hsuffix : cs <:+ '@' :: (w ++ c :: cs) := ⟨'@' :: (w ++ [c]), by simp⟩
    rw [lookups_broken hw hc hname, lookups_broken hw hc hname, ih (hpart h hsuffix)]
  | empty _ ih => rw [lookups_empty, lookups_empty, ih (hpart h (List.suffix_cons _ _))]
  | @accepted w cs hw hne haccepts _ ih =>
    have hsuffix : cs <:+ '@' :: (w ++ '@' :: cs) := ⟨'@' :: (w ++ ['@']), by simp⟩
    rw [lookups_accepted hw hne rfl, lookups_accepted hw hne haccepts, List.filter_cons,
      List.filter_cons, ih (hpart h hsuffix)]
  | @refused w cs hw hne hrefused _ ih =>
    have hsuffix : '@' :: cs <:+ '@' :: (w ++ '@' :: cs) := ⟨'@' :: w, by simp⟩
    -- no name is closed behind the marker that the one scan passes over
    have hopen : ∀ m post, cs = m ++ '@' :: post → IsWord m → m = [] := by
      intro m post hcs hm
      by_contra hme
      have hwithin : '@' :: (w ++ '@' :: (m ++ ['@'])) <:+: '@' :: (w ++ '@' :: cs) :=
        ⟨[], post, by simp [hcs]⟩
      rw [h w m hw hm hne hme hwithin] at hrefused
      cases hrefused
    rw [lookups_accepted hw hne rfl, lookups_refused hw hne hrefused, List.filter_cons,
      List.filter_cons, ← ih (hpart h hsuffix), lookups_cons_marker hopen]

end Template

end GrammarBindings
