/-
  GrammarBindings.Proofs.Template.Cutting

  Texts cut at their placeholders.  A cutting lists the literals of a text and the names of
  the placeholders between them.  It is leftmost if no placeholder begins inside a literal,
  so that the text is cut at the first place where it can be, then at the first place behind
  that, and so on.

    * `Cutting.Leftmost.unique` — a text has only one leftmost cutting.
    * `leftmost_scan` — the scan finds it.

  The scan goes from marker to marker, a leftmost cutting is a property of the whole text.
  They meet in `begins_marker_iff`: whether a placeholder begins at a marker is settled by the
  word behind it and by what ends this word.
-/
import GrammarBindings.Proofs.Template.Scan
import Mathlib.Data.List.Infix

namespace GrammarBindings

namespace Template

/-! ## Cuttings -/

/-- A literal and the name of the placeholder behind it. -/
structure Segment where
  literal : List Char
  name : List Char
  deriving DecidableEq, Repr

/-- A text cut at placeholders, with the literal behind the last of them. -/
structure Cutting where
  segments : List Segment
  last : List Char
  deriving DecidableEq, Repr

/-- A placeholder as it is written. -/
def marked (name : List Char) : List Char := '@' :: (name ++ ['@'])

/-- The literals with something in place of each placeholder between them. -/
def Cutting.fill (c : Cutting) (value : List Char → List Char) : List Char :=
  c.segments.flatMap (fun s => s.literal ++ value s.name) ++ c.last

/-- The names of the placeholders, in order. -/
def Cutting.names (c : Cutting) : List (List Char) := c.segments.map Segment.name

/-! ## Placeholders in a text -/

/-- A name that makes a placeholder: an accepted word that is not empty. -/
structure IsSlotName (accepts : List Char → Bool) (name : List Char) : Prop where
  word : IsWord name
  ne_nil : name ≠ []
  accepted : accepts name = true

/-- A text begins with a placeholder. -/
def Begins (accepts : List Char → Bool) (text : List Char) : Prop :=
  ∃ name, IsSlotName accepts name ∧ marked name <+: text

/-- A placeholder in `literal ++ behind` begins inside `literal`. -/
def BeginsIn (accepts : List Char → Bool) (literal behind : List Char) : Prop :=
  ∃ rest, rest ≠ [] ∧ rest <:+ literal ∧ Begins accepts (rest ++ behind)

/-- The cutting of a text in which no placeholder begins inside a literal, be it the one behind
    the literal or another one, and the last literal contains none. -/
structure Cutting.Leftmost (accepts : List Char → Bool) (text : List Char) (c : Cutting) :
    Prop where
  whole : c.fill marked = text
  slots : ∀ s ∈ c.segments, IsSlotName accepts s.name
  literals : ∀ s ∈ c.segments, ¬ BeginsIn accepts s.literal (marked s.name)
  last : ∀ name, IsSlotName accepts name → ¬ marked name <:+: c.last

variable {accepts : List Char → Bool} {text w cs : List Char} {c d : Char}

theorem count_marked {name : List Char} (h : IsWord name) : (marked name).count '@' = 2 := by
  have hzero : name.count '@' = 0 := List.count_eq_zero.2 (not_mem_of_isWord h)
  rw [marked, List.count_cons_self, List.count_append, hzero]
  rfl

theorem Begins.mono {other : List Char} (h : Begins accepts text) (hmarked : text <+: other) :
    Begins accepts other := by
  obtain ⟨name, hname, hbegins⟩ := h
  exact ⟨name, hname, hbegins.trans hmarked⟩

theorem not_begins_char (hc : c ≠ '@') : ¬ Begins accepts (c :: cs) := by
  rintro ⟨name, -, hmarked⟩
  rw [marked, List.cons_prefix_cons] at hmarked
  exact hc hmarked.1.symm

/-- Two words that are ended at once are the same if what they stand in is the same. -/
theorem eq_of_word_append {v : List Char} {ds : List Char} (hv : IsWord v) (hw : IsWord w)
    (hc : isNameChar c = false) (hd : isNameChar d = false) (h : v ++ c :: cs = w ++ d :: ds) :
    v = w ∧ c = d ∧ cs = ds := by
  have htake {u : List Char} {e : Char} (hu : IsWord u) (he : isNameChar e = false)
      (es : List Char) : (u ++ e :: es).takeWhile isNameChar = u := by
    rw [List.takeWhile_append_of_pos hu, List.takeWhile_cons_of_neg (by rw [he]; decide),
      List.append_nil]
  have hword : v = w := by
    rw [← htake hv hc cs, h, htake hw hd]
  subst hword
  rw [List.append_cancel_left_eq, List.cons.injEq] at h
  exact ⟨rfl, h⟩

/-- A placeholder begins at a marker exactly if a slot's name is closed behind it. -/
theorem begins_marker_iff (hw : IsWord w) (hd : isNameChar d = false) :
    Begins accepts ('@' :: (w ++ d :: cs)) ↔ d = '@' ∧ IsSlotName accepts w := by
  constructor
  · rintro ⟨name, hname, rest, hrest⟩
    rw [marked, List.cons_append, List.append_assoc, List.singleton_append, List.cons.injEq] at hrest
    obtain ⟨heq, hmarker, -⟩ := eq_of_word_append hname.word hw isNameChar_marker hd hrest.2
    exact ⟨hmarker.symm, heq ▸ hname⟩
  · rintro ⟨rfl, hname⟩
    refine ⟨w, hname, cs, ?_⟩
    rw [marked, List.cons_append, List.append_assoc, List.singleton_append]

theorem not_begins_unfinished (hw : IsWord w) : ¬ Begins accepts ('@' :: w) := by
  rintro ⟨name, -, hmarked⟩
  rw [marked, List.cons_prefix_cons] at hmarked
  have hmem : '@' ∈ w := hmarked.2.subset (by simp)
  exact not_mem_of_isWord hw hmem

/-! ## One leftmost cutting -/

/-- A placeholder that begins in front of another one ends before that does. -/
theorem prefix_marked_of_prefix {front name next rest : List Char} (hne : front ≠ [])
    (hname : IsWord name) (hnext : IsWord next)
    (h : marked name <+: front ++ marked next ++ rest) : marked name <+: front ++ marked next := by
  rcases List.prefix_or_prefix_of_prefix h (List.prefix_append _ rest) with hle | hle
  · exact hle
  · -- else it would hold three markers, its own first one and those of the other
    obtain ⟨c, front, rfl⟩ := List.exists_cons_of_ne_nil hne
    have hmarker : c = '@' := by
      rw [marked, List.cons_append, List.cons_append, List.cons_prefix_cons] at h
      exact h.1.symm
    have hcount := hle.sublist.count_le '@'
    rw [count_marked hname, hmarker, List.count_append, count_marked hnext,
      List.count_cons_self] at hcount
    omega

namespace Cutting

theorem fill_cons (s : Segment) (ss : List Segment) (last : List Char)
    (value : List Char → List Char) :
    fill ⟨s :: ss, last⟩ value = s.literal ++ (value s.name ++ fill ⟨ss, last⟩ value) := by
  simp only [fill, List.flatMap_cons, List.append_assoc]

/-- The part of a leftmost cutting behind its first placeholder. -/
theorem Leftmost.tail {s : Segment} {ss : List Segment} {last : List Char}
    (h : Leftmost accepts text ⟨s :: ss, last⟩) :
    Leftmost accepts (fill ⟨ss, last⟩ marked) ⟨ss, last⟩ where
  whole := rfl
  slots := fun t ht => h.slots t (List.mem_cons_of_mem _ ht)
  literals := fun t ht => h.literals t (List.mem_cons_of_mem _ ht)
  last := h.last

/-- No cutting begins with a longer literal than a leftmost one does. -/
theorem append_eq_nil_of_leftmost {l m name next rest rest' front : List Char}
    (hname : IsSlotName accepts name) (hnext : IsWord next)
    (hm : ¬ BeginsIn accepts m (marked next)) (hfront : m = l ++ front)
    (h : l ++ (marked name ++ rest) = m ++ (marked next ++ rest')) : front = [] := by
  by_contra hne
  subst hfront
  rw [List.append_assoc, List.append_cancel_left_eq, ← List.append_assoc] at h
  have hmarked : marked name <+: front ++ marked next ++ rest' := ⟨rest, h⟩
  exact hm ⟨front, hne, List.suffix_append l front, name, hname,
    prefix_marked_of_prefix hne hname.word hnext hmarked⟩

theorem Leftmost.unique {x y : Cutting} (hx : x.Leftmost accepts text)
    (hy : y.Leftmost accepts text) : x = y := by
  obtain ⟨ss, last⟩ := x
  obtain ⟨ts, last'⟩ := y
  induction ss generalizing ts text with
  | nil =>
    cases ts with
    | nil =>
      have hlast : last = last' := hx.whole.trans hy.whole.symm
      rw [hlast]
    | cons t ts =>
      -- the last literal would contain a placeholder
      have htext : last = t.literal ++ (marked t.name ++ fill ⟨ts, last'⟩ marked) := by
        rw [← fill_cons]
        exact hx.whole.trans hy.whole.symm
      exact absurd ⟨t.literal, fill ⟨ts, last'⟩ marked, by rw [List.append_assoc, ← htext]⟩
        (hx.last t.name (hy.slots t List.mem_cons_self))
  | cons s ss ih =>
    cases ts with
    | nil =>
      have htext : last' = s.literal ++ (marked s.name ++ fill ⟨ss, last⟩ marked) := by
        rw [← fill_cons]
        exact hy.whole.trans hx.whole.symm
      exact absurd ⟨s.literal, fill ⟨ss, last⟩ marked, by rw [List.append_assoc, ← htext]⟩
        (hy.last s.name (hx.slots s List.mem_cons_self))
    | cons t ts =>
      have hs := hx.slots s List.mem_cons_self
      have ht := hy.slots t List.mem_cons_self
      have htext : s.literal ++ (marked s.name ++ fill ⟨ss, last⟩ marked) =
          t.literal ++ (marked t.name ++ fill ⟨ts, last'⟩ marked) := by
        rw [← fill_cons, ← fill_cons]
        exact hx.whole.trans hy.whole.symm
      -- of two literals in front of a placeholder neither is longer
      have hliteral : s.literal = t.literal := by
        rcases List.append_eq_append_iff.1 htext with ⟨front, hfront, -⟩ | ⟨front, hfront, -⟩
        · have hnil : front = [] := append_eq_nil_of_leftmost hs ht.word
            (hy.literals t List.mem_cons_self) hfront htext
          rw [hfront, hnil, List.append_nil]
        · have hnil : front = [] := append_eq_nil_of_leftmost ht hs.word
            (hx.literals s List.mem_cons_self) hfront htext.symm
          rw [hfront, hnil, List.append_nil]
      rw [hliteral, List.append_cancel_left_eq, marked, marked, List.cons_append, List.cons_append,
        List.append_assoc, List.append_assoc, List.singleton_append, List.singleton_append,
        List.cons.injEq] at htext
      obtain ⟨hname, -, hrest⟩ :=
        eq_of_word_append hs.word ht.word isNameChar_marker isNameChar_marker htext.2
      have htail := ih hx.tail ts (hrest ▸ hy.tail)
      rw [Cutting.mk.injEq] at htail
      rw [show s = t from congrArg₂ Segment.mk hliteral hname, htail.1, htail.2]

/-! ## The cutting of the scan -/

/-- A cutting with a character put in front of its text. -/
def push (c : Char) : Cutting → Cutting
  | ⟨[], last⟩ => ⟨[], c :: last⟩
  | ⟨s :: ss, last⟩ => ⟨{ s with literal := c :: s.literal } :: ss, last⟩

/-- The cutting that pieces make up. -/
def ofPieces : List Piece → Cutting
  | [] => ⟨[], []⟩
  | .char c :: ps => (ofPieces ps).push c
  | .slot name :: ps => ⟨⟨[], name⟩ :: (ofPieces ps).segments, (ofPieces ps).last⟩

/-- The cutting of a text that is found by scanning it. -/
def scan (accepts : List Char → Bool) (text : List Char) : Cutting :=
  ofPieces (cut accepts text)

theorem fill_push (c : Char) (x : Cutting) (value : List Char → List Char) :
    (x.push c).fill value = c :: x.fill value := by
  obtain ⟨ss, last⟩ := x
  cases ss with
  | nil => rfl
  | cons s ss => rw [push, fill_cons, fill_cons, List.cons_append]

/-- Filling the cutting of pieces puts something in place of each slot. -/
theorem fill_ofPieces {f : Piece → List Char} (hchar : ∀ c, f (.char c) = [c])
    (ps : List Piece) : (ofPieces ps).fill (fun name => f (.slot name)) = ps.flatMap f := by
  induction ps with
  | nil => rfl
  | cons p ps ih =>
    cases p with
    | char c => rw [ofPieces, fill_push, ih, List.flatMap_cons, hchar, List.singleton_append]
    | slot name => rw [ofPieces, fill_cons, ih, List.flatMap_cons, List.nil_append]

theorem names_push (c : Char) (x : Cutting) : (x.push c).names = x.names := by
  obtain ⟨ss, last⟩ := x
  cases ss <;> rfl

theorem names_ofPieces (ps : List Piece) :
    (ofPieces ps).names.map String.ofList = ps.filterMap Piece.name? := by
  induction ps with
  | nil => rfl
  | cons p ps ih =>
    cases p with
    | char c =>
      rw [ofPieces, names_push, ih]
      rfl
    | slot name =>
      have hsome : Piece.name? (.slot name) = some (String.ofList name) := rfl
      rw [List.filterMap_cons_some hsome, ← ih]
      rfl

/-- A character at which no placeholder begins goes to the first literal. -/
theorem Leftmost.push {x : Cutting} (h : x.Leftmost accepts text)
    (hnot : ¬ Begins accepts (c :: text)) : (x.push c).Leftmost accepts (c :: text) := by
  have hwhole : (x.push c).fill marked = c :: text := by rw [fill_push, h.whole]
  obtain ⟨ss, last⟩ := x
  cases ss with
  | nil =>
    refine ⟨hwhole, by simp [Cutting.push], by simp [Cutting.push], ?_⟩
    intro name hname hinfix
    rcases List.infix_cons_iff.1 hinfix with hmarked | hinfix
    · exact hnot ⟨name, hname, by rwa [← h.whole]⟩
    · exact h.last name hname hinfix
  | cons s ss =>
    refine ⟨hwhole, ?_, ?_, h.last⟩
    · intro t ht
      rcases List.mem_cons.1 ht with rfl | ht
      · exact h.slots s List.mem_cons_self
      · exact h.slots t (List.mem_cons_of_mem _ ht)
    · intro t ht
      rcases List.mem_cons.1 ht with rfl | ht
      · rintro ⟨rest, hne, hsuffix, hbegins⟩
        rcases List.suffix_cons_iff.1 hsuffix with rfl | hsuffix
        · -- it would begin at the new character
          refine hnot (hbegins.mono ⟨fill ⟨ss, last⟩ marked, ?_⟩)
          rw [← h.whole, fill_cons, List.cons_append, List.cons_append, List.append_assoc]
        · exact h.literals s List.mem_cons_self ⟨rest, hne, hsuffix, hbegins⟩
      · exact h.literals t (List.mem_cons_of_mem _ ht)

/-- No placeholder begins at a character that is no marker. -/
theorem Leftmost.push_chars {ps : List Piece} (h : (ofPieces ps).Leftmost accepts text)
    (hw : '@' ∉ w) : (ofPieces (w.map .char ++ ps)).Leftmost accepts (w ++ text) := by
  induction w with
  | nil => exact h
  | cons c w ih =>
    have hc : c ≠ '@' := fun heq => hw (heq ▸ List.mem_cons_self)
    exact (ih fun hmem => hw (List.mem_cons_of_mem _ hmem)).push (not_begins_char hc)

/-- A marker at which no placeholder begins, and the word behind it. -/
theorem Leftmost.push_plainMarker {ps : List Piece} (h : (ofPieces ps).Leftmost accepts text)
    (hw : IsWord w) (hnot : ¬ Begins accepts ('@' :: (w ++ text))) :
    (ofPieces (plainMarker w ++ ps)).Leftmost accepts ('@' :: (w ++ text)) :=
  (h.push_chars (not_mem_of_isWord hw)).push hnot

theorem Leftmost.slot {name : List Char} {x : Cutting} (h : x.Leftmost accepts text)
    (hname : IsSlotName accepts name) :
    Leftmost accepts (marked name ++ text) ⟨⟨[], name⟩ :: x.segments, x.last⟩ := by
  refine ⟨?_, ?_, ?_, h.last⟩
  · rw [fill_cons, h.whole, List.nil_append]
  · intro s hs
    rcases List.mem_cons.1 hs with rfl | hs
    · exact hname
    · exact h.slots s hs
  · intro s hs
    rcases List.mem_cons.1 hs with rfl | hs
    · rintro ⟨rest, hne, hsuffix, -⟩
      exact hne (List.suffix_nil.1 hsuffix)
    · exact h.literals s hs

end Cutting

theorem leftmost_scan (accepts : List Char → Bool) (text : List Char) :
    (Cutting.scan accepts text).Leftmost accepts text := by
  have hnil : (Cutting.ofPieces []).Leftmost accepts [] := by
    refine ⟨rfl, by simp [Cutting.ofPieces], by simp [Cutting.ofPieces], ?_⟩
    intro name _ hinfix
    cases List.infix_nil.1 hinfix
  unfold Cutting.scan
  induction scanned accepts text with
  | nil => exact hnil
  | char hc _ ih =>
    rw [cut_char hc]
    exact ih.push (not_begins_char hc)
  | @unfinished w hw =>
    rw [cut_unfinished hw]
    have h := hnil.push_plainMarker hw (by rw [List.append_nil]; exact not_begins_unfinished hw)
    rwa [List.append_nil, List.append_nil] at h
  | broken hw hc hname _ ih =>
    rw [cut_broken hw hc hname]
    -- the character that ends the word is pushed first
    have hrest : (Cutting.ofPieces (.char _ :: cut accepts _)).Leftmost accepts _ :=
      ih.push (not_begins_char hc)
    refine hrest.push_plainMarker hw ?_
    rw [begins_marker_iff hw hname]
    exact fun h => hc h.1
  | @empty cs _ ih =>
    rw [cut_empty]
    refine ih.push ?_
    have hiff : Begins accepts ('@' :: ([] ++ '@' :: cs)) ↔ _ :=
      begins_marker_iff (w := []) (by simp [IsWord]) isNameChar_marker
    rw [List.nil_append] at hiff
    rw [hiff]
    exact fun h => h.2.ne_nil rfl
  | @accepted w cs hw hne haccepts _ ih =>
    rw [cut_accepted hw hne haccepts]
    have h := ih.slot ⟨hw, hne, haccepts⟩
    rwa [marked, List.cons_append, List.append_assoc, List.singleton_append] at h
  | refused hw hne hrefused _ ih =>
    rw [cut_refused hw hrefused]
    refine ih.push_plainMarker hw ?_
    rw [begins_marker_iff hw isNameChar_marker]
    intro h
    have haccepts := h.2.accepted
    rw [hrefused] at haccepts
    cases haccepts

/-- The scan finds the one leftmost cutting of a text. -/
theorem leftmost_iff_eq_scan {x : Cutting} :
    x.Leftmost accepts text ↔ x = Cutting.scan accepts text := by
  constructor
  · exact fun h => h.unique (leftmost_scan accepts text)
  · rintro rfl
    exact leftmost_scan accepts text

/-- What is accepted counts for words that are not empty only. -/
theorem scan_congr {other : List Char → Bool}
    (h : ∀ name, IsWord name → name ≠ [] → accepts name = other name) (text : List Char) :
    Cutting.scan accepts text = Cutting.scan other text := by
  have hslot (name : List Char) : IsSlotName other name ↔ IsSlotName accepts name := by
    constructor
    · intro hname
      exact ⟨hname.word, hname.ne_nil, (h name hname.word hname.ne_nil).trans hname.accepted⟩
    · intro hname
      exact ⟨hname.word, hname.ne_nil, (h name hname.word hname.ne_nil).symm.trans hname.accepted⟩
  have hscan := leftmost_scan accepts text
  apply leftmost_iff_eq_scan.1
  refine ⟨hscan.whole, fun s hs => (hslot _).2 (hscan.slots s hs), fun s hs => ?_,
    fun name hname => hscan.last name ((hslot _).1 hname)⟩
  rintro ⟨rest, hne, hsuffix, name, hname, hmarked⟩
  exact hscan.literals s hs ⟨rest, hne, hsuffix, name, (hslot _).1 hname, hmarked⟩

end Template

end GrammarBindings
