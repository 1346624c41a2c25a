/-
  GrammarBindings.Proofs.JniSymbol.Decoding

  Symbols read back.  A symbol is `Java` followed by its segments, the parts of
  the package, the class and the method, each with a bare underscore in front.
  Neither the number of segments nor their ends are marked, and underscores occur
  in the escapes too.  The character after an underscore decides: an escape goes
  on with a digit, a separator with the escape of an identifier, which does not
  begin with one.

    * `readCode_separated` — at a separator no escape is read.
    * `eq_of_escapes_append_eq` — a segment ends at the first place where no
      escape is read.
    * `separated_inj` — so a list of segments is told from its escapes.
    * `toList_ofMethod` — the segments of a symbol.

  Main statements: `ofMethod_eq_ofMethod_iff`, and `Spec.exportedSymbols_disjoint`
  for the symbols that two bindings export.
-/
import GrammarBindings.Proofs.Accessors
import GrammarBindings.Proofs.Identifier
import GrammarBindings.Proofs.JniSymbol.Characters
import GrammarBindings.Proofs.JniSymbol.Exports

namespace GrammarBindings

namespace JniSymbol

/-! ## One character -/

theorem readCode_escapeChar_append {c : Char} (h : c.toNat ≤ 0xFFFF) (xs : List Char) :
    readCode (escapeChar c ++ xs) = some (c.toNat, xs) := by
  rw [← escapeCode_toNat]
  exact readCode_escapeCode_append h xs

/-- An underscore with no digit from `0` to `3` after it begins no escape. -/
theorem readCode_bare {d : Char} (h : d ∉ ['0', '1', '2', '3']) (xs : List Char) :
    readCode ('_' :: d :: xs) = none := by
  -- the escapes are excluded by `d`, so the case of a single character is left
  rw [readCode.eq_def]
  split
  case h_5 heq => rw [if_pos (List.cons.inj heq).1.symm]
  all_goals simp_all

theorem not_isStart_of_mem {d : Char} (h : d ∈ ['0', '1', '2', '3']) :
    Identifier.isStart d = false := by
  have hall : (['0', '1', '2', '3'].all fun d => !Identifier.isStart d) = true := by
    decide
  simpa using List.all_eq_true.1 hall d h

/-- The escape of a character that starts an identifier begins with no digit. -/
theorem escapeChar_of_isStart {c : Char} (h : Identifier.isStart c = true) :
    ∃ d xs, escapeChar c = d :: xs ∧ d ∉ ['0', '1', '2', '3'] := by
  have hunderscore : '_' ∉ ['0', '1', '2', '3'] := by decide
  unfold escapeChar
  split_ifs
  · exact ⟨'_', _, rfl, hunderscore⟩
  · exact ⟨'_', _, rfl, hunderscore⟩
  · exact ⟨'_', _, rfl, hunderscore⟩
  · exact ⟨'_', _, rfl, hunderscore⟩
  · refine ⟨c, [], rfl, fun hmem => ?_⟩
    rw [not_isStart_of_mem hmem] at h
    cases h

/-! ## Segments -/

/-- What a segment of a symbol stands for: an identifier without characters beyond
    U+FFFF. -/
structure IsSegment (cs : List Char) : Prop where
  accepted : Identifier.accepts cs = true
  narrow : ∀ c ∈ cs, c.toNat ≤ 0xFFFF

/-- Segments, escaped, each with the separator in front. -/
def separated (segments : List (List Char)) : List Char :=
  segments.flatMap fun cs => '_' :: cs.flatMap escapeChar

theorem separated_cons (cs : List Char) (segments : List (List Char)) :
    separated (cs :: segments) = '_' :: (cs.flatMap escapeChar ++ separated segments) := rfl

/-- No escape is read where a segment begins or the symbol ends. -/
theorem readCode_separated {segments : List (List Char)} (h : ∀ cs ∈ segments, IsSegment cs) :
    readCode (separated segments) = none := by
  cases segments with
  | nil => rfl
  | cons cs segments =>
    have haccepted := (h cs List.mem_cons_self).accepted
    cases cs with
    | nil => cases haccepted
    | cons c cs =>
      rw [Identifier.accepts, Bool.and_eq_true] at haccepted
      obtain ⟨d, xs, hescape, hd⟩ := escapeChar_of_isStart haccepted.1
      rw [separated_cons, List.flatMap_cons, hescape]
      exact readCode_bare hd _

/-- Two segments that are followed by places where no escape is read are equal
    if their escapes and what follows are. -/
theorem eq_of_escapes_append_eq {cs ds xs ys : List Char} (hcs : ∀ c ∈ cs, c.toNat ≤ 0xFFFF)
    (hds : ∀ d ∈ ds, d.toNat ≤ 0xFFFF) (hxs : readCode xs = none) (hys : readCode ys = none)
    (h : cs.flatMap escapeChar ++ xs = ds.flatMap escapeChar ++ ys) : cs = ds ∧ xs = ys := by
  obtain ⟨hcodes, hends⟩ := eq_of_flatMap_append_eq
    (fun c hc => readCode_escapeChar_append (hcs c hc))
    (fun d hd => readCode_escapeChar_append (hds d hd)) hxs hys h
  exact ⟨List.map_injective_iff.2 (fun _ _ => Char.toNat_inj.1) hcodes, hends⟩

/-- Segments are told from their escapes put together. -/
theorem separated_inj {segments others : List (List Char)} (hs : ∀ cs ∈ segments, IsSegment cs)
    (ho : ∀ cs ∈ others, IsSegment cs) (h : separated segments = separated others) :
    segments = others := by
  induction segments generalizing others with
  | nil =>
    cases others with
    | nil => rfl
    | cons ds others => cases h
  | cons cs segments ih =>
    cases others with
    | nil => cases h
    | cons ds others =>
      have hs' : ∀ cs ∈ segments, IsSegment cs := fun x hx => hs x (List.mem_cons_of_mem _ hx)
      have ho' : ∀ cs ∈ others, IsSegment cs := fun x hx => ho x (List.mem_cons_of_mem _ hx)
      rw [separated_cons, separated_cons] at h
      -- the first segments end at the same place, as both rests begin at a separator
      obtain ⟨rfl, hrest⟩ := eq_of_escapes_append_eq (hs cs List.mem_cons_self).narrow
        (ho ds List.mem_cons_self).narrow (readCode_separated hs') (readCode_separated ho')
        (List.cons.inj h).2
      rw [ih hs' ho' hrest]

/-! ## The segments of a symbol -/

theorem cons_package (package : String) :
    '.' :: package.toList = (package.toList.splitOn '.').flatMap ('.' :: ·) := by
  rw [← cons_intercalate '.' (List.splitOn_ne_nil '.' package.toList), List.intercalate_splitOn]

/-- Dots are not needed for the escape of any other character. -/
theorem map_undot_escapeChar {c : Char} (h : c ≠ '.') :
    ((escapeChar c).map fun d => if d = '.' then '_' else d) = escapeChar c := by
  have hdigit : ∀ n < 16, '.' ≠ Nat.digitChar n := by decide
  have hkept : ∀ d ∈ escapeChar c, (if d = '.' then '_' else d) = d := by
    intro d hd
    refine if_neg fun hdot => ?_
    rw [hdot] at hd
    rcases mem_escapeChar hd with heq | heq | ⟨n, hn, heq⟩
    · exact h heq.symm
    · cases heq
    · exact hdigit n hn heq
  rw [List.map_congr_left hkept, List.map_id']

/-- The escaped package consists of the escapes of its parts. -/
theorem cons_escapePackage (package : String) :
    '_' :: (escapePackage package).toList = separated (package.toList.splitOn '.') := by
  -- escaping a dot and undotting it gives the separator
  have hundot : ∀ cs ∈ package.toList.splitOn '.',
      (('.' :: cs).flatMap fun c => (escapeChar c).map fun d => if d = '.' then '_' else d) =
        '_' :: cs.flatMap escapeChar := by
    intro cs hcs
    have hdot : '.' ∉ cs := notMem_of_mem_splitOn hcs
    have hrest : (cs.flatMap fun c => (escapeChar c).map fun d => if d = '.' then '_' else d) =
        cs.flatMap escapeChar :=
      List.flatMap_congr fun c hc => map_undot_escapeChar fun heq => hdot (heq ▸ hc)
    rw [List.flatMap_cons, hrest]
    rfl
  have hall := congrArg
    (List.flatMap fun c => (escapeChar c).map fun d => if d = '.' then '_' else d)
    (cons_package package)
  rw [List.flatMap_assoc, List.flatMap_congr hundot, List.flatMap_cons, ← List.map_flatMap] at hall
  rw [escapePackage, escape, String.toList_ofList, String.toList_ofList, separated, ← hall]
  rfl

/-- A symbol is `Java` and its segments. -/
theorem toList_ofMethod (package className method : String) :
    (ofMethod package className method).toList =
      "Java".toList ++
        separated (package.toList.splitOn '.' ++ [className.toList, method.toList]) := by
  have hjava : "Java_".toList = "Java".toList ++ ['_'] := by decide
  have hunderscore : "_".toList = ['_'] := by decide
  rw [separated, List.flatMap_append, ← separated, ← cons_escapePackage, ofMethod, stem]
  simp only [String.toList_append, hjava, hunderscore, escape, String.toList_ofList,
    List.append_assoc, List.cons_append, List.nil_append,
    List.flatMap_cons, List.flatMap_nil, List.append_nil]

/-! ## Symbols of valid names -/

theorem isSegment_of_mem_splitOn {package : String} (h : isDottedIdentifier package = true)
    (hnarrow : ∀ c ∈ package.toList, c.toNat ≤ 0xFFFF) {cs : List Char}
    (hcs : cs ∈ package.toList.splitOn '.') : IsSegment cs := by
  refine ⟨List.all_eq_true.1 h cs hcs, fun c hc => ?_⟩
  have hmem : c ∈ '.' :: package.toList := by
    rw [cons_package]
    exact List.mem_flatMap.2 ⟨cs, hcs, List.mem_cons_of_mem _ hc⟩
  rcases List.mem_cons.1 hmem with rfl | hmem
  · decide
  · exact hnarrow c hmem

/-- What a symbol is made for: a dotted package, and a class and a method that are
    identifiers, without characters beyond U+FFFF. -/
structure IsSource (package className method : String) : Prop where
  dotted : isDottedIdentifier package = true
  classIdentifier : isIdentifier className = true
  methodIdentifier : isIdentifier method = true
  narrow : ∀ c ∈ package.toList ++ className.toList ++ method.toList, c.toNat ≤ 0xFFFF

theorem IsSource.isSegment {package className method : String}
    (h : IsSource package className method) {cs : List Char}
    (hcs : cs ∈ package.toList.splitOn '.' ++ [className.toList, method.toList]) :
    IsSegment cs := by
  have hnarrow := h.narrow
  simp only [List.mem_append, or_imp, forall_and] at hnarrow
  simp only [List.mem_append, List.mem_cons, List.not_mem_nil, or_false] at hcs
  rcases hcs with hcs | rfl | rfl
  · exact isSegment_of_mem_splitOn h.dotted hnarrow.1.1 hcs
  · exact ⟨h.classIdentifier, hnarrow.1.2⟩
  · exact ⟨h.methodIdentifier, hnarrow.2⟩

/-- What a symbol is made for is read back from it. -/
theorem eq_of_ofMethod_eq {package package' className className' method method' : String}
    (h : IsSource package className method) (h' : IsSource package' className' method')
    (heq : ofMethod package className method = ofMethod package' className' method') :
    package = package' ∧ className = className' ∧ method = method' := by
  rw [← String.toList_inj, toList_ofMethod, toList_ofMethod] at heq
  have hsegments := separated_inj (fun _ => h.isSegment) (fun _ => h'.isSegment)
    (List.append_cancel_left heq)
  -- the class and the method are the last two segments, the package is what precedes them
  obtain ⟨hparts, hnames⟩ := List.append_inj' hsegments rfl
  simp only [List.cons.injEq, String.toList_inj, and_true] at hnames
  have hpackage := congrArg ['.'].intercalate hparts
  rw [List.intercalate_splitOn, List.intercalate_splitOn, String.toList_inj] at hpackage
  exact ⟨hpackage, hnames.1, hnames.2⟩

/-- Two symbols are equal exactly when they are made for the same method of the same
    class in the same package. -/
theorem ofMethod_eq_ofMethod_iff {package package' className className' method method' : String}
    (h : IsSource package className method) (h' : IsSource package' className' method') :
    ofMethod package className method = ofMethod package' className' method' ↔
      package = package' ∧ className = className' ∧ method = method' := by
  refine ⟨eq_of_ofMethod_eq h h', ?_⟩
  rintro ⟨rfl, rfl, rfl⟩
  rfl

/-- The theorem at names that differ only in where an underscore separates: the
    class `b_c` of the package `a`, and the class `c` of the package `a.b`. -/
theorem ofMethod_eq_ofMethod_iff_underscores :
    IsSource "a" "b_c" "f" ∧ IsSource "a.b" "c" "f" ∧
      ofMethod "a" "b_c" "f" ≠ ofMethod "a.b" "c" "f" := by
  have h : IsSource "a" "b_c" "f" := ⟨by decide, by decide, by decide, by simp⟩
  have h' : IsSource "a.b" "c" "f" := ⟨by decide, by decide, by decide, by simp⟩
  refine ⟨h, h', fun heq => ?_⟩
  have hclass := ((ofMethod_eq_ofMethod_iff h h').1 heq).2.1
  revert hclass
  decide

end JniSymbol

/-! ## Two bindings -/

namespace Spec

/-- A spec whose package, class and functions have no characters beyond U+FFFF. -/
def IsNarrow (s : Spec) : Prop :=
  ∀ name ∈ s.package :: s.className :: s.accessors.distinctFunctions,
    ∀ c ∈ name.toList, c.toNat ≤ 0xFFFF

/-- The functions of a valid spec are methods that symbols are made for. -/
theorem isSource_of_mem {s : Spec} (hs : s.Valid) (hnarrow : s.IsNarrow) {f : String}
    (hf : f ∈ s.accessors.distinctFunctions) :
    JniSymbol.IsSource s.package s.className f := by
  obtain ⟨e, he, rfl⟩ := List.mem_map.1 (Accessors.mem_distinctFunctions.1 hf)
  refine ⟨hs.package, hs.className, (hs.entries e he).2, fun c hc => ?_⟩
  simp only [List.mem_append] at hc
  rcases hc with (hc | hc) | hc
  · exact hnarrow _ List.mem_cons_self c hc
  · exact hnarrow _ (List.mem_cons_of_mem _ List.mem_cons_self) c hc
  · exact hnarrow _ (List.mem_cons_of_mem _ (List.mem_cons_of_mem _ hf)) c hc

/-- A symbol that two bindings export is that of a function of both, in the same class
    of the same package. -/
theorem eq_of_mem_exportedSymbols {v w : ValidSpec} (hv : v.spec.IsNarrow)
    (hw : w.spec.IsNarrow) {symbol : String} (h : symbol ∈ v.spec.exportedSymbols)
    (h' : symbol ∈ w.spec.exportedSymbols) :
    v.spec.package = w.spec.package ∧ v.spec.className = w.spec.className ∧
      ∃ f ∈ v.spec.accessors.distinctFunctions, f ∈ w.spec.accessors.distinctFunctions ∧
        symbol = JniSymbol.ofMethod v.spec.package v.spec.className f := by
  obtain ⟨f, hf, rfl⟩ := List.mem_map.1 h
  obtain ⟨g, hg, heq⟩ := List.mem_map.1 h'
  obtain ⟨hpackage, hclass, rfl⟩ := JniSymbol.eq_of_ofMethod_eq
    (isSource_of_mem v.valid hv hf) (isSource_of_mem w.valid hw hg) heq.symm
  exact ⟨hpackage, hclass, f, hf, hg, rfl⟩

/-- Bindings of different classes, or of classes of different packages, export no common
    symbol. -/
theorem exportedSymbols_disjoint {v w : ValidSpec} (hv : v.spec.IsNarrow)
    (hw : w.spec.IsNarrow)
    (hne : v.spec.package ≠ w.spec.package ∨ v.spec.className ≠ w.spec.className) :
    v.spec.exportedSymbols.Disjoint w.spec.exportedSymbols := by
  intro symbol h h'
  obtain ⟨hpackage, hclass, -⟩ := eq_of_mem_exportedSymbols hv hw h h'
  rcases hne with hne | hne
  · exact hne hpackage
  · exact hne hclass

end Spec

end GrammarBindings
