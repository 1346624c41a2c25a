/-
  GrammarBindings.Proofs.FileTree.Access

  File operations given the path of a place.  Such a path is followed name by name
  to the place itself, so each operation can be told by what is at places:

    * `Location.Usable` — the path of the place is within the limits on paths.
    * `resolve_toPath`, `read_toPath`, `isDir_toPath` — looking.
    * `slot_toPath` — the place of a new entry.
    * `makeDirs_of_dir` — a directory that is there is not made again.
    * `moveFile_toPath`, `entryAt?_moveFile` — one file goes from place to place.
    * `moveFile_error` — what can be in the way of it.

  `isDir_stable` and `read_stable` are about any path: looking gives the same once
  directories have been added and other files have come or gone.
-/
import GrammarBindings.Proofs.FileTree.Entry
import GrammarBindings.Proofs.Path.Place

namespace GrammarBindings

/-- A place whose path is within the limits on paths and names. -/
structure Location.Usable (l : Location) : Prop where
  no_nul : '\x00' ∉ l.toPath.text.toList
  path_fits : l.toPath.fits = true
  name_fits : ∀ s ∈ l, nameFits s = true

@[simp] theorem throw_ne_ok {ε α : Type} {e : ε} {a : α} : (throw e : Except ε α) ≠ .ok a := by
  intro h
  cases h

namespace FileTree

variable {t u : FileTree} {cwd l m : Location} {n : String}

/-! ## Following names -/

theorem checkPath_toPath (l : Location) :
    checkPath l.toPath = .ok () ↔ '\x00' ∉ l.toPath.text.toList ∧ l.toPath.fits = true := by
  unfold checkPath
  rw [if_neg (Location.toPath_text_ne_empty l)]
  split_ifs with hnul hfits <;> simp_all

theorem stepFrom_name (l : Location) (hn : IsName n) : stepFrom l n = l ++ [n] := by
  rw [stepFrom, if_neg (by simp [hn.ne_empty, hn.ne_here]), if_neg hn.ne_up]

/-- Every step starts from a directory. -/
theorem walk_cons {piece : String} {pieces : List String} :
    t.walk l (piece :: pieces) = .ok m ↔
      t.entryAt? l = some .dir ∧ nameFits piece = true ∧
        t.walk (stepFrom l piece) pieces = .ok m := by
  rw [walk, entryAt?]
  cases t.lookup l with
  | none => simp
  | some node =>
    cases node with
    | file contents => simp [entry]
    | dir es =>
      by_cases hfits : nameFits piece = true
      · simp [entry, hfits]
      · simp [entry, hfits]

/-- Following names ends at the place that they name below the start. -/
theorem eq_append_of_walk {ns : List String} (hns : Location.Proper ns)
    (h : t.walk l ns = .ok m) : m = l ++ ns ∧ ∀ s ∈ ns, nameFits s = true := by
  induction ns generalizing l with
  | nil =>
    rw [walk, Except.ok.injEq] at h
    simp [h]
  | cons s ns ih =>
    have hs : IsName s := hns s List.mem_cons_self
    obtain ⟨-, hfits, hrest⟩ := walk_cons.1 h
    rw [stepFrom_name l hs] at hrest
    obtain ⟨hm, hnames⟩ := ih (fun r hr => hns r (List.mem_cons_of_mem _ hr)) hrest
    refine ⟨by rw [hm, List.append_assoc]; rfl, fun r hr => ?_⟩
    rcases List.mem_cons.1 hr with rfl | hr
    · exact hfits
    · exact hnames r hr

/-- Names can be followed to every place where something is. -/
theorem walk_append {ns : List String} (hns : Location.Proper ns)
    (hfits : ∀ s ∈ ns, nameFits s = true) (h : t.entryAt? (l ++ ns) ≠ none) :
    t.walk l ns = .ok (l ++ ns) := by
  -- something is at the end, so there is a directory at every step before it
  induction ns generalizing l with
  | nil => rw [walk, List.append_nil]
  | cons s ns ih =>
    have happend : l ++ s :: ns = (l ++ [s]) ++ ns := by simp
    rw [walk_cons, stepFrom_name l (hns s List.mem_cons_self)]
    refine ⟨entryAt?_of_append (List.cons_ne_nil s ns) h, hfits s List.mem_cons_self, ?_⟩
    rw [happend] at h ⊢
    exact ih (fun r hr => hns r (List.mem_cons_of_mem _ hr))
      (fun r hr => hfits r (List.mem_cons_of_mem _ hr)) h

/-- The pieces of a place's path are its names behind an empty one. -/
theorem walk_pieces_toPath (hl : l.Proper) :
    t.walk [] l.toPath.pieces = t.walk [] ("" :: l) := by
  by_cases hne : l = []
  · -- the path of the root has two empty pieces, which lead from the root to itself
    subst hne
    rw [Location.pieces_toPath_nil]
    cases t <;> rfl
  · rw [Location.pieces_toPath hl hne]

/-- From the root, the empty piece leads nowhere else. -/
theorem walk_rooted :
    t.walk [] ("" :: l) = .ok m ↔ t.entryAt? [] = some .dir ∧ t.walk [] l = .ok m := by
  have hempty : nameFits "" = true := by decide
  have hstep : stepFrom [] "" = [] := rfl
  rw [walk_cons, hstep]
  exact and_congr_right fun _ => and_iff_right hempty

/-- Whatever comes before it, a name at the end leads into an entry with that name. -/
theorem walk_append_name {pieces : List String} (hn : IsName n)
    (h : t.walk l (pieces ++ [n]) = .ok m) : ∃ p, m = p ++ [n] := by
  induction pieces generalizing l with
  | nil =>
    rw [List.nil_append, walk_cons, walk, Except.ok.injEq, stepFrom_name l hn] at h
    exact ⟨l, h.2.2.symm⟩
  | cons piece pieces ih =>
    rw [List.cons_append, walk_cons] at h
    exact ih h.2.2

/-! ## Looking -/

theorem resolve_eq_ok {p : Path} :
    t.resolve cwd p = .ok m ↔ checkPath p = .ok () ∧ t.walk (origin cwd p) p.pieces = .ok m := by
  unfold resolve
  cases checkPath p with
  | error e => simp [bind, Except.bind]
  | ok done => simp [bind, Except.bind]

theorem open?_eq_ok {p : Path} {node : FileTree} :
    t.open? cwd p = .ok node ↔ ∃ m, t.resolve cwd p = .ok m ∧ t.lookup m = some node := by
  unfold open?
  cases t.resolve cwd p with
  | error e => simp [bind, Except.bind]
  | ok m => cases hlookup : t.lookup m <;> simp [bind, Except.bind, pure, Except.pure, hlookup]

theorem read_eq_ok {p : Path} {bytes : ByteArray} :
    t.read cwd p = .ok bytes ↔
      ∃ m, t.resolve cwd p = .ok m ∧ t.entryAt? m = some (.file bytes) := by
  have hread : t.read cwd p = .ok bytes ↔ t.open? cwd p = .ok (file bytes) := by
    unfold read
    cases t.open? cwd p with
    | error e => simp [bind, Except.bind]
    | ok node => cases node <;> simp [bind, Except.bind, pure, Except.pure]
  rw [hread, open?_eq_ok]
  simp only [← fileAt?_eq_some_iff, fileAt?]
  refine exists_congr fun m => and_congr_right fun _ => ?_
  rcases t.lookup m with - | - | - <;> simp

theorem origin_toPath (cwd l : Location) : origin cwd l.toPath = [] := by
  rw [origin, if_pos (Location.isAbsolute_toPath l)]

/-- The path of a place leads to that place only. -/
theorem resolve_toPath_inv (hl : l.Proper) (h : t.resolve cwd l.toPath = .ok m) :
    t.entryAt? [] = some .dir ∧ m = l ∧ l.Usable := by
  rw [resolve_eq_ok, origin_toPath, checkPath_toPath, walk_pieces_toPath hl, walk_rooted] at h
  obtain ⟨⟨hnul, hfits⟩, hroot, hwalk⟩ := h
  obtain ⟨hm, hnames⟩ := eq_append_of_walk hl hwalk
  exact ⟨hroot, hm, hnul, hfits, hnames⟩

/-- The path of a place where something is leads there. -/
theorem resolve_toPath (hl : l.Proper) (h : t.entryAt? l ≠ none)
    (hroot : t.entryAt? [] = some .dir) (husable : l.Usable) :
    t.resolve cwd l.toPath = .ok l := by
  rw [resolve_eq_ok, origin_toPath, checkPath_toPath, walk_pieces_toPath hl, walk_rooted]
  exact ⟨⟨husable.no_nul, husable.path_fits⟩, hroot,
    walk_append (l := []) hl husable.name_fits h⟩

/-- The path of an entry in a directory leads to an entry of that name. -/
theorem resolve_child {p : Path} (hn : IsName n) (h : t.resolve cwd (p.child n) = .ok m) :
    ∃ l, m = l ++ [n] := by
  obtain ⟨pieces, hpieces⟩ := Path.exists_pieces_child p hn
  rw [resolve_eq_ok, hpieces] at h
  exact walk_append_name hn h.2

/-- Reading the path of a place gives the bytes of the file that is there. -/
theorem read_toPath {bytes : ByteArray} (hl : l.Proper) :
    t.read cwd l.toPath = .ok bytes ↔
      l ≠ [] ∧ l.Usable ∧ t.entryAt? l = some (.file bytes) := by
  rw [read_eq_ok]
  constructor
  · rintro ⟨m, hresolve, hentry⟩
    obtain ⟨hroot, rfl, husable⟩ := resolve_toPath_inv hl hresolve
    refine ⟨?_, husable, hentry⟩
    rintro rfl
    rw [hentry] at hroot
    cases hroot
  · rintro ⟨hne, husable, hentry⟩
    have hroot : t.entryAt? [] = some .dir :=
      entryAt?_above List.nil_prefix (Ne.symm hne) (by simp [hentry])
    exact ⟨l, resolve_toPath hl (by simp [hentry]) hroot husable, hentry⟩

theorem isDir_iff {p : Path} :
    t.isDir cwd p = true ↔ ∃ m, t.resolve cwd p = .ok m ∧ t.entryAt? m = some .dir := by
  have hopen : t.isDir cwd p = true ↔ ∃ es, t.open? cwd p = .ok (dir es) := by
    unfold isDir
    rcases t.open? cwd p with e | (contents | es) <;> simp
  rw [hopen]
  constructor
  · rintro ⟨es, h⟩
    obtain ⟨m, hresolve, hlookup⟩ := open?_eq_ok.1 h
    refine ⟨m, hresolve, ?_⟩
    rw [entryAt?, hlookup]
    rfl
  · rintro ⟨m, hresolve, hdir⟩
    obtain ⟨es, hlookup⟩ := exists_dir_of_entryAt? hdir
    exact ⟨es, open?_eq_ok.2 ⟨m, hresolve, hlookup⟩⟩

theorem isDir_toPath (hl : l.Proper) :
    t.isDir cwd l.toPath = true ↔ l.Usable ∧ t.entryAt? l = some .dir := by
  rw [isDir_iff]
  constructor
  · rintro ⟨m, hresolve, hdir⟩
    obtain ⟨-, rfl, husable⟩ := resolve_toPath_inv hl hresolve
    exact ⟨husable, hdir⟩
  · rintro ⟨husable, hdir⟩
    have hroot : t.entryAt? [] = some .dir := entryAt?_dir_above List.nil_prefix hdir
    exact ⟨l, resolve_toPath hl (by simp [hdir]) hroot husable, hdir⟩

/-! ## Reading again -/

/-- Where directories stay, paths lead to the same places. -/
theorem walk_stable {pieces : List String}
    (hdirs : ∀ l, t.entryAt? l = some .dir → u.entryAt? l = some .dir)
    (h : t.walk l pieces = .ok m) : u.walk l pieces = .ok m := by
  induction pieces generalizing l with
  | nil => exact h
  | cons piece pieces ih =>
    obtain ⟨hdir, hfits, hrest⟩ := walk_cons.1 h
    exact walk_cons.2 ⟨hdirs l hdir, hfits, ih hrest⟩

theorem resolve_stable {p : Path}
    (hdirs : ∀ l, t.entryAt? l = some .dir → u.entryAt? l = some .dir)
    (h : t.resolve cwd p = .ok m) : u.resolve cwd p = .ok m := by
  obtain ⟨hcheck, hwalk⟩ := resolve_eq_ok.1 h
  exact resolve_eq_ok.2 ⟨hcheck, walk_stable hdirs hwalk⟩

theorem isDir_stable {p : Path}
    (hdirs : ∀ l, t.entryAt? l = some .dir → u.entryAt? l = some .dir)
    (h : t.isDir cwd p = true) : u.isDir cwd p = true := by
  obtain ⟨m, hresolve, hdir⟩ := isDir_iff.1 h
  exact isDir_iff.2 ⟨m, resolve_stable hdirs hresolve, hdirs m hdir⟩

/-- What was read is read again, if directories stay and so does the file. -/
theorem read_stable {p : Path} {bytes : ByteArray}
    (hdirs : ∀ l, t.entryAt? l = some .dir → u.entryAt? l = some .dir)
    (hfile : ∀ l, t.resolve cwd p = .ok l → t.entryAt? l = some (.file bytes) →
      u.entryAt? l = some (.file bytes))
    (h : t.read cwd p = .ok bytes) : u.read cwd p = .ok bytes := by
  obtain ⟨m, hresolve, hentry⟩ := read_eq_ok.1 h
  exact read_eq_ok.2 ⟨m, resolve_stable hdirs hresolve, hfile m hresolve hentry⟩

/-! ## New entries -/

theorem isName_of_proper_append (h : Location.Proper (l ++ [n])) : IsName n :=
  Location.proper_singleton.1 (Location.proper_append.1 h).2

theorem proper_of_proper_append (h : Location.Proper (l ++ [n])) : l.Proper :=
  (Location.proper_append.1 h).1

/-- The last piece of a place's path is its last name, with no slash behind it. -/
theorem dropWhile_pieces_toPath (h : Location.Proper (l ++ [n])) :
    ((Location.toPath (l ++ [n])).pieces.reverse.dropWhile (· = "")).reverse =
      "" :: l ++ [n] := by
  have hn : n ≠ "" := (isName_of_proper_append h).ne_empty
  rw [Location.pieces_toPath h (by simp), ← List.cons_append, List.reverse_append,
    List.reverse_singleton, List.singleton_append, List.dropWhile_cons_of_neg (by simpa using hn)]
  simp

theorem slot_eq_ok {p : Path} {s : Slot} {kept : List String}
    (hkept : (p.pieces.reverse.dropWhile (· = "")).reverse = kept) :
    t.slot cwd p = .ok s ↔
      checkPath p = .ok () ∧ t.walk (origin cwd p) kept.dropLast = .ok s.parent ∧
        t.entryAt? s.parent = some .dir ∧ nameFits s.last = true ∧
        s.last = kept.getLastD "" ∧ s.slash = decide (kept.length < p.pieces.length) := by
  obtain ⟨q, last, slash⟩ := s
  simp only [slot, hkept]
  cases checkPath p with
  | error e => simp [bind, Except.bind]
  | ok done =>
    cases t.walk (origin cwd p) kept.dropLast with
    | error e => simp [bind, Except.bind]
    | ok parent =>
      simp only [bind, Except.bind, true_and, Except.ok.injEq]
      -- only where the walk ends in the slot's own parent is there anything to show
      by_cases hparent : parent = q
      · subst hparent
        rw [entryAt?]
        rcases t.lookup parent with - | contents | es
        · simp 
        · simp [entry]
        · by_cases hlast : nameFits (kept.getLastD "") = true
          · rw [if_pos hlast]
            simp only [pure, Except.pure, Except.ok.injEq, Slot.mk.injEq, true_and, Option.map_some,
              entry]
            constructor
            · rintro ⟨rfl, hslash⟩
              exact ⟨hlast, rfl, hslash.symm⟩
            · rintro ⟨-, hname, hslash⟩
              exact ⟨hname.symm, hslash.symm⟩
          · rw [if_neg hlast]
            simp only [throw_ne_ok, false_iff]
            rintro ⟨-, -, hfits, rfl, -⟩
            exact hlast hfits
      · rcases t.lookup parent with - | contents | es
        · simp [hparent]
        · simp [hparent]
        · by_cases hlast : nameFits (kept.getLastD "") = true
          · rw [if_pos hlast]
            simp [pure, Except.pure, hparent]
          · rw [if_neg hlast]
            simp [hparent]

/-- The path of a place gives a new entry that place, if its directory is there. -/
theorem slot_toPath {s : Slot} (h : Location.Proper (l ++ [n])) :
    t.slot cwd (Location.toPath (l ++ [n])) = .ok s ↔
      s = ⟨l, n, false⟩ ∧ Location.Usable (l ++ [n]) ∧ t.entryAt? l = some .dir := by
  have hl : l.Proper := proper_of_proper_append h
  have hlength : (Location.toPath (l ++ [n])).pieces.length = ("" :: l ++ [n]).length := by
    rw [Location.pieces_toPath h (by simp), List.cons_append]
  rw [slot_eq_ok (dropWhile_pieces_toPath h), checkPath_toPath, origin_toPath, hlength,
    List.dropLast_concat, List.getLastD_concat, walk_rooted]
  obtain ⟨parent, last, slash⟩ := s
  constructor
  · -- the limits on the names come from the walk, that on the last one from the slot
    rintro ⟨⟨hnul, hfits⟩, ⟨hroot, hwalk⟩, hdir, hlast, hname, hslash⟩
    obtain ⟨rfl, hnames⟩ := eq_append_of_walk hl hwalk
    obtain rfl : last = n := hname
    refine ⟨by simpa using hslash, ⟨hnul, hfits, fun r hr => ?_⟩, hdir⟩
    rcases List.mem_append.1 hr with hr | hr
    · exact hnames r hr
    · rw [List.mem_singleton.1 hr]
      exact hlast
  · rintro ⟨hs, husable, hdir⟩
    obtain ⟨rfl, rfl, rfl⟩ := Slot.mk.inj hs
    have hroot : t.entryAt? [] = some .dir := entryAt?_dir_above List.nil_prefix hdir
    have hwalk : t.walk [] parent = .ok parent :=
      walk_append (l := []) hl (fun r hr => husable.name_fits r (List.mem_append_left _ hr))
        (by simp [hdir])
    have hlast : nameFits last = true := husable.name_fits last (by simp)
    exact ⟨⟨husable.no_nul, husable.path_fits⟩, ⟨hroot, hwalk⟩, hdir, hlast, rfl, by simp⟩

theorem location?_name (hn : IsName n) (slash : Bool) :
    Slot.location? ⟨l, n, slash⟩ = some (l ++ [n]) := by
  rw [Slot.location?, if_neg (by simp [hn.ne_empty, hn.ne_here, hn.ne_up])]

theorem dropWhile_pieces_root :
    ((Location.toPath []).pieces.reverse.dropWhile (· = "")).reverse = [] := by
  rw [Location.pieces_toPath_nil]
  rfl

/-! ## Making directories -/

theorem makeDir_eq_ok {p : Path} :
    t.makeDir cwd p = .ok u ↔
      ∃ s m, t.slot cwd p = .ok s ∧ s.location? = some m ∧ t.entryAt? m = none ∧
        u = insert (dir []) m t := by
  unfold makeDir
  cases t.slot cwd p with
  | error e => simp [bind, Except.bind]
  | ok s =>
    cases hlocation : s.location? with
    | none => simp [bind, Except.bind, hlocation]
    | some m =>
      simp only [← lookup_eq_none_iff]
      cases hlookup : t.lookup m with
      | none => simp [bind, Except.bind, pure, Except.pure, hlocation, hlookup, eq_comm]
      | some node =>
        simp [bind, Except.bind, hlocation, hlookup]

theorem entryAt?_insert_dir (hdir : t.entryAt? l = some .dir) (hnone : t.entryAt? (l ++ [n]) = none)
    (m : Location) :
    (insert (dir []) (l ++ [n]) t).entryAt? m =
      if m = l ++ [n] then some .dir else t.entryAt? m :=
  entryAt?_insert hdir (by simp [hnone]) isLeaf_emptyDir m

theorem makeDir_of_dir (hl : l.Proper) (husable : l.Usable) (hdir : t.entryAt? l = some .dir) :
    t.makeDir cwd l.toPath = .error .alreadyExists := by
  unfold makeDir
  rcases List.eq_nil_or_concat' l with rfl | ⟨p, n, rfl⟩
  · -- the root has a slot without a name
    have hslot : t.slot cwd (Location.toPath []) = .ok ⟨[], "", true⟩ := by
      rw [slot_eq_ok dropWhile_pieces_root, checkPath_toPath, origin_toPath, Location.pieces_toPath_nil]
      exact ⟨⟨husable.no_nul, husable.path_fits⟩, rfl, hdir, by decide, rfl, by simp⟩
    rw [hslot]
    rfl
  · have hp : t.entryAt? p = some .dir := entryAt?_of_append (List.cons_ne_nil n []) (by simp [hdir])
    obtain ⟨es, hlookup⟩ := exists_dir_of_entryAt? hdir
    rw [(slot_toPath hl).2 ⟨rfl, husable, hp⟩]
    simp only [bind, Except.bind, location?_name (isName_of_proper_append hl), hlookup]
    rfl

/-- A directory that is there is not made again. -/
theorem makeDirs_of_dir (hl : l.Proper) (husable : l.Usable) (hdir : t.entryAt? l = some .dir) :
    t.makeDirs cwd l.toPath = (t, none) := by
  have hmake : t.makeDir cwd l.toPath = .error .alreadyExists := makeDir_of_dir hl husable hdir
  have hensure : t.ensureDir cwd l.toPath = (t, none) := by
    simp only [ensureDir, hmake, (isDir_toPath hl).2 ⟨husable, hdir⟩, if_true]
  rw [makeDirs, Path.ancestors, Path.ancestorsFrom, ensureChain,
    if_neg (Location.toPath_text_ne_empty l), hmake]
  -- the error is not `notFound`, so the chain goes no further up
  exact hensure

/-! ## Moving a file -/

theorem moveFile_eq_ok {source : Location} {p : Path} :
    t.moveFile cwd source p = .ok u ↔
      ∃ s m contents, t.slot cwd p = .ok s ∧ s.location? = some m ∧
        t.fileAt? source = some contents ∧ s.slash = false ∧ (m <+: source → m = source) ∧
        t.hasDir m = false ∧ u = insert (file contents) m (erase source t) := by
  unfold moveFile
  cases t.slot cwd p with
  | error e => simp [bind, Except.bind]
  | ok s =>
    cases hlocation : s.location? with
    | none => simp [bind, Except.bind, hlocation]
    | some m =>
      cases t.fileAt? source with
      | none => simp [bind, Except.bind, hlocation]
      | some contents =>
        simp only [bind, Except.bind, hlocation, Option.some.injEq]
        constructor
        · intro h
          split_ifs at h with hslash habove hdir
          obtain rfl := Except.ok.inj h
          refine ⟨s, m, contents, rfl, hlocation, rfl, by simpa using hslash, ?_,
            by simpa using hdir, rfl⟩
          intro hpre
          by_contra hne
          exact habove ⟨List.isPrefixOf_iff_prefix.2 hpre, hne⟩
        · -- there is one slot and one place only, so those that are given are these
          rintro ⟨s', m', contents', hs, hm, rfl, hslash, habove, hdir, rfl⟩
          obtain rfl : s = s' := Except.ok.inj hs
          obtain rfl : m = m' := Option.some.inj (hlocation.symm.trans hm)
          rw [if_neg (by simp [hslash]), if_neg, if_neg (by simp [hdir])]
          · rfl
          · rintro ⟨hpre, hne⟩
            exact hne (habove (List.isPrefixOf_iff_prefix.1 hpre))

/-- A file is moved into a directory, and not over a directory or to where it would
    lie below itself. -/
theorem moveFile_toPath {source : Location} (h : Location.Proper (l ++ [n])) :
    t.moveFile cwd source (Location.toPath (l ++ [n])) = .ok u ↔
      Location.Usable (l ++ [n]) ∧ t.entryAt? l = some .dir ∧ t.entryAt? (l ++ [n]) ≠ some .dir ∧
        (l ++ [n] <+: source → l ++ [n] = source) ∧
        ∃ contents, t.entryAt? source = some (.file contents) ∧
          u = insert (file contents) (l ++ [n]) (erase source t) := by
  have hlocation (slash : Bool) : Slot.location? ⟨l, n, slash⟩ = some (l ++ [n]) :=
    location?_name (isName_of_proper_append h) slash
  rw [moveFile_eq_ok]
  constructor
  · rintro ⟨s, m, contents, hslot, hm, hfile, -, habove, hdir, hu⟩
    obtain ⟨rfl, husable, hparent⟩ := (slot_toPath h).1 hslot
    rw [hlocation, Option.some.injEq] at hm
    subst hm
    refine ⟨husable, hparent, ?_, habove, contents, fileAt?_eq_some_iff.1 hfile, hu⟩
    rw [Ne, ← hasDir_iff, hdir]
    exact Bool.false_ne_true
  · rintro ⟨husable, hparent, hdir, habove, contents, hfile, hu⟩
    have hslot : t.slot cwd (Location.toPath (l ++ [n])) = .ok ⟨l, n, false⟩ :=
      (slot_toPath h).2 ⟨rfl, husable, hparent⟩
    refine ⟨_, _, contents, hslot, hlocation false, fileAt?_eq_some_iff.2 hfile, rfl, habove, ?_, hu⟩
    rw [Ne, ← hasDir_iff, Bool.not_eq_true] at hdir
    exact hdir

/-- A file that was moved is at its new place, no longer at its old one, and all
    else is where it was. -/
theorem entryAt?_moveFile {contents : ByteArray} {q : Location} {k : String}
    (hfile : t.entryAt? (q ++ [k]) = some (.file contents)) (hparent : t.entryAt? l = some .dir)
    (hdir : t.entryAt? (l ++ [n]) ≠ some .dir) (m : Location) :
    (insert (file contents) (l ++ [n]) (erase (q ++ [k]) t)).entryAt? m =
      if m = l ++ [n] then some (.file contents)
      else if m = q ++ [k] then none else t.entryAt? m := by
  -- nothing lies below a file, so erasing it empties its own place only
  have herase (m : Location) :
      (erase (q ++ [k]) t).entryAt? m = if m = q ++ [k] then none else t.entryAt? m := by
    rw [entryAt?_erase]
    by_cases hm : m = q ++ [k]
    · rw [if_pos (hm ▸ List.prefix_rfl), if_pos hm]
    · rw [if_neg hm]
      split_ifs with hpre
      · exact (entryAt?_eq_none_below hpre (Ne.symm hm) (by simp [hfile])).symm
      · rfl
  -- the parent is a directory and the source a file, so the parent is not erased
  have hparent' : (erase (q ++ [k]) t).entryAt? l = some .dir := by
    rw [herase, if_neg, hparent]
    rintro rfl
    rw [hfile] at hparent
    cases hparent
  have hplace : (erase (q ++ [k]) t).entryAt? (l ++ [n]) ≠ some .dir := by
    rw [herase]
    split_ifs
    · simp
    · exact hdir
  rw [entryAt?_insert hparent' hplace (isLeaf_file contents), herase]
  rfl

/-- What can be in the way of a file that is there, when the directory that it goes
    to is there as well. -/
theorem moveFile_error {source : Location} {contents : ByteArray} {e : FileError}
    (h : Location.Proper (l ++ [n])) (hfile : t.entryAt? source = some (.file contents))
    (hparent : t.entryAt? l = some .dir) (habove : ¬ l ++ [n] <+: source)
    (herror : t.moveFile cwd source (Location.toPath (l ++ [n])) = .error e) :
    ¬ Location.Usable (l ++ [n]) ∨ t.entryAt? (l ++ [n]) = some .dir := by
  -- if neither holds, all that a move asks for is there
  by_contra hnone
  rw [not_or, not_not] at hnone
  have hmove : t.moveFile cwd source (Location.toPath (l ++ [n])) =
      .ok (insert (file contents) (l ++ [n]) (erase source t)) :=
    (moveFile_toPath h).2
      ⟨hnone.1, hparent, hnone.2, fun hpre => absurd hpre habove, contents, hfile, rfl⟩
  rw [hmove] at herror
  cases herror

end FileTree

end GrammarBindings
