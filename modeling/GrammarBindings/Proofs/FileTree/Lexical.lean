/-
  GrammarBindings.Proofs.FileTree.Lexical

  File operations given any path.  In a tree without links a path that can be followed
  ends where its text says, with every `..` taking back the name before it.  So whatever
  a path looks like, an operation on it changes files at one place only, that of the path
  read from the working directory:

    * `Location.along` — the place that a path leads to from another place.
    * `eq_along_of_resolve`, `eq_along_of_slot` — where paths lead in a tree.
    * `fileAt?_insert`, `fileAt?_erase` — files beside a place that is changed.
    * `makeDirs_grows`, `isDir_of_makeDirs` — making directories adds them where the path
      passes, and in the end its own is there.
    * `fileAt?_moveFile` — files beside the two places of a move.
-/
import GrammarBindings.Proofs.FileTree.Access
import GrammarBindings.Proofs.Path.Join

namespace GrammarBindings

/-- The place that is reached from a place along a path: from the root if the path is
    absolute, down by its names and up by each `..`, at the root no further. -/
def Location.along (l : Location) (p : Path) : Location :=
  p.pieces.foldl FileTree.stepFrom (FileTree.origin l p)

/-- A path that is within the limits on paths and names. -/
structure Path.Admissible (p : Path) : Prop where
  check : FileTree.checkPath p = .ok ()
  name_fits : ∀ s ∈ p.pieces, nameFits s = true

/-- The places that are passed on the way to a path, its own included. -/
def Path.Passes (cwd : Location) (p : Path) (l : Location) : Prop :=
  ∃ q ∈ p.ancestors, cwd.along q = l

namespace FileTree

variable {t u : FileTree} {cwd l m : Location} {p : Path}

/-! ## Where a path leads -/

/-- Following pieces ends where they lead one by one. -/
theorem eq_foldl_of_walk {pieces : List String} (h : t.walk l pieces = .ok m) :
    m = pieces.foldl stepFrom l := by
  induction pieces generalizing l with
  | nil =>
    rw [walk, Except.ok.injEq] at h
    exact h.symm
  | cons piece pieces ih =>
    rw [walk_cons] at h
    exact ih h.2.2

/-- Pieces lead to the same place in a tree and as the components of a route. -/
theorem foldl_step_pieces (pieces : List String) (l : Location) :
    (pieces.filterMap Component.ofPiece?).foldl Route.step ⟨.root, l⟩ =
      ⟨.root, pieces.foldl stepFrom l⟩ := by
  induction pieces generalizing l with
  | nil => rfl
  | cons piece pieces ih =>
    rw [List.filterMap_cons, List.foldl_cons, ← ih, stepFrom, Component.ofPiece?]
    split_ifs with hnone hup
    · rfl
    · -- at the root there is nothing to take back
      have hclimb : Route.step ⟨.root, l⟩ .up = ⟨.root, l.dropLast⟩ := by
        cases l <;> rfl
      rw [List.foldl_cons, hclimb]
    · rfl

/-- The components of a path lead the same way as its pieces. -/
theorem foldl_step_components (p : Path) (l : Location) :
    p.components.foldl Route.step ⟨.root, l⟩ = ⟨.root, l.along p⟩ := by
  rw [Path.foldl_components, Path.steps, Location.along, origin]
  split_ifs
  · rw [foldl_step_pieces]
  · rw [foldl_step_pieces]

/-- The place of a path that is read from a working directory. -/
theorem place_join_toPath (hcwd : cwd.Proper) (p : Path) :
    (cwd.toPath.join p).place = cwd.along p := by
  rw [Path.place, Path.route_join, Location.route_toPath hcwd, foldl_step_components]

/-- An absolute path leads to its place from everywhere. -/
theorem along_of_isAbsolute (hp : p.isAbsolute = true) (l : Location) : l.along p = p.place := by
  have hfold := foldl_step_components p l
  rw [Path.foldl_components, if_pos hp] at hfold
  rw [Path.place, Path.route_eq_foldl_steps, if_pos hp, hfold]

theorem eq_along_of_resolve (h : t.resolve cwd p = .ok m) : m = cwd.along p :=
  eq_foldl_of_walk (resolve_eq_ok.1 h).2

theorem eq_place_of_resolve (hcwd : cwd.Proper) (h : t.resolve cwd p = .ok m) :
    m = (cwd.toPath.join p).place := by
  rw [place_join_toPath hcwd, eq_along_of_resolve h]

/-- Slashes at the end of a path lead nowhere else. -/
theorem foldl_stepFrom_slashes {slashes : List String} (h : ∀ s ∈ slashes, s = "") (l : Location) :
    slashes.foldl stepFrom l = l := by
  induction slashes with
  | nil => rfl
  | cons s slashes ih =>
    rw [List.forall_mem_cons] at h
    rw [List.foldl_cons, h.1, stepFrom, if_pos (Or.inl rfl), ih h.2]

/-- The pieces of a path that gives a place to a new entry: those on the way to the parent,
    the name of the entry, and the slashes behind it. -/
theorem exists_pieces_of_slot {s : Slot} (h : t.slot cwd p = .ok s)
    (hs : s.location? = some m) :
    ∃ way slashes, p.pieces = way ++ s.last :: slashes ∧ (∀ piece ∈ slashes, piece = "") ∧
      (s.slash = false → slashes = []) ∧ t.walk (origin cwd p) way = .ok s.parent ∧
      stepFrom s.parent s.last = m := by
  obtain ⟨-, hwalk, -, -, hlast, hslash⟩ := (slot_eq_ok rfl).1 h
  have hsplit : p.pieces = (p.pieces.reverse.dropWhile (· = "")).reverse ++
      (p.pieces.reverse.takeWhile (· = "")).reverse := by
    rw [← List.reverse_append, List.takeWhile_append_dropWhile, List.reverse_reverse]
  have hslashes : ∀ s ∈ (p.pieces.reverse.takeWhile (· = "")).reverse, s = "" := by
    intro s hs
    simpa using List.all_eq_true.1 List.all_takeWhile s (List.mem_reverse.1 hs)
  generalize (p.pieces.reverse.dropWhile (· = "")).reverse = kept at hwalk hlast hslash hsplit
  generalize (p.pieces.reverse.takeWhile (· = "")).reverse = slashes at hsplit hslashes
  rw [Slot.location?] at hs
  split_ifs at hs with hname
  simp only [not_or] at hname
  -- the last piece is a name, so there is one, and it leads one step down from the parent
  have hne : kept ≠ [] := by
    rintro rfl
    exact hname.1 hlast
  have hkept : kept = kept.dropLast ++ [s.last] := by
    rw [hlast, List.getLastD_eq_getLast?, List.getLast?_eq_some_getLast hne, Option.getD_some,
      List.dropLast_concat_getLast]
  refine ⟨kept.dropLast, slashes, ?_, hslashes, fun hfalse => ?_, hwalk, ?_⟩
  · rw [hsplit]
    conv_lhs => rw [hkept]
    rw [List.append_assoc, List.singleton_append]
  · rw [hfalse, hsplit, List.length_append, eq_comm, decide_eq_false_iff_not] at hslash
    rw [← List.length_eq_zero_iff]
    omega
  · rw [stepFrom, if_neg (by simp [hname]), if_neg hname.2.2]
    exact Option.some.inj hs

/-- A new entry gets the place of its path. -/
theorem eq_along_of_slot {s : Slot} (h : t.slot cwd p = .ok s) (hs : s.location? = some m) :
    m = cwd.along p := by
  obtain ⟨way, slashes, hpieces, hslashes, -, hwalk, hm⟩ := exists_pieces_of_slot h hs
  rw [Location.along, hpieces, List.foldl_append, ← eq_foldl_of_walk hwalk, List.foldl_cons,
    foldl_stepFrom_slashes hslashes, hm]

theorem eq_place_of_slot {s : Slot} (hcwd : cwd.Proper) (h : t.slot cwd p = .ok s)
    (hs : s.location? = some m) : m = (cwd.toPath.join p).place := by
  rw [place_join_toPath hcwd, eq_along_of_slot h hs]

/-! ## Paths within the limits -/

theorem nameFits_of_walk {pieces : List String} (h : t.walk l pieces = .ok m) :
    ∀ s ∈ pieces, nameFits s = true := by
  induction pieces generalizing l with
  | nil => simp
  | cons piece pieces ih =>
    obtain ⟨-, hfits, hrest⟩ := walk_cons.1 h
    exact List.forall_mem_cons.2 ⟨hfits, ih hrest⟩

/-- A path that can give a place to a new entry is within the limits. -/
theorem admissible_of_slot {s : Slot} (h : t.slot cwd p = .ok s) (hs : s.location? = some m) :
    p.Admissible := by
  have hempty : nameFits "" = true := by decide
  obtain ⟨hcheck, -, -, hlast, -, -⟩ := (slot_eq_ok rfl).1 h
  obtain ⟨way, slashes, hpieces, hslashes, -, hwalk, -⟩ := exists_pieces_of_slot h hs
  refine ⟨hcheck, fun r hr => ?_⟩
  rw [hpieces, List.mem_append, List.mem_cons] at hr
  rcases hr with hr | rfl | hr
  · exact nameFits_of_walk hwalk r hr
  · exact hlast
  · rw [hslashes r hr, hempty]

theorem usable_of_admissible (hp : p.Canonical) (h : p.Admissible) : p.place.Usable := by
  obtain ⟨hcheck, hnames⟩ := h
  rw [hp.eq_toPath] at hcheck hnames
  obtain ⟨hnul, hfits⟩ := (checkPath_toPath _).1 hcheck
  refine ⟨hnul, hfits, fun s hs => hnames s ?_⟩
  rw [Location.pieces_toPath p.proper_place (List.ne_nil_of_mem hs)]
  exact List.mem_cons_of_mem _ hs

/-! ## Files beside a place that is changed -/

/-- What is put at a place changes no file beside it, also where directories have to be
    made up on the way. -/
theorem fileAt?_insert (node : FileTree) (h : ¬ l <+: m) :
    (insert node l t).fileAt? m = t.fileAt? m := by
  have hfile (bytes : ByteArray) : (insert node l t).entryAt? m = some (.file bytes) ↔
      t.entryAt? m = some (.file bytes) := by
    induction l generalizing t m with
    | nil => exact absurd List.nil_prefix h
    | cons n l ih =>
      cases t with
      | file contents => rfl
      | dir es =>
        cases m with
        | nil => simp [insert, entry]
        | cons a m =>
          rw [insert]
          by_cases ha : a = n
          · subst ha
            rw [List.cons_prefix_cons, not_and] at h
            rw [entryAt?_putChild_self, ih (h rfl), entryAt?_dir_cons]
            cases child? a es with
            | none => cases m <;> simp [entry, child?]
            | some u => rfl
          · rw [entryAt?_putChild_other _ ha]
  exact fileAt?_congr hfile

theorem fileAt?_erase (h : ¬ l <+: m) : (erase l t).fileAt? m = t.fileAt? m := by
  obtain ⟨p, n, rfl⟩ : ∃ p n, l = p ++ [n] := by
    refine (List.eq_nil_or_concat' l).resolve_left ?_
    rintro rfl
    exact h List.nil_prefix
  refine fileAt?_congr fun bytes => ?_
  rw [entryAt?_erase, if_neg h]

/-! ## Operations given any path -/

theorem makeDir_grows (h : t.makeDir cwd p = .ok u) : Grows (cwd.along p = ·) t u := by
  obtain ⟨s, m, hslot, hm, hnone, rfl⟩ := makeDir_eq_ok.1 h
  have hparent := ((slot_eq_ok rfl).1 hslot).2.2.1
  have hplace := eq_along_of_slot hslot hm
  rw [Slot.location?] at hm
  split_ifs at hm
  obtain rfl := Option.some.inj hm
  intro l
  rw [entryAt?_insert_dir hparent hnone]
  split_ifs with hl
  · exact Or.inr ⟨hl ▸ hnone, rfl, hplace.symm.trans hl.symm⟩
  · exact Or.inl rfl

theorem ensureDir_grows (t : FileTree) (cwd : Location) (p : Path) :
    Grows (cwd.along p = ·) t (t.ensureDir cwd p).1 := by
  unfold ensureDir
  cases hmake : t.makeDir cwd p with
  | ok u => exact makeDir_grows hmake
  | error e =>
    by_cases hdir : t.isDir cwd p = true
    · simp only [hdir, if_true]
      exact Grows.refl _ t
    · simp only [hdir]
      exact Grows.refl _ t

theorem ensureChain_grows (t : FileTree) (cwd : Location) (ps : List Path) :
    Grows (fun l => ∃ q ∈ ps, cwd.along q = l) t (t.ensureChain cwd ps).1 := by
  induction ps with
  | nil => exact Grows.refl _ t
  | cons p ps ih =>
    have hfirst (v : FileTree) :
        Grows (fun l => ∃ q ∈ p :: ps, cwd.along q = l) v (v.ensureDir cwd p).1 :=
      (ensureDir_grows v cwd p).mono fun _ hl => ⟨p, List.mem_cons_self, hl⟩
    have hrest : Grows (fun l => ∃ q ∈ p :: ps, cwd.along q = l) t (t.ensureChain cwd ps).1 :=
      ih.mono fun _ ⟨q, hq, hl⟩ => ⟨q, List.mem_cons_of_mem _ hq, hl⟩
    rw [ensureChain]
    split
    · exact Grows.refl _ t
    · split
      · -- the directories above come first, and then this one
        rcases hchain : t.ensureChain cwd ps with ⟨v, failure⟩
        rw [hchain] at hrest
        cases failure with
        | none => exact hrest.trans (hfirst v)
        | some e => exact hrest
      · exact hfirst t

/-- Making directories adds directories that are passed on the way, whatever their path is. -/
theorem makeDirs_grows (t : FileTree) (cwd : Location) (p : Path) :
    Grows (p.Passes cwd) t (t.makeDirs cwd p).1 :=
  ensureChain_grows t cwd p.ancestors

theorem fileAt?_makeDirs (t : FileTree) (cwd : Location) (p : Path) (l : Location) :
    (t.makeDirs cwd p).1.fileAt? l = t.fileAt? l :=
  (makeDirs_grows t cwd p).fileAt?_eq l

/-! ## Directories that were made -/

theorem walk_append_eq_ok {pieces more : List String} {k : Location}
    (h : t.walk l pieces = .ok k) (hmore : t.walk k more = .ok m) :
    t.walk l (pieces ++ more) = .ok m := by
  induction pieces generalizing l with
  | nil =>
    rw [walk, Except.ok.injEq] at h
    rw [List.nil_append, h, hmore]
  | cons piece pieces ih =>
    obtain ⟨hdir, hfits, hrest⟩ := walk_cons.1 h
    exact walk_cons.2 ⟨hdir, hfits, ih hrest⟩

theorem walk_slashes {slashes : List String} (h : ∀ s ∈ slashes, s = "")
    (hdir : t.entryAt? l = some .dir) : t.walk l slashes = .ok l := by
  have hempty : nameFits "" = true := by decide
  induction slashes with
  | nil => rfl
  | cons s slashes ih =>
    rw [List.forall_mem_cons] at h
    rw [h.1, walk_cons]
    exact ⟨hdir, hempty, ih h.2⟩

/-- The path of a new entry leads to its place, once a directory is there or if no slash
    follows its name. -/
theorem resolve_of_slot {s : Slot} (h : t.slot cwd p = .ok s) (hs : s.location? = some m)
    (hdirs : ∀ l, t.entryAt? l = some .dir → u.entryAt? l = some .dir)
    (hslash : s.slash = true → u.entryAt? m = some .dir) : u.resolve cwd p = .ok m := by
  obtain ⟨hcheck, -, hparent, hlast, -, -⟩ := (slot_eq_ok rfl).1 h
  obtain ⟨way, slashes, hpieces, hslashes, hnone, hwalk, hm⟩ := exists_pieces_of_slot h hs
  rw [resolve_eq_ok, hpieces]
  refine ⟨hcheck, walk_append_eq_ok (walk_stable hdirs hwalk) ?_⟩
  rw [walk_cons, hm]
  refine ⟨hdirs _ hparent, hlast, ?_⟩
  cases hs : s.slash with
  | true => exact walk_slashes hslashes (hslash hs)
  | false =>
    rw [hnone hs]
    rfl

theorem isDir_of_makeDir (h : t.makeDir cwd p = .ok u) : u.isDir cwd p = true := by
  obtain ⟨s, m, hslot, hm, hnone, rfl⟩ := makeDir_eq_ok.1 h
  have hparent := ((slot_eq_ok rfl).1 hslot).2.2.1
  have hgrows := makeDir_grows h
  have hplace : (insert (dir []) m t).entryAt? m = some .dir := by
    rw [Slot.location?] at hm
    split_ifs at hm
    obtain rfl := Option.some.inj hm
    rw [entryAt?_insert_dir hparent hnone, if_pos rfl]
  exact isDir_iff.2
    ⟨m, resolve_of_slot hslot hm (fun _ => hgrows.entryAt?_of_some) fun _ => hplace, hplace⟩

theorem isDir_of_ensureDir (h : t.ensureDir cwd p = (u, none)) : u.isDir cwd p = true := by
  unfold ensureDir at h
  cases hmake : t.makeDir cwd p with
  | ok v =>
    rw [hmake] at h
    obtain ⟨rfl, -⟩ := Prod.mk.inj h
    exact isDir_of_makeDir hmake
  | error e =>
    simp only [hmake] at h
    split_ifs at h with hdir
    · obtain ⟨rfl, -⟩ := Prod.mk.inj h
      exact hdir
    · cases (Prod.mk.inj h).2

/-- A directory that was made with those above it is there; the empty path names none. -/
theorem isDir_of_makeDirs (h : t.makeDirs cwd p = (u, none)) :
    p.text = "" ∨ u.isDir cwd p = true := by
  rw [makeDirs, Path.ancestors, Path.ancestorsFrom, ensureChain] at h
  split_ifs at h with hempty
  · exact Or.inl hempty
  right
  split at h
  · split at h
    · exact isDir_of_ensureDir h
    · rename_i hfailed
      exact absurd h (hfailed u)
  · exact isDir_of_ensureDir h

/-! ## Making the directory at a place -/

theorem prefix_of_mem_ancestorsFrom (hl : l.Proper) {fuel : Nat} {q : Path}
    (h : q ∈ Path.ancestorsFrom fuel l.toPath) : cwd.along q <+: l := by
  -- no bound on the fuel is needed: with too little of it there are fewer paths
  induction fuel generalizing l with
  | zero => cases h
  | succ fuel ih =>
    have hplace : cwd.along l.toPath = l := by
      rw [along_of_isAbsolute (Location.isAbsolute_toPath l), Location.place_toPath hl]
    have hself : cwd.along l.toPath <+: l := hplace.symm ▸ List.prefix_rfl
    rcases List.eq_nil_or_concat' l with rfl | ⟨k, n, rfl⟩
    · rw [Location.ancestorsFrom_toPath_nil, List.mem_singleton] at h
      exact h ▸ hself
    · have hk : Location.Proper k := proper_of_proper_append hl
      rw [Location.ancestorsFrom_toPath_append fuel hk (isName_of_proper_append hl),
        List.mem_cons] at h
      rcases h with rfl | h
      · exact hself
      · exact (ih hk h).trans (List.prefix_append k [n])

/-- The way to a place passes only what lies above it. -/
theorem prefix_of_passes (hl : l.Proper) (h : l.toPath.Passes cwd m) : m <+: l := by
  obtain ⟨q, hq, rfl⟩ := h
  exact prefix_of_mem_ancestorsFrom hl hq

/-! ## Moves -/

/-- A move changes files at its two places only. -/
theorem fileAt?_moveFile {source : Location} (hcwd : cwd.Proper)
    (h : t.moveFile cwd source p = .ok u) (hsource : ¬ source <+: l)
    (hplace : ¬ (cwd.toPath.join p).place <+: l) : u.fileAt? l = t.fileAt? l := by
  obtain ⟨s, m, contents, hslot, hm, -, -, -, -, rfl⟩ := moveFile_eq_ok.1 h
  rw [← eq_place_of_slot hcwd hslot hm] at hplace
  rw [fileAt?_insert _ hplace, fileAt?_erase hsource]

end FileTree

end GrammarBindings
