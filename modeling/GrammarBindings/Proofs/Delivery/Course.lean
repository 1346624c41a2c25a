/-
  GrammarBindings.Proofs.Delivery.Course

  The course of a delivery through its staging directory, whether or not it succeeds.
  Nothing is asked of the files: their paths may be spelled in any way, be read from any
  working directory, and lead to one place several times.

    * `Halted` — where a delivery can stop, and which files are in place then.
    * `Course` — directories were added, and then the files in `moved` were put where
      their paths lead, in their order.

  The phases of a plan are put together one after the other (`Ends`), and erasing the
  staging directory leaves no trace of it: `course_deliverThrough`.  A delivery into an
  output directory takes such a course from its staging directory on (`Enters`), unless it
  fails before (`Barred`).
-/
import GrammarBindings.Proofs.Delivery.Guard
import GrammarBindings.Proofs.Delivery.Staging
import GrammarBindings.Proofs.Path.Inside

namespace GrammarBindings

namespace Delivery

open FileTree

variable {cwd home : Location} {s : Staging} {t u : FileTree} {files : List TextFile}

/-! ## Where a delivery can stop -/

/-- The places of directories that a delivery may make to get at its files: those that are
    passed on the way to the directory of a file that does not hold its text. -/
def Paved (t : FileTree) (cwd : Location) (files : List TextFile) (l : Location) : Prop :=
  ∃ f ∈ stale t cwd files, ∃ dir, f.path.parent? = some dir ∧ dir.Passes cwd l

/-- How a delivery through the staging directory `s` into the tree `t` can fail: which
    operation was refused, which files are in place by then, and what is reported.  What is
    left is the tree `after`. -/
inductive Halted (t : FileTree) (cwd : Location) (s : Staging) (files : List TextFile)
    (after : FileTree) : List TextFile → Failure → Prop
  /-- A file cannot be staged, because its path in the staging directory is too long. -/
  | staging {e : TextFile × Nat} (hstale : e ∈ staleFiles (isCurrent t cwd) files)
      (hrefused : (s.filePath e.2).fits = false) :
      Halted t cwd s files after [] ⟨e.1.path, .operation .nameTooLong⟩
  /-- The directory of a file cannot be made. -/
  | making {f : TextFile} {dir : Path} {r left : FileTree} {kind : FileError}
      (hstale : f ∈ stale t cwd files) (hdir : f.path.parent? = some dir)
      (hrefused : r.makeDirs cwd dir = (left, some kind))
      (hafter : after = FileTree.erase s.place left) :
      Halted t cwd s files after [] ⟨dir, .operation kind⟩
  /-- A staged file cannot be moved to its place.  By then all directories are there, and
      exactly the files before it in line are in place. -/
  | moving {f : TextFile} {i : Nat} {moved others : List TextFile} {r : FileTree}
      {kind : FileError} (hstale : stale t cwd files = moved ++ f :: others)
      (hdirs : ∀ g ∈ stale t cwd files, ∀ dir, g.path.parent? = some dir →
        dir.text = "" ∨ r.isDir cwd dir = true)
      (hstaged : r.entryAt? (s.filePlace i) = some (.file f.contents.toUTF8))
      (hrefused : r.moveFile cwd (s.filePlace i) f.path = .error kind)
      (hafter : after = FileTree.erase s.place r) :
      Halted t cwd s files after moved ⟨f.path, .operation kind⟩

/-- The course of a delivery into the tree `t` that leaves the tree `after`: directories
    were added, which gives the tree `v`, and then the files `moved` were put where their
    paths lead, one after the other. -/
structure Course (t : FileTree) (cwd : Location) (s : Staging) (files moved : List TextFile)
    (v after : FileTree) (failure : Option Failure) : Prop where
  grows : Grows (Paved t cwd files) t v
  lands : Lands (fun _ => True) cwd moved v after
  completed : failure = none → moved = stale t cwd files
  halted : ∀ e, failure = some e → Halted t cwd s files after moved e

namespace Course

variable {moved : List TextFile} {v after : FileTree} {failure : Option Failure}

/-- A delivery that fails before any file is moved. -/
theorem of_early {e : Failure} (hgrows : Grows (Paved t cwd files) t after)
    (h : Halted t cwd s files after [] e) :
    Course t cwd s files [] after after (some e) where
  grows := hgrows
  lands := Lands.refl _ cwd after
  completed := fun hnone => by cases hnone
  halted := fun _ he => Option.some.inj he ▸ h

/-- The files that are in place are the first of those that did not hold their texts. -/
theorem moved_prefix (h : Course t cwd s files moved v after failure) :
    moved <+: stale t cwd files := by
  cases failure with
  | none => exact (h.completed rfl).symm ▸ List.prefix_rfl
  | some e =>
    cases h.halted e rfl with
    | staging | making => exact List.nil_prefix
    | moving hstale => exact ⟨_, hstale.symm⟩

theorem mem_files (h : Course t cwd s files moved v after failure) {f : TextFile}
    (hf : f ∈ moved) : f ∈ files :=
  (mem_stale.1 (h.moved_prefix.subset hf)).1

end Course

/-! ## The phases put together -/

/-- From the tree `r`, the steps bring a delivery into the tree `t` to its end. -/
def Ends (t : FileTree) (cwd : Location) (s : Staging) (files : List TextFile) (r : FileTree)
    (steps : List Step) : Prop :=
  ∃ moved v, Course t cwd s files moved v
    (FileTree.erase s.place (performAll cwd s r steps).tree) (performAll cwd s r steps).failure

namespace Ends

variable {r : FileTree} {steps : List Step}

/-- A phase that was completed leaves it to the next ones. -/
theorem of_done {more : List Step} (hdone : (performAll cwd s r steps).failure = none)
    (h : Ends t cwd s files (performAll cwd s r steps).tree more) :
    Ends t cwd s files r (steps ++ more) := by
  obtain ⟨htree, hfailure⟩ := performAll_append_done more hdone
  rw [Ends, htree, hfailure]
  exact h

/-- A phase in which a step failed is the last one. -/
theorem of_failed (more : List Step) {f : Failure}
    (hfailed : (performAll cwd s r steps).failure = some f)
    (hgrows : Grows (Paved t cwd files) t
      (FileTree.erase s.place (performAll cwd s r steps).tree))
    (h : Halted t cwd s files (FileTree.erase s.place (performAll cwd s r steps).tree) [] f) :
    Ends t cwd s files r (steps ++ more) := by
  rw [Ends, performAll_append_failed more hfailed, hfailed]
  exact ⟨[], _, .of_early hgrows h⟩

end Ends

section Phases

variable (hs : Fresh s t cwd home files) {b : FileTree}

include hs

/-- The last phase, in a tree `b` where all files that have to change are staged and
    their directories are there. -/
theorem ends_moveSteps
    (hb : ∀ l, ¬ s.place <+: l → b.entryAt? l = t.entryAt? l ∨
      (t.entryAt? l = none ∧ b.entryAt? l = some .dir ∧ Paved t cwd files l))
    (hstaged : ∀ e ∈ staleFiles (isCurrent t cwd) files,
      b.entryAt? (s.filePlace e.2) = some (.file e.1.contents.toUTF8))
    (hdirs : ∀ g ∈ stale t cwd files, ∀ dir, g.path.parent? = some dir →
      dir.text = "" ∨ b.isDir cwd dir = true) :
    Ends t cwd s files b (moveSteps (staleFiles (isCurrent t cwd) files)) := by
  have hmem (e : TextFile × Nat) (he : e ∈ staleFiles (isCurrent t cwd) files) : e.1 ∈ files :=
    (mem_stale.1 (mem_stale_of_mem_staleFiles he)).1
  -- the moves cut the files in line into those that are in place and the others
  obtain ⟨moved, rest, hsplit, hlands, hend⟩ := performAll_moveSteps cwd
    (nodup_staleFiles_snd _ files) (fun e he => hs.apart e.1 (hmem e he)) hstaged
  have hstale : stale t cwd files = moved.map Prod.fst ++ rest.map Prod.fst := by
    rw [← map_fst_staleFiles, hsplit, List.map_append]
  have hmoved : ∀ f ∈ moved.map Prod.fst, f ∈ files := fun f hf =>
    (mem_stale.1 (hstale ▸ List.mem_append_left _ hf)).1
  refine ⟨moved.map Prod.fst, FileTree.erase s.place b, hs.grows_erase hb,
    hs.lands_erase hmoved hlands, fun hdone => ?_, fun f hf => ?_⟩
  · -- nothing was refused, so there are no others
    rw [hdone] at hend
    rw [hstale, hend, List.map_nil, List.append_nil]
  · -- the failure is that of the move at which the list is cut
    rw [hf] at hend
    obtain ⟨next, others, hrest, ⟨hpath, ⟨kind, hcause, hrefused⟩, hstill⟩⟩ := hend
    obtain ⟨path, cause⟩ := f
    obtain rfl : path = next.1.path := hpath
    obtain rfl : cause = .operation kind := hcause
    rw [hrest, List.map_cons] at hstale
    exact .moving hstale (fun g hg dir hdir =>
      (hdirs g hg dir hdir).imp_right (isDir_stable fun _ => entryAt?_dir_moveSteps _))
      hstill hrefused rfl

/-- The last two phases, in a tree `b` where all files that have to change are staged. -/
theorem ends_dirSteps (hb : ∀ l, ¬ s.place <+: l → b.entryAt? l = t.entryAt? l)
    (hstaged : ∀ e ∈ staleFiles (isCurrent t cwd) files,
      b.entryAt? (s.filePlace e.2) = some (.file e.1.contents.toUTF8)) :
    Ends t cwd s files b (dirSteps (staleFiles (isCurrent t cwd) files) ++
      moveSteps (staleFiles (isCurrent t cwd) files)) := by
  obtain ⟨hgrows, hdirs⟩ := performAll_dirSteps cwd (Paved t cwd files) s b
    fun e he dir hdir l hl => ⟨e.1, mem_stale_of_mem_staleFiles he, dir, hdir, hl⟩
  have hpaved (l : Location) (hl : ¬ s.place <+: l) :=
    hb l hl ▸ hgrows l
  cases hfailure : (performAll cwd s b
      (dirSteps (staleFiles (isCurrent t cwd) files))).failure with
  | none =>
    -- what was staged still is, and the directories are there
    refine .of_done hfailure (ends_moveSteps hs hpaved
      (fun e he => hgrows.entryAt?_of_some (hstaged e he)) fun g hg => ?_)
    rw [← map_fst_staleFiles] at hg
    obtain ⟨e, he, rfl⟩ := List.mem_map.1 hg
    exact hdirs hfailure e he
  | some f =>
    -- a directory could not be made
    obtain ⟨step, hstep, r, kind, rfl, hrefused⟩ := exists_failed_step hfailure
    obtain ⟨e, he, hparent⟩ := List.mem_filterMap.1 hstep
    obtain ⟨dir, hdir, rfl⟩ := Option.map_eq_some_iff.1 hparent
    exact .of_failed _ hfailure (hs.grows_erase hpaved)
      (.making (mem_stale_of_mem_staleFiles he) hdir hrefused rfl)

/-- All phases, from the tree in which the staging directory was made. -/
theorem ends_plan :
    Ends t cwd s files (FileTree.insert (.dir []) s.place t) (plan (isCurrent t cwd) files) := by
  obtain ⟨hsame, hstaged⟩ := hs.performAll_stageSteps_insert (isCurrent t cwd)
  rw [plan_eq]
  cases hfailure : (performAll cwd s (FileTree.insert (.dir []) s.place t)
      (stageSteps (isCurrent t cwd) files.zipIdx)).failure with
  | none => exact .of_done hfailure (ends_dirSteps hs hsame (hstaged hfailure))
  | some f =>
    -- a file could not be staged; current files are kept, which cannot fail
    obtain ⟨step, hstep, r, kind, rfl, hrefused⟩ := exists_failed_step hfailure
    refine .of_failed _ hfailure (hs.grows_erase fun l hl => Or.inl (hsame l hl)) ?_
    obtain ⟨e, he, rfl⟩ := List.mem_map.1 hstep
    split_ifs at hrefused ⊢ with hcurrent
    · cases (Prod.mk.inj hrefused).2
    · rw [Step.perform] at hrefused
      split_ifs at hrefused with hfits
      · cases (Prod.mk.inj hrefused).2
      · obtain rfl : FileError.nameTooLong = kind := Option.some.inj (Prod.mk.inj hrefused).2
        refine .staging (List.mem_filter.2 ⟨he, ?_⟩) (by simpa using hfits)
        rw [Bool.not_eq_true', ← Bool.not_eq_true]
        exact hcurrent

/-- A delivery through a fresh staging directory takes its course. -/
theorem course_deliverThrough :
    ∃ moved v failure,
      Course t cwd s files moved v (deliverThrough t cwd s files).tree failure ∧
        (deliverThrough t cwd s files).result = resultOf (isCurrent t cwd) files failure := by
  obtain ⟨htree, hresult⟩ := hs.deliverThrough_eq
  obtain ⟨moved, v, hcourse⟩ := ends_plan hs
  exact ⟨moved, v, _, htree ▸ hcourse, hresult⟩

end Phases

/-! ## In an output directory -/

/-- A delivery that gets to its staging directory: all files are inside the output
    directory, which has the place `place` in the tree `u`, where it was made. -/
structure Enters (t : FileTree) (cwd : Location) (root : Path) (files : List TextFile)
    (u : FileTree) (place : Location) : Prop where
  inside : stray? root files = none
  made : t.makeDirs cwd root = (u, none)
  found : Delivery.home u cwd root = .ok place
  fits : (stagingIn u cwd root place files).path.fits = true

/-- How a delivery can fail before it gets to its staging directory, and the tree that it
    leaves then. -/
inductive Barred (t : FileTree) (cwd : Location) (root : Path) (files : List TextFile) :
    FileTree → Failure → Prop
  /-- A file is outside the output directory.  Nothing at all was done. -/
  | outside {f : TextFile} (hstray : stray? root files = some f) :
      Barred t cwd root files t ⟨f.path, .outside root⟩
  /-- The output directory cannot be made. -/
  | making {u : FileTree} {kind : FileError}
      (hrefused : t.makeDirs cwd root = (u, some kind)) :
      Barred t cwd root files u ⟨root, .operation kind⟩
  /-- There can be no staging directory in it. -/
  | staging {u : FileTree} {kind : FileError} (hmade : t.makeDirs cwd root = (u, none))
      (hrefused : Delivery.home u cwd root = .error kind ∨
        ∃ place, Delivery.home u cwd root = .ok place ∧
          (stagingIn u cwd root place files).path.fits = false ∧ kind = .nameTooLong) :
      Barred t cwd root files u ⟨root, .operation kind⟩

section Output

variable {root : Path} {place : Location}

theorem Barred.grows {e : Failure} (h : Barred t cwd root files u e) :
    Grows (root.Passes cwd) t u := by
  have hgrows := makeDirs_grows t cwd root
  cases h with
  | outside => exact Grows.refl _ t
  | making hmake | staging hmake =>
    rw [hmake] at hgrows
    exact hgrows

namespace Enters

theorem grows (h : Enters t cwd root files u place) : Grows (root.Passes cwd) t u := by
  have hgrows := makeDirs_grows t cwd root
  rw [h.made] at hgrows
  exact hgrows

/-- A delivery that gets to its staging directory goes through it. -/
theorem deliver_eq (h : Enters t cwd root files u place) :
    deliver t cwd root files = deliverThrough u cwd (stagingIn u cwd root place files) files := by
  simp only [deliver, h.inside, h.made, h.found, h.fits, if_true]

/-- The output directory is there. -/
theorem dir (h : Enters t cwd root files u place) : u.entryAt? place = some .dir := by
  have hfound := h.found
  rw [Delivery.home] at hfound
  split_ifs at hfound with hempty hcwd
  · exact Except.ok.inj hfound ▸ hasDir_iff.1 hcwd
  · -- its path leads to the directory that was made, and to one place only
    obtain ⟨m, hresolve, hdir⟩ := isDir_iff.1 ((isDir_of_makeDirs h.made).resolve_left hempty)
    obtain rfl : m = place := Except.ok.inj (hresolve.symm.trans hfound)
    exact hdir

/-- A path that is read from the working directory finds a directory there. -/
theorem start (h : Enters t cwd root files u place) :
    ∀ f ∈ files, f.path.isAbsolute = true ∨ u.entryAt? cwd = some .dir := by
  intro f hf
  by_cases habsolute : f.path.isAbsolute = true
  · exact Or.inl habsolute
  right
  have hwithin := stray?_eq_none_iff.1 h.inside f hf
  have hfound := h.found
  rw [Delivery.home] at hfound
  split_ifs at hfound with hempty hcwd
  · exact hasDir_iff.1 hcwd
  · -- the output directory was found from there as well, for its path is relative too
    have hrelative : ¬ root.isAbsolute = true := fun hroot =>
      habsolute (Path.isAbsolute_of_isWithin hwithin hroot)
    obtain ⟨-, hwalk⟩ := resolve_eq_ok.1 hfound
    obtain ⟨piece, pieces, hpieces⟩ := List.exists_cons_of_ne_nil root.pieces_ne_nil
    rw [origin, if_neg hrelative, hpieces, walk_cons] at hwalk
    exact hwalk.1

theorem fresh (h : Enters t cwd root files u place) :
    Fresh (stagingIn u cwd root place files) u cwd place files :=
  fresh_stagingIn root h.dir h.start

end Enters

/-- A delivery gets to its staging directory or fails before. -/
theorem enters_or_barred (t : FileTree) (cwd : Location) (root : Path) (files : List TextFile) :
    (∃ u place, Enters t cwd root files u place) ∨
      ∃ e, (deliver t cwd root files).result = .error e ∧
        Barred t cwd root files (deliver t cwd root files).tree e := by
  cases hstray : stray? root files with
  | some f =>
    right
    simp only [deliver, hstray]
    exact ⟨_, rfl, .outside hstray⟩
  | none =>
    rcases hmake : t.makeDirs cwd root with ⟨u, kind | kind⟩
    · cases hhome : Delivery.home u cwd root with
      | error kind =>
        right
        simp only [deliver, hstray, hmake, hhome]
        exact ⟨_, rfl, .staging hmake (Or.inl hhome)⟩
      | ok place =>
        by_cases hfits : (stagingIn u cwd root place files).path.fits = true
        · exact Or.inl ⟨u, place, hstray, hmake, hhome, hfits⟩
        · right
          rw [Bool.not_eq_true] at hfits
          have hbarred := Barred.staging hmake (Or.inr ⟨place, hhome, hfits, rfl⟩)
          simp only [deliver, hstray, hmake, hhome, hfits]
          exact ⟨_, rfl, hbarred⟩
    · right
      simp only [deliver, hstray, hmake]
      exact ⟨_, rfl, .making hmake⟩

/-- Whether or not it succeeds, a delivery leaves files as they are where no path of its files
    leads. -/
theorem fileAt?_deliver_of_forall_ne (t : FileTree) (cwd : Location) (root : Path)
    {files : List TextFile} {l : Location} (hl : ∀ f ∈ files, cwd.along f.path ≠ l) :
    (deliver t cwd root files).tree.fileAt? l = t.fileAt? l := by
  rcases enters_or_barred t cwd root files with ⟨u, place, henters⟩ | ⟨e, -, hbarred⟩
  · obtain ⟨moved, v, failure, hcourse, -⟩ := course_deliverThrough henters.fresh
    rw [henters.deliver_eq, hcourse.lands.fileAt?_eq trivial fun f hf => hl f (hcourse.mem_files hf),
      hcourse.grows.fileAt?_eq, henters.grows.fileAt?_eq]
  · exact hbarred.grows.fileAt?_eq l

/-- A delivery that fails does so before it gets to its staging directory or on its course
    from there. -/
theorem barred_or_halted {e : Failure} (h : (deliver t cwd root files).result = .error e) :
    Barred t cwd root files (deliver t cwd root files).tree e ∨
      ∃ u place moved v, Enters t cwd root files u place ∧
        Course u cwd (stagingIn u cwd root place files) files moved v
          (deliver t cwd root files).tree (some e) := by
  rcases enters_or_barred t cwd root files with ⟨u, place, henters⟩ | ⟨g, hresult, hbarred⟩
  · right
    obtain ⟨moved, v, failure, hcourse, hresult⟩ := course_deliverThrough henters.fresh
    rw [henters.deliver_eq, hresult] at h
    cases failure with
    | none => cases h
    | some g =>
      obtain rfl : g = e := Except.error.inj h
      exact ⟨u, place, moved, v, henters, henters.deliver_eq ▸ hcourse⟩
  · left
    obtain rfl : g = e := Except.error.inj (hresult.symm.trans h)
    exact hbarred

/-- With all files inside the output directory, only operations can fail. -/
theorem cause_deliver {e : Failure} (hinside : ∀ file ∈ files, file.path.isWithin root = true)
    (h : (deliver t cwd root files).result = .error e) : ∃ kind, e.cause = .operation kind := by
  have hcases := barred_or_halted h
  generalize (deliver t cwd root files).tree = after at hcases
  rcases hcases with hbarred | ⟨u, place, moved, v, -, hcourse⟩
  · cases hbarred with
    | outside hstray =>
      -- the guard is passed
      rw [stray?_eq_none_iff.2 hinside] at hstray
      cases hstray
    | making | staging => exact ⟨_, rfl⟩
  · cases hcourse.halted e rfl with
    | staging | making | moving => exact ⟨_, rfl⟩

end Output

end Delivery

end GrammarBindings
