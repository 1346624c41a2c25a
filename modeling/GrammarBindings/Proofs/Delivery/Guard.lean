/-
  GrammarBindings.Proofs.Delivery.Guard

  What the guard of a delivery is worth.  It compares the texts of the files' paths with
  that of the output directory, without the working directory from which both are read.
  That is sound for an output directory whose path does not only climb: then every file
  that is let through has its place in the output directory, and a delivery changes files
  nowhere else (`fileAt?_deliver`).  For `.`, the empty path, `..` and the like it is not:
  `guard_sound_iff` says that these are all the exceptions.
-/
import GrammarBindings.Proofs.Delivery.Steps
import GrammarBindings.Proofs.FileTree.Lexical
import GrammarBindings.Proofs.Path.Containment

namespace GrammarBindings.Delivery

open FileTree

variable {t : FileTree} {cwd l : Location} {s : Staging} {root : Path} {files : List TextFile}

/-! ## Files beside the staging directory and the places of moves -/

/-- A step changes files in the staging directory and, if it moves a file, at the place
    that this one goes to. -/
theorem fileAt?_perform (hcwd : cwd.Proper) {step : Step} (hstaging : ¬ s.place <+: l)
    (hmove : ∀ index path, step = .move index path → ¬ (cwd.toPath.join path).place <+: l) :
    (step.perform cwd s t).1.fileAt? l = t.fileAt? l := by
  have hplace (index : Nat) : ¬ s.filePlace index <+: l := fun h =>
    hstaging ((List.prefix_append _ _).trans h)
  cases step with
  | keep path => rfl
  | stage index file =>
    rw [Step.perform]
    split_ifs
    · exact fileAt?_insert _ (hplace index)
    · rfl
  | makeDirs path => exact fileAt?_makeDirs t cwd path l
  | move index path =>
    rw [Step.perform]
    cases hmoved : t.moveFile cwd (s.filePlace index) path with
    | ok u => exact fileAt?_moveFile hcwd hmoved (hplace index) (hmove index path rfl)
    | error e => rfl

theorem fileAt?_performAll (hcwd : cwd.Proper) (hstaging : ¬ s.place <+: l) {steps : List Step}
    (hmoves : ∀ index path, .move index path ∈ steps → ¬ (cwd.toPath.join path).place <+: l) :
    (performAll cwd s t steps).tree.fileAt? l = t.fileAt? l := by
  -- whether a step is done or fails, what it has changed is all that counts of it
  induction steps generalizing t with
  | nil => rfl
  | cons step steps ih =>
    have hfirst : (step.perform cwd s t).1.fileAt? l = t.fileAt? l :=
      fileAt?_perform hcwd hstaging fun index path heq =>
        hmoves index path (heq ▸ List.mem_cons_self)
    rcases hstep : step.perform cwd s t with ⟨u, e | e⟩
    · rw [hstep] at hfirst
      rw [(performAll_cons_done steps hstep).1, ← hfirst]
      exact ih fun index path h => hmoves index path (List.mem_cons_of_mem _ h)
    · rw [hstep] at hfirst
      rw [performAll_cons_failed steps hstep]
      exact hfirst

/-- The moves of a plan go to the places of its files. -/
theorem exists_file_of_move {current : TextFile → Bool} {index : Nat} {path : Path}
    (h : .move index path ∈ plan current files) : ∃ f ∈ files, f.path = path := by
  rw [plan_eq, List.mem_append, List.mem_append] at h
  rcases h with h | h | h
  · obtain ⟨e, -, he⟩ := List.mem_map.1 h
    split_ifs at he
  · obtain ⟨e, -, he⟩ := List.mem_filterMap.1 h
    cases hparent : e.1.path.parent? <;> simp [hparent] at he
  · obtain ⟨e, he, heq⟩ := List.mem_map.1 h
    have hmem : e.1 ∈ files := List.fst_mem_of_mem_zipIdx (List.mem_of_mem_filter he)
    exact ⟨e.1, hmem, (Step.move.inj heq).2⟩

theorem fileAt?_deliverThrough (hcwd : cwd.Proper) (hstaging : ¬ s.place <+: l)
    (hfiles : ∀ f ∈ files, ¬ (cwd.toPath.join f.path).place <+: l) :
    (deliverThrough t cwd s files).tree.fileAt? l = t.fileAt? l := by
  rw [deliverThrough, fileAt?_erase hstaging, fileAt?_performAll hcwd hstaging,
    fileAt?_insert _ hstaging]
  intro index path h
  obtain ⟨f, hf, rfl⟩ := exists_file_of_move h
  exact hfiles f hf

/-! ## The guard -/

theorem stray?_eq_none_iff :
    stray? root files = none ↔ ∀ f ∈ files, f.path.isWithin root = true := by
  simp [stray?, List.find?_eq_none]

/-- The output directory has the place of its path. -/
theorem eq_place_of_home {place : Location} (hcwd : cwd.Proper) (hroot : ¬ root.OnlyClimbs)
    (h : home t cwd root = .ok place) : place = (cwd.toPath.join root).place := by
  have htext : root.text ≠ "" := by
    intro hempty
    apply hroot
    rw [show root = ⟨""⟩ from congrArg Path.mk hempty]
    decide
  rw [home, if_neg htext] at h
  exact eq_place_of_resolve hcwd h

/-- A delivery into a directory whose path does not only climb changes no file outside it,
    whether or not it succeeds. -/
theorem fileAt?_deliver (hcwd : cwd.Proper) (hroot : ¬ root.OnlyClimbs)
    (hl : ¬ (cwd.toPath.join root).place <+: l) :
    (deliver t cwd root files).tree.fileAt? l = t.fileAt? l := by
  cases hstray : stray? root files with
  | some f => simp only [deliver, hstray, failed]
  | none =>
    have hinside : ∀ f ∈ files, ¬ (cwd.toPath.join f.path).place <+: l := fun f hf hpre =>
      hl ((Path.place_join_prefix hroot (stray?_eq_none_iff.1 hstray f hf) _).trans hpre)
    have hmake := fileAt?_makeDirs t cwd root l
    rcases hdirs : t.makeDirs cwd root with ⟨u, e | e⟩
    · rw [hdirs] at hmake
      cases hhome : home u cwd root with
      | error e => simpa only [deliver, hstray, hdirs, hhome, failed] using hmake
      | ok place =>
        -- staging directory and files all lie below the place of the output directory
        obtain rfl := eq_place_of_home hcwd hroot hhome
        have hstaging : ¬ (stagingIn u cwd root (cwd.toPath.join root).place files).place <+: l :=
          fun hpre => hl ((List.prefix_append _ _).trans hpre)
        simp only [deliver, hstray, hdirs, hhome]
        split_ifs
        · rw [fileAt?_deliverThrough hcwd hstaging hinside]
          exact hmake
        · exact hmake
    · rw [hdirs] at hmake
      simpa only [deliver, hstray, hdirs, failed] using hmake

/-- The guard is sound for exactly those output directories whose paths do not only climb:
    from every working directory, the files that it lets through lie below the output
    directory.  A delivery into such a directory creates or replaces no file outside it. -/
theorem guard_sound_iff (root : Path) :
    ((∀ cwd : Path, cwd.isAbsolute = true → ∀ files, stray? root files = none → ∀ f ∈ files,
        (cwd.join root).normalize.components <+: (cwd.join f.path).normalize.components) ↔
      ¬ root.OnlyClimbs) ∧
    (¬ root.OnlyClimbs → ∀ (t : FileTree) (cwd : Location) files l, cwd.Proper →
      (deliver t cwd root files).tree.fileAt? l ≠ t.fileAt? l →
        (cwd.toPath.join root).place <+: l) := by
  refine ⟨⟨fun hsound hclimbs => ?_, fun hroot cwd _ files hstray f hf => ?_⟩,
    fun hroot t cwd files l hcwd hchanged => ?_⟩
  · -- the escape is let through as the only file
    obtain ⟨cwd, p, hcwd, hwithin, hescaped⟩ := Path.exists_escape hclimbs
    have hstray : stray? root [⟨p, ""⟩] = none := stray?_eq_none_iff.2 (by simpa using hwithin)
    have hprefix := hsound cwd hcwd [⟨p, ""⟩] hstray _ List.mem_cons_self
    rw [← Path.isWithin_iff, hescaped] at hprefix
    cases hprefix
  · exact Path.isWithin_iff.1 (Path.isWithin_join hroot (stray?_eq_none_iff.1 hstray f hf) cwd)
  · by_contra hl
    exact hchanged (fileAt?_deliver hcwd hroot hl)

/-- A file that the output directory `out` lets through goes there from `/w`. -/
theorem guard_sound_iff_relative :
    ¬ (Path.mk "out").OnlyClimbs ∧ Location.Proper ["w"] ∧
      stray? ⟨"out"⟩ [⟨⟨"./out/b/../a"⟩, "1"⟩] = none ∧
      ((Path.mk "/w").join ⟨"out"⟩).normalize.components <+:
        ((Path.mk "/w").join ⟨"./out/b/../a"⟩).normalize.components ∧
      (deliver (.dir [("w", .dir [])]) ["w"] ⟨"out"⟩ [⟨⟨"./out/b/../a"⟩, "1"⟩]).tree.fileAt?
        ["w", "out", "a"] ≠ (FileTree.dir [("w", .dir [])]).fileAt? ["w", "out", "a"] ∧
      ((Location.toPath ["w"]).join ⟨"out"⟩).place <+: ["w", "out", "a"] := by
  have hout : ¬ (Path.mk "out").OnlyClimbs := by decide
  have hcwd : Location.Proper ["w"] := by
    intro n hn
    rw [List.mem_singleton.1 hn]
    exact ⟨by decide, by decide, by decide, by decide⟩
  have hstray : stray? ⟨"out"⟩ [⟨⟨"./out/b/../a"⟩, "1"⟩] = none := by decide
  have hbefore : ((FileTree.dir [("w", .dir [])]).fileAt? ["w", "out", "a"]).isSome = false := by
    decide
  have hafter : ((deliver (.dir [("w", .dir [])]) ["w"] ⟨"out"⟩
      [⟨⟨"./out/b/../a"⟩, "1"⟩]).tree.fileAt? ["w", "out", "a"]).isSome = true := by
    decide +kernel
  have hchanged : (deliver (.dir [("w", .dir [])]) ["w"] ⟨"out"⟩
      [⟨⟨"./out/b/../a"⟩, "1"⟩]).tree.fileAt? ["w", "out", "a"] ≠
        (FileTree.dir [("w", .dir [])]).fileAt? ["w", "out", "a"] := by
    intro heq
    rw [heq, hbefore] at hafter
    cases hafter
  obtain ⟨hsound, hframe⟩ := guard_sound_iff ⟨"out"⟩
  have hbelow := hsound.2 hout ⟨"/w"⟩ (by decide) _ hstray _ List.mem_cons_self
  exact ⟨hout, hcwd, hstray, hbelow, hchanged, hframe hout _ _ _ _ hcwd hchanged⟩

/-- In the output directory `.` the guard lets a file of the parent directory through, and
    the delivery creates it. -/
theorem guard_unsound_here :
    stray? ⟨"."⟩ [⟨⟨"../up"⟩, "3"⟩] = none ∧
      ¬ ((Path.mk "/w").join ⟨"."⟩).normalize.components <+:
        ((Path.mk "/w").join ⟨"../up"⟩).normalize.components ∧
      (FileTree.dir [("w", .dir [])]).fileAt? ["up"] = none ∧
      ((deliver (.dir [("w", .dir [])]) ["w"] ⟨"."⟩ [⟨⟨"../up"⟩, "3"⟩]).tree.fileAt?
        ["up"]).isSome = true := by
  refine ⟨by decide, by decide, ?_, by decide +kernel⟩
  exact Option.isNone_iff_eq_none.1 (by decide)

end GrammarBindings.Delivery
