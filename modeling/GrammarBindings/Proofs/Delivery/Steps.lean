/-
  GrammarBindings.Proofs.Delivery.Steps

  What the steps of a delivery do to a tree, phase by phase:

    * `performAll_stageSteps` — the files that have to change are written into the
      staging directory, and nothing else is touched.
    * `performAll_dirSteps` — only directories are added, on the way to those of the files.
    * `performAll_moveSteps` — the staged files go to their places one after the other
      until one cannot; what was moved is an initial segment of the list.

  Each is an induction over the steps of its phase, and each says what holds when
  a step fails on the way.  `performAll_append_done` and `performAll_append_failed` put
  the phases together, and `exists_failed_step` tells which step a failure comes from.

  Files may share a place, by one path or by two spellings of it: `Lands` says that they
  were put there in their order.  If they do not, each of them is in its place (`Replaces`).
-/
import GrammarBindings.Delivery
import GrammarBindings.Proofs.FileTree.Lexical
import Mathlib.Logic.Function.Basic

namespace GrammarBindings

/-- A place lies above another one: it is a directory on the way there. -/
def Location.Above (l m : Location) : Prop := l <+: m ∧ l ≠ m

theorem Location.above_append {l m : Location} {n : String} :
    Location.Above l (m ++ [n]) ↔ l <+: m := by
  rw [Above, List.prefix_concat_iff]
  constructor
  · rintro ⟨h | h, hne⟩
    · exact absurd h hne
    · exact h
  · intro h
    refine ⟨Or.inr h, ?_⟩
    rintro rfl
    have hlength := h.length_le
    rw [List.length_append, List.length_singleton] at hlength
    omega

namespace FileTree

/-! ## Files put in their places -/

/-- What is at places once files have been put where their paths lead, one after the other. -/
def overwritten (cwd : Location) (files : List TextFile) (before : Location → Option Entry) :
    Location → Option Entry :=
  files.foldl
    (fun entries f =>
      Function.update entries (cwd.along f.path) (some (.file f.contents.toUTF8)))
    before

section Overwritten

variable {cwd l : Location} {files : List TextFile} {before other : Location → Option Entry}

theorem overwritten_cons (f : TextFile) (files : List TextFile) :
    overwritten cwd (f :: files) before = overwritten cwd files
      (Function.update before (cwd.along f.path) (some (.file f.contents.toUTF8))) :=
  rfl

theorem overwritten_append (files more : List TextFile) :
    overwritten cwd (files ++ more) before =
      overwritten cwd more (overwritten cwd files before) :=
  List.foldl_append

/-- What is at a place depends only on what was there. -/
theorem overwritten_congr (h : before l = other l) :
    overwritten cwd files before l = overwritten cwd files other l := by
  induction files generalizing before other with
  | nil => exact h
  | cons f files ih =>
    rw [overwritten_cons, overwritten_cons]
    refine ih ?_
    rw [Function.update_apply, Function.update_apply, h]

theorem overwritten_of_forall_ne (h : ∀ f ∈ files, cwd.along f.path ≠ l) :
    overwritten cwd files before l = before l := by
  induction files generalizing before with
  | nil => rfl
  | cons f files ih =>
    rw [List.forall_mem_cons] at h
    rw [overwritten_cons, ih h.2, Function.update_of_ne (Ne.symm h.1)]

/-- At the place of a file is the text of the last one that was put there. -/
theorem overwritten_last (files : List TextFile) {f : TextFile} {more : List TextFile}
    (h : ∀ g ∈ more, cwd.along g.path ≠ cwd.along f.path) :
    overwritten cwd (files ++ f :: more) before (cwd.along f.path) =
      some (.file f.contents.toUTF8) := by
  rw [overwritten_append, overwritten_cons, overwritten_of_forall_ne h, Function.update_self]

/-- A file stays at a place where a file was. -/
theorem exists_file_overwritten (h : ∃ bytes, before l = some (.file bytes)) :
    ∃ bytes, overwritten cwd files before l = some (.file bytes) := by
  induction files generalizing before with
  | nil => exact h
  | cons f files ih =>
    rw [overwritten_cons]
    refine ih ?_
    rw [Function.update_apply]
    split_ifs
    · exact ⟨_, rfl⟩
    · exact h

end Overwritten

/-- `u` is `t` with files put where their paths lead, one after the other, as far as `scope`
    reaches: none of them in place of a directory. -/
structure Lands (scope : Location → Prop) (cwd : Location) (files : List TextFile)
    (t u : FileTree) : Prop where
  admissible : ∀ f ∈ files, f.path.Admissible
  not_dir : ∀ f ∈ files, t.entryAt? (cwd.along f.path) ≠ some .dir
  placed : ∀ l, scope l → u.entryAt? l = overwritten cwd files t.entryAt? l

namespace Lands

variable {scope : Location → Prop} {cwd l : Location} {files : List TextFile}
  {t u v : FileTree}

theorem refl (scope : Location → Prop) (cwd : Location) (t : FileTree) :
    Lands scope cwd [] t t where
  admissible := by simp
  not_dir := by simp
  placed := fun _ _ => rfl

/-- Directories stay. -/
theorem entryAt?_dir (h : Lands scope cwd files t u) (hscope : scope l)
    (hdir : t.entryAt? l = some .dir) : u.entryAt? l = some .dir := by
  rw [h.placed l hscope, overwritten_of_forall_ne, hdir]
  rintro f hf rfl
  exact h.not_dir f hf hdir

/-- Where no path leads, a file is as it was. -/
theorem fileAt?_eq (h : Lands scope cwd files t u) (hscope : scope l)
    (hl : ∀ f ∈ files, cwd.along f.path ≠ l) : u.fileAt? l = t.fileAt? l := by
  refine fileAt?_congr fun contents => ?_
  rw [h.placed l hscope, overwritten_of_forall_ne hl]

/-- A file that has just been put in its place, and is gone from a place out of scope, is
    one more. -/
theorem cons {f : TextFile} {source : Location} (hadmissible : f.path.Admissible)
    (hdir : t.entryAt? (cwd.along f.path) ≠ some .dir)
    (hentry : ∀ l, u.entryAt? l =
      if l = cwd.along f.path then some (.file f.contents.toUTF8)
      else if l = source then none else t.entryAt? l)
    (haway : ∀ {l}, scope l → l ≠ source) (hfiles : ∀ g ∈ files, scope (cwd.along g.path))
    (h : Lands scope cwd files u v) : Lands scope cwd (f :: files) t v where
  admissible := List.forall_mem_cons.2 ⟨hadmissible, h.admissible⟩
  not_dir := by
    refine List.forall_mem_cons.2 ⟨hdir, fun g hg => ?_⟩
    have hg' := h.not_dir g hg
    rw [hentry] at hg'
    split_ifs at hg' with hplace hsource
    · rwa [hplace]
    · exact absurd hsource (haway (hfiles g hg))
    · exact hg'
  placed := by
    intro l hl
    rw [h.placed l hl, overwritten_cons]
    refine overwritten_congr ?_
    rw [hentry, Function.update_apply, if_neg (haway hl)]

/-- Where nothing landed, a place can be taken out of both trees. -/
theorem erase {p : Location} {n : String} (haway : ∀ f ∈ files, ¬ p ++ [n] <+: cwd.along f.path)
    (h : Lands (fun l => ¬ p ++ [n] <+: l) cwd files t u) :
    Lands (fun _ => True) cwd files (erase (p ++ [n]) t) (erase (p ++ [n]) u) where
  admissible := h.admissible
  not_dir := by
    intro f hf
    rw [entryAt?_erase, if_neg (haway f hf)]
    exact h.not_dir f hf
  placed := by
    intro l _
    by_cases hl : p ++ [n] <+: l
    · have hne : ∀ f ∈ files, cwd.along f.path ≠ l := by
        rintro f hf rfl
        exact haway f hf hl
      rw [overwritten_of_forall_ne hne, entryAt?_erase, entryAt?_erase, if_pos hl, if_pos hl]
    · rw [entryAt?_erase, if_neg hl, h.placed l hl]
      refine overwritten_congr ?_
      rw [entryAt?_erase, if_neg hl]

end Lands

/-- `u` is `t` with files put in their places, as far as `scope` reaches: none of
    them in place of a directory. -/
structure Replaces (scope : Location → Prop) (files : List TextFile) (t u : FileTree) :
    Prop where
  usable : ∀ f ∈ files, f.path.place.Usable
  placed : ∀ f ∈ files, u.entryAt? f.path.place = some (.file f.contents.toUTF8)
  not_dir : ∀ f ∈ files, t.entryAt? f.path.place ≠ some .dir
  others : ∀ l, scope l → (∀ f ∈ files, f.path.place ≠ l) → u.entryAt? l = t.entryAt? l

namespace Replaces

variable {scope : Location → Prop} {files : List TextFile} {t u : FileTree} {l : Location}

theorem refl (scope : Location → Prop) (t : FileTree) : Replaces scope [] t t where
  usable := by simp
  placed := by simp
  not_dir := by simp
  others := fun _ _ _ => rfl

/-- Directories stay. -/
theorem entryAt?_dir (h : Replaces scope files t u) (hscope : scope l)
    (hdir : t.entryAt? l = some .dir) : u.entryAt? l = some .dir := by
  rw [h.others l hscope, hdir]
  rintro f hf rfl
  exact h.not_dir f hf hdir

/-- No directory is new. -/
theorem entryAt?_dir_iff (h : Replaces scope files t u) (hscope : scope l) :
    u.entryAt? l = some .dir ↔ t.entryAt? l = some .dir := by
  refine ⟨fun hdir => ?_, h.entryAt?_dir hscope⟩
  rw [← h.others l hscope, hdir]
  rintro f hf rfl
  rw [h.placed f hf] at hdir
  cases hdir

end Replaces

/-- Files with canonical paths and different places are each in its place. -/
theorem Lands.replaces {scope : Location → Prop} {cwd : Location} {files : List TextFile}
    {t u : FileTree} (h : Lands scope cwd files t u) (hfiles : ∀ f ∈ files, f.path.Canonical)
    (hplaces : (files.map fun f => f.path.place).Nodup)
    (hscope : ∀ f ∈ files, scope f.path.place) : Replaces scope files t u := by
  have halong : ∀ f ∈ files, cwd.along f.path = f.path.place := fun f hf =>
    along_of_isAbsolute (hfiles f hf).absolute cwd
  refine ⟨fun f hf => usable_of_admissible (hfiles f hf) (h.admissible f hf),
    fun f hf => ?_, fun f hf => ?_, fun l hl hne => ?_⟩
  · -- no file behind it has the same place
    obtain ⟨front, more, rfl⟩ := List.append_of_mem hf
    have hmore : ∀ g ∈ more, cwd.along g.path ≠ cwd.along f.path := by
      intro g hg
      rw [halong f hf, halong g (by simp [hg])]
      rw [List.map_append, List.map_cons, List.nodup_append] at hplaces
      exact fun heq => (List.nodup_cons.1 hplaces.2.1).1 (heq ▸ List.mem_map_of_mem hg)
    rw [h.placed _ (hscope f hf), ← halong f hf, overwritten_last front hmore]
  · rw [← halong f hf]
    exact h.not_dir f hf
  · rw [h.placed l hl, overwritten_of_forall_ne fun f hf => (halong f hf).trans_ne (hne f hf)]

end FileTree

namespace Delivery

open FileTree

variable {cwd : Location} {s : Staging} {t u : FileTree}

/-! ## One step after the other -/

theorem performAll_cons_done {step : Step} (steps : List Step)
    (h : step.perform cwd s t = (u, none)) :
    (performAll cwd s t (step :: steps)).tree = (performAll cwd s u steps).tree ∧
      (performAll cwd s t (step :: steps)).failure = (performAll cwd s u steps).failure := by
  rw [performAll, h]
  exact ⟨rfl, rfl⟩

theorem performAll_cons_failed {step : Step} {e : FileError} (steps : List Step)
    (h : step.perform cwd s t = (u, some e)) :
    performAll cwd s t (step :: steps) = ⟨u, [], some ⟨step.subject, .operation e⟩⟩ := by
  rw [performAll, h]

/-- Once a step has failed, no other is taken. -/
theorem performAll_append_failed {steps : List Step} {f : Failure} (more : List Step)
    (h : (performAll cwd s t steps).failure = some f) :
    performAll cwd s t (steps ++ more) = performAll cwd s t steps := by
  induction steps generalizing t with
  | nil => cases h
  | cons step steps ih =>
    rw [List.cons_append]
    rcases hstep : step.perform cwd s t with ⟨u, e | e⟩
    · rw [(performAll_cons_done steps hstep).2] at h
      rw [performAll, performAll, hstep]
      simp only [ih h]
    · rw [performAll_cons_failed _ hstep, performAll_cons_failed _ hstep]

/-- After steps that were all done the others go on with the tree that they left. -/
theorem performAll_append_done {steps : List Step} (more : List Step)
    (h : (performAll cwd s t steps).failure = none) :
    (performAll cwd s t (steps ++ more)).tree =
        (performAll cwd s (performAll cwd s t steps).tree more).tree ∧
      (performAll cwd s t (steps ++ more)).failure =
        (performAll cwd s (performAll cwd s t steps).tree more).failure := by
  induction steps generalizing t with
  | nil => exact ⟨rfl, rfl⟩
  | cons step steps ih =>
    rw [List.cons_append]
    rcases hstep : step.perform cwd s t with ⟨u, e | e⟩
    · rw [(performAll_cons_done steps hstep).2] at h
      obtain ⟨htree, hfailure⟩ := performAll_cons_done (steps ++ more) hstep
      rw [htree, hfailure, (performAll_cons_done steps hstep).1]
      exact ih h
    · rw [performAll_cons_failed _ hstep] at h
      cases h

/-- A failure comes from a step that failed, and what that step left is what is left. -/
theorem exists_failed_step {steps : List Step} {f : Failure}
    (h : (performAll cwd s t steps).failure = some f) :
    ∃ step ∈ steps, ∃ r kind, f = ⟨step.subject, .operation kind⟩ ∧
      step.perform cwd s r = ((performAll cwd s t steps).tree, some kind) := by
  induction steps generalizing t with
  | nil => cases h
  | cons step steps ih =>
    rcases hstep : step.perform cwd s t with ⟨u, e | e⟩
    · obtain ⟨htree, hfailure⟩ := performAll_cons_done steps hstep
      rw [hfailure] at h
      obtain ⟨next, hnext, r, kind, hf, hperform⟩ := ih h
      exact ⟨next, List.mem_cons_of_mem _ hnext, r, kind, hf, by rw [htree, hperform]⟩
    · rw [performAll_cons_failed steps hstep] at h ⊢
      exact ⟨step, List.mem_cons_self, t, e, (Option.some.inj h).symm, hstep⟩

/-! ## The phases of a plan -/

/-- The steps that stage the files of a list, apart from those that are current. -/
def stageSteps (current : TextFile → Bool) (es : List (TextFile × Nat)) : List Step :=
  es.map fun e => if current e.1 then .keep e.1.path else .stage e.2 e.1

/-- The steps that make the directories of the files of a list. -/
def dirSteps (es : List (TextFile × Nat)) : List Step :=
  es.filterMap fun e => e.1.path.parent?.map .makeDirs

/-- The steps that move the files of a list to their places. -/
def moveSteps (es : List (TextFile × Nat)) : List Step := es.map fun e => .move e.2 e.1.path

theorem plan_eq (current : TextFile → Bool) (files : List TextFile) :
    plan current files =
      stageSteps current files.zipIdx ++
        (dirSteps (staleFiles current files) ++ moveSteps (staleFiles current files)) :=
  List.append_assoc _ _ _

/-! ## Staging -/

/-- Files with different numbers have different places in the staging directory. -/
theorem filePlace_inj {i j : Nat} (h : s.filePlace i = s.filePlace j) : i = j := by
  have hnames : [toString i] = [toString j] := List.append_cancel_left h
  have htext : Nat.repr i = Nat.repr j := List.head_eq_of_cons_eq hnames
  have hdigits : Nat.toDigits 10 i = Nat.toDigits 10 j := by
    rw [← Nat.toList_repr, htext, Nat.toList_repr]
  rw [← Nat.ofDigitChars_ten_toDigits (n := i), hdigits, Nat.ofDigitChars_ten_toDigits]

theorem filePlace_ne_of_nodup {e : TextFile × Nat} {es : List (TextFile × Nat)}
    (hindex : ((e :: es).map Prod.snd).Nodup) {d : TextFile × Nat} (hd : d ∈ es) :
    s.filePlace d.2 ≠ s.filePlace e.2 := by
  intro heq
  rw [List.map_cons, List.nodup_cons] at hindex
  exact hindex.1 (List.mem_map.2 ⟨d, hd, filePlace_inj heq⟩)

theorem place_prefix_filePlace (s : Staging) (i : Nat) : s.place <+: s.filePlace i :=
  List.prefix_append _ _

theorem place_ne_filePlace (s : Staging) (i : Nat) : s.place ≠ s.filePlace i := by
  simp [Staging.filePlace]

/-- Writing a file into the staging directory changes the place of that file only. -/
theorem entryAt?_stage {i : Nat} (file : TextFile) (hplace : t.entryAt? s.place = some .dir)
    (hfree : t.entryAt? (s.filePlace i) = none) (l : Location) :
    (FileTree.insert (.file file.contents.toUTF8) (s.filePlace i) t).entryAt? l =
      if l = s.filePlace i then some (.file file.contents.toUTF8) else t.entryAt? l := by
  have hdir : t.entryAt? (s.filePlace i) ≠ some .dir := by simp [hfree]
  exact entryAt?_insert hplace hdir (isLeaf_file _) l

/-- Keeping a file is no work. -/
theorem performAll_keep_cons (cwd : Location) (s : Staging) (t : FileTree) (path : Path)
    (steps : List Step) :
    (performAll cwd s t (.keep path :: steps)).tree = (performAll cwd s t steps).tree ∧
      (performAll cwd s t (.keep path :: steps)).failure = (performAll cwd s t steps).failure :=
  performAll_cons_done steps rfl

/-- Files are staged side by side; whether or not all can be, nothing else changes. -/
theorem performAll_stageSteps (cwd : Location) (current : TextFile → Bool) {es : List (TextFile × Nat)}
    (hindex : (es.map Prod.snd).Nodup) (hplace : t.entryAt? s.place = some .dir)
    (hfree : ∀ e ∈ es, t.entryAt? (s.filePlace e.2) = none) :
    (∀ l, (∀ e ∈ es, l ≠ s.filePlace e.2) →
        (performAll cwd s t (stageSteps current es)).tree.entryAt? l = t.entryAt? l) ∧
      ((performAll cwd s t (stageSteps current es)).failure = none →
        ∀ e ∈ es, current e.1 = false →
          (performAll cwd s t (stageSteps current es)).tree.entryAt? (s.filePlace e.2) =
            some (.file e.1.contents.toUTF8)) := by
  -- over the files; the places of those to come stay free because the numbers differ
  induction es generalizing t with
  | nil => exact ⟨fun _ _ => rfl, by simp⟩
  | cons e es ih =>
    have hfresh := fun d hd => filePlace_ne_of_nodup (s := s) hindex (d := d) hd
    rw [List.map_cons, List.nodup_cons] at hindex
    rw [stageSteps, List.map_cons, ← stageSteps]
    by_cases hcurrent : current e.1 = true
    · -- a current file takes no step that changes anything
      rw [if_pos hcurrent]
      obtain ⟨htree, hfailure⟩ := performAll_keep_cons cwd s t e.1.path (stageSteps current es)
      obtain ⟨hothers, hstaged⟩ := ih hindex.2 hplace fun d hd => hfree d (List.mem_cons_of_mem _ hd)
      rw [htree, hfailure]
      refine ⟨fun l hl => hothers l fun d hd => hl d (List.mem_cons_of_mem _ hd), ?_⟩
      intro hdone d hd hstale
      rcases List.mem_cons.1 hd with rfl | hd
      · rw [hcurrent] at hstale
        cases hstale
      · exact hstaged hdone d hd hstale
    · rw [if_neg hcurrent]
      by_cases hfits : (s.filePath e.2).fits = true
      · have hstep : Step.perform cwd s t (.stage e.2 e.1) =
            (FileTree.insert (.file e.1.contents.toUTF8) (s.filePlace e.2) t, none) := by
          rw [Step.perform, if_pos hfits]
        have hentry := entryAt?_stage e.1 hplace (hfree e List.mem_cons_self)
        obtain ⟨htree, hfailure⟩ := performAll_cons_done (stageSteps current es) hstep
        obtain ⟨hothers, hstaged⟩ := ih hindex.2
          (by rw [hentry, if_neg (place_ne_filePlace s e.2), hplace])
          (fun d hd => by
            rw [hentry, if_neg (hfresh d hd), hfree d (List.mem_cons_of_mem _ hd)])
        rw [htree, hfailure]
        constructor
        · intro l hl
          rw [hothers l fun d hd => hl d (List.mem_cons_of_mem _ hd), hentry,
            if_neg (hl e List.mem_cons_self)]
        · intro hdone d hd hstale
          rcases List.mem_cons.1 hd with rfl | hd
          · rw [hothers _ fun c hc => (hfresh c hc).symm, hentry, if_pos rfl]
          · exact hstaged hdone d hd hstale
      · -- the limit is hit before anything is written
        have hstep : Step.perform cwd s t (.stage e.2 e.1) = (t, some .nameTooLong) := by
          rw [Step.perform, if_neg hfits]
        rw [performAll_cons_failed _ hstep]
        exact ⟨fun _ _ => rfl, fun h => by cases h⟩

/-! ## Making directories -/

theorem dirSteps_cons_none {e : TextFile × Nat} (es : List (TextFile × Nat))
    (h : e.1.path.parent? = none) : dirSteps (e :: es) = dirSteps es := by
  rw [dirSteps, List.filterMap_cons, h]
  rfl

theorem dirSteps_cons_some {e : TextFile × Nat} (es : List (TextFile × Nat)) {dir : Path}
    (h : e.1.path.parent? = some dir) : dirSteps (e :: es) = .makeDirs dir :: dirSteps es := by
  rw [dirSteps, List.filterMap_cons, h]
  rfl

/-- Making the directories of some files adds directories that are passed on the way to
    them.  If all could be made, all are there. -/
theorem performAll_dirSteps (cwd : Location) (made : Location → Prop) (s : Staging) (t : FileTree)
    {es : List (TextFile × Nat)}
    (hmade : ∀ e ∈ es, ∀ dir, e.1.path.parent? = some dir → ∀ l, dir.Passes cwd l → made l) :
    Grows made t (performAll cwd s t (dirSteps es)).tree ∧
      ((performAll cwd s t (dirSteps es)).failure = none →
        ∀ e ∈ es, ∀ dir, e.1.path.parent? = some dir →
          dir.text = "" ∨ (performAll cwd s t (dirSteps es)).tree.isDir cwd dir = true) := by
  induction es generalizing t with
  | nil => exact ⟨Grows.refl _ t, by simp⟩
  | cons e es ih =>
    rw [List.forall_mem_cons] at hmade
    cases hparent : e.1.path.parent? with
    | none =>
      rw [dirSteps_cons_none es hparent]
      obtain ⟨hgrows, hdirs⟩ := ih t hmade.2
      refine ⟨hgrows, fun hdone => List.forall_mem_cons.2 ⟨fun dir hdir => ?_, hdirs hdone⟩⟩
      rw [hparent] at hdir
      cases hdir
    | some dir =>
      rw [dirSteps_cons_some es hparent]
      have hfirst := (makeDirs_grows t cwd dir).mono (hmade.1 dir hparent)
      rcases hstep : t.makeDirs cwd dir with ⟨u, e' | e'⟩
      · rw [hstep] at hfirst
        obtain ⟨htree, hfailure⟩ := performAll_cons_done (s := s) (dirSteps es)
          (show Step.perform cwd s t (.makeDirs dir) = (u, none) from hstep)
        obtain ⟨hgrows, hdirs⟩ := ih u hmade.2
        rw [htree, hfailure]
        refine ⟨hfirst.trans hgrows, fun hdone =>
          List.forall_mem_cons.2 ⟨fun other hother => ?_, hdirs hdone⟩⟩
        obtain rfl : dir = other := Option.some.inj (hparent.symm.trans hother)
        -- it was there once it was made, and directories stay
        exact (isDir_of_makeDirs hstep).imp_right (isDir_stable fun _ => hgrows.entryAt?_of_some)
      · rw [hstep] at hfirst
        rw [performAll_cons_failed (s := s) (dirSteps es)
          (show Step.perform cwd s t (.makeDirs dir) = (u, some e') from hstep)]
        exact ⟨hfirst, fun h => by cases h⟩

/-! ## Moving -/

/-- Why moving stopped: the next file in line was refused. -/
structure Stuck (cwd : Location) (s : Staging) (t : FileTree) (e : TextFile × Nat)
    (f : Failure) : Prop where
  path : f.path = e.1.path
  refused : ∃ cause, f.cause = .operation cause ∧
    t.moveFile cwd (s.filePlace e.2) e.1.path = .error cause
  staged : t.entryAt? (s.filePlace e.2) = some (.file e.1.contents.toUTF8)

theorem perform_move_ok {p : Path} {i : Nat} (h : t.moveFile cwd (s.filePlace i) p = .ok u) :
    Step.perform cwd s t (.move i p) = (u, none) := by
  rw [Step.perform, h]

theorem perform_move_error {p : Path} {i : Nat} {kind : FileError}
    (h : t.moveFile cwd (s.filePlace i) p = .error kind) :
    Step.perform cwd s t (.move i p) = (t, some kind) := by
  rw [Step.perform, h]

/-- A staged file that is moved goes to where its path leads, and not over a directory. -/
theorem entryAt?_move {p : Path} {i : Nat} (hmove : t.moveFile cwd (s.filePlace i) p = .ok u) :
    ∃ contents, t.entryAt? (s.filePlace i) = some (.file contents) ∧ p.Admissible ∧
      t.entryAt? (cwd.along p) ≠ some .dir ∧
      ∀ l, u.entryAt? l =
        if l = cwd.along p then some (.file contents)
        else if l = s.filePlace i then none else t.entryAt? l := by
  obtain ⟨slot, m, contents, hslot, hm, hfile, -, -, hdir, rfl⟩ := moveFile_eq_ok.1 hmove
  rw [fileAt?_eq_some_iff] at hfile
  have hparent := ((slot_eq_ok rfl).1 hslot).2.2.1
  have hnot : t.entryAt? m ≠ some .dir := by
    rw [Ne, ← hasDir_iff, hdir]
    exact Bool.false_ne_true
  refine ⟨contents, hfile, admissible_of_slot hslot hm, ?_⟩
  rw [← eq_along_of_slot hslot hm]
  rw [Slot.location?] at hm
  split_ifs at hm
  obtain rfl := Option.some.inj hm
  exact ⟨hnot, entryAt?_moveFile hfile hparent hnot⟩

/-- A directory is neither what is moved nor what something is moved over. -/
theorem entryAt?_dir_move {p : Path} {i : Nat} {l : Location}
    (hmove : t.moveFile cwd (s.filePlace i) p = .ok u) (h : t.entryAt? l = some .dir) :
    u.entryAt? l = some .dir := by
  obtain ⟨contents, hfile, -, hnot, hentry⟩ := entryAt?_move hmove
  rw [hentry, if_neg, if_neg, h]
  · rintro rfl
    rw [hfile] at h
    cases h
  · rintro rfl
    exact hnot h

theorem entryAt?_dir_moveSteps (es : List (TextFile × Nat)) {l : Location}
    (h : t.entryAt? l = some .dir) :
    (performAll cwd s t (moveSteps es)).tree.entryAt? l = some .dir := by
  induction es generalizing t with
  | nil => exact h
  | cons e es ih =>
    rw [moveSteps, List.map_cons, ← moveSteps]
    cases hmove : t.moveFile cwd (s.filePlace e.2) e.1.path with
    | error cause =>
      rw [performAll_cons_failed _ (perform_move_error hmove)]
      exact h
    | ok u =>
      rw [(performAll_cons_done (moveSteps es) (perform_move_ok hmove)).1]
      exact ih (entryAt?_dir_move hmove h)

/-- Files that were staged are moved one after the other.  Those that reach their
    places come first in the list, and the one after them is where moving stops. -/
theorem performAll_moveSteps (cwd : Location) {es : List (TextFile × Nat)}
    (hindex : (es.map Prod.snd).Nodup)
    (haway : ∀ e ∈ es, ¬ s.place <+: cwd.along e.1.path)
    (hstaged : ∀ e ∈ es, t.entryAt? (s.filePlace e.2) = some (.file e.1.contents.toUTF8)) :
    ∃ moved rest, es = moved ++ rest ∧
      Lands (fun l => ¬ s.place <+: l) cwd (moved.map Prod.fst) t
        (performAll cwd s t (moveSteps es)).tree ∧
      match (performAll cwd s t (moveSteps es)).failure with
      | none => rest = []
      | some f => ∃ e others, rest = e :: others ∧
          Stuck cwd s (performAll cwd s t (moveSteps es)).tree e f := by
  induction es generalizing t with
  | nil => exact ⟨[], [], rfl, Lands.refl _ cwd t, rfl⟩
  | cons e es ih =>
    have hfresh := fun d hd => filePlace_ne_of_nodup (s := s) hindex (d := d) hd
    rw [List.map_cons, List.nodup_cons] at hindex
    rw [moveSteps, List.map_cons, ← moveSteps]
    cases hmove : t.moveFile cwd (s.filePlace e.2) e.1.path with
    | error cause =>
      -- this is where moving stops
      rw [performAll_cons_failed _ (perform_move_error hmove)]
      exact ⟨[], e :: es, rfl, Lands.refl _ cwd t, e, es, rfl, rfl, ⟨cause, rfl, hmove⟩,
        hstaged e List.mem_cons_self⟩
    | ok u =>
      obtain ⟨contents, hfile, hadmissible, hdir, hentry⟩ := entryAt?_move hmove
      obtain rfl : e.1.contents.toUTF8 = contents := by
        rw [hstaged e List.mem_cons_self, Option.some.injEq] at hfile
        exact Entry.file.inj hfile
      have houtside (i : Nat) : s.filePlace i ≠ cwd.along e.1.path := fun heq =>
        haway e List.mem_cons_self (heq ▸ place_prefix_filePlace s i)
      -- the other files are still staged, so the rest goes on from `u`
      obtain ⟨moved, rest, hsplit, hlands, hend⟩ := ih (t := u) hindex.2
        (fun d hd => haway d (List.mem_cons_of_mem _ hd))
        (fun d hd => by
          rw [hentry, if_neg (houtside d.2), if_neg (hfresh d hd),
            hstaged d (List.mem_cons_of_mem _ hd)])
      have hapart : ∀ f ∈ moved.map Prod.fst, ¬ s.place <+: cwd.along f.path := by
        intro f hf
        obtain ⟨d, hd, rfl⟩ := List.mem_map.1 hf
        have hmem : d ∈ es := by rw [hsplit]; exact List.mem_append_left _ hd
        exact haway d (List.mem_cons_of_mem _ hmem)
      obtain ⟨htree, hfailure⟩ := performAll_cons_done (moveSteps es) (perform_move_ok hmove)
      rw [htree, hfailure]
      refine ⟨e :: moved, rest, by rw [hsplit]; rfl, ?_, hend⟩
      -- the staged file is gone from a place that is out of scope
      have hsource {l : Location} (hl : ¬ s.place <+: l) : l ≠ s.filePlace e.2 := fun heq =>
        hl (heq ▸ place_prefix_filePlace s e.2)
      exact hlands.cons hadmissible hdir hentry hsource hapart

end Delivery

end GrammarBindings
