/-
  GrammarBindings.Proofs.Delivery.Staging

  The staging directory of a delivery.  Its name is not there yet and is no piece of any
  file's path, so it plays no part in what becomes of the files, whatever their paths are:
  those that hold their texts are the same with it as without it, and what is done beside
  it is still there once it is gone.

    * `stale` — the files that do not hold their texts, which are staged and moved.
    * `Fresh` — the staging directory is new, and no path of a file leads into it;
      `fresh_stagingIn` — that of a delivery is.
    * `Fresh.deliverThrough_eq` — a delivery is planned from the tree before it was made.
    * `Fresh.performAll_stageSteps_insert` — the first phase stays inside of it.
    * `Fresh.grows_erase`, `Fresh.lands_erase` — it leaves no trace.
-/
import GrammarBindings.Proofs.Delivery.Steps
import GrammarBindings.Proofs.FileTree.Apart

namespace GrammarBindings

namespace FileTree

variable {made : Location → Prop} {t u : FileTree} {p : Location} {n : String}

/-- If two trees differ by directories outside a place where nothing was, they do so
    everywhere once that place is erased. -/
theorem grows_erase (habsent : t.entryAt? (p ++ [n]) = none)
    (h : ∀ l, ¬ p ++ [n] <+: l →
      u.entryAt? l = t.entryAt? l ∨ (t.entryAt? l = none ∧ u.entryAt? l = some .dir ∧ made l)) :
    Grows made t (erase (p ++ [n]) u) := by
  intro l
  rw [entryAt?_erase]
  split_ifs with hl
  · left
    by_cases heq : p ++ [n] = l
    · rw [← heq, habsent]
    · exact (entryAt?_eq_none_below hl heq (by simp [habsent])).symm
  · exact h l hl

end FileTree

namespace Delivery

open FileTree

variable {cwd home : Location} {s : Staging} {t u : FileTree} {files : List TextFile}
  {current other : TextFile → Bool}

/-! ## Files that hold their texts -/

theorem isCurrent_iff_read {f : TextFile} :
    isCurrent t cwd f = true ↔ t.read cwd f.path = .ok f.contents.toUTF8 := by
  unfold isCurrent
  cases t.read cwd f.path with
  | error e => simp
  | ok bytes => simp [TextFile.agreesWith_iff]

/-- The files of a list that do not hold their texts. -/
def stale (t : FileTree) (cwd : Location) (files : List TextFile) : List TextFile :=
  files.filter fun f => !isCurrent t cwd f

theorem mem_stale {f : TextFile} :
    f ∈ stale t cwd files ↔ f ∈ files ∧ isCurrent t cwd f = false := by
  rw [stale, List.mem_filter, Bool.not_eq_true']

theorem stale_congr (h : ∀ f ∈ files, isCurrent u cwd f = isCurrent t cwd f) :
    stale u cwd files = stale t cwd files :=
  List.filter_congr fun f hf => by rw [h f hf]

theorem map_fst_staleFiles (t : FileTree) (cwd : Location) (files : List TextFile) :
    (staleFiles (isCurrent t cwd) files).map Prod.fst = stale t cwd files := by
  have hfst : files.zipIdx.map Prod.fst = files := List.zipIdx_map_fst 0 files
  rw [staleFiles, stale]
  conv_rhs => rw [← hfst, List.filter_map]
  rfl

theorem mem_stale_of_mem_staleFiles {e : TextFile × Nat}
    (he : e ∈ staleFiles (isCurrent t cwd) files) : e.1 ∈ stale t cwd files :=
  map_fst_staleFiles t cwd files ▸ List.mem_map_of_mem he

theorem nodup_zipIdx_snd (files : List TextFile) : (files.zipIdx.map Prod.snd).Nodup := by
  rw [List.zipIdx_map_snd]
  exact List.nodup_range'

theorem nodup_staleFiles_snd (current : TextFile → Bool) (files : List TextFile) :
    ((staleFiles current files).map Prod.snd).Nodup :=
  (nodup_zipIdx_snd files).sublist (List.filter_sublist.map _)

theorem statuses_congr (h : ∀ f ∈ files, current f = other f) :
    statuses current files = statuses other files :=
  List.map_congr_left fun f hf => by rw [h f hf]

/-- A plan depends only on which of its files hold their texts. -/
theorem plan_congr (h : ∀ f ∈ files, current f = other f) :
    plan current files = plan other files := by
  -- the numbers of the files play no part in it
  have hindexed : ∀ e ∈ files.zipIdx, current e.1 = other e.1 := fun e he =>
    h e.1 (List.fst_mem_of_mem_zipIdx he)
  have hstale : staleFiles current files = staleFiles other files :=
    List.filter_congr fun e he => by rw [hindexed e he]
  have hstage : stageSteps current files.zipIdx = stageSteps other files.zipIdx :=
    List.map_congr_left fun e he => by rw [hindexed e he]
  rw [plan_eq, plan_eq, hstale, hstage]

/-! ## A fresh staging directory -/

/-- A staging directory in the directory `home` that is not there yet, and into which no
    path of a file leads. -/
structure Fresh (s : Staging) (t : FileTree) (cwd home : Location) (files : List TextFile) :
    Prop where
  inside : ∃ n, s.place = home ++ [n] ∧ ∀ f ∈ files, f.path.Avoids cwd home n
  dir : t.entryAt? home = some .dir
  absent : t.entryAt? s.place = none

theorem child?_eq_none_iff (es : List (String × FileTree)) (n : String) :
    child? n es = none ↔ n ∉ es.map Prod.fst := by
  induction es with
  | nil => simp [child?]
  | cons e es ih =>
    rw [child?, List.map_cons, List.mem_cons, not_or, ← ih]
    by_cases hn : n = e.1 <;> simp [hn]

/-- The names in a directory are those under which something is there. -/
theorem mem_namesIn {l : Location} {n : String} :
    n ∈ namesIn t l ↔ t.entryAt? (l ++ [n]) ≠ none := by
  rw [namesIn, entryAt?, lookup_append]
  rcases t.lookup l with - | contents | es
  · simp
  · simp [lookup]
  · simp only [Option.bind_some, lookup]
    have hchild := child?_eq_none_iff es n
    cases hes : child? n es with
    | none => simpa [hes] using hchild
    | some node => simpa [hes, lookup] using hchild

theorem entryAt?_stagingIn (t : FileTree) (cwd : Location) (root : Path) (home : Location)
    (files : List TextFile) :
    t.entryAt? (stagingIn t cwd root home files).place = none := by
  have hnew := freshName_notMem (namesIn t home ++ files.flatMap fun f => f.path.pieces)
  rw [List.mem_append, not_or, mem_namesIn, not_not] at hnew
  exact hnew.1

/-- The staging directory of a delivery is fresh, if the paths of its files start from a
    directory. -/
theorem fresh_stagingIn (root : Path) (hdir : t.entryAt? home = some .dir)
    (hstart : ∀ f ∈ files, f.path.isAbsolute = true ∨ t.entryAt? cwd = some .dir) :
    Fresh (stagingIn t cwd root home files) t cwd home files := by
  have habsent := entryAt?_stagingIn t cwd root home files
  -- the name avoids all pieces of the files' paths as well
  have hpieces := freshName_notMem (namesIn t home ++ files.flatMap fun f => f.path.pieces)
  rw [List.mem_append, not_or, List.mem_flatMap] at hpieces
  refine ⟨⟨_, rfl, fun f hf => ⟨?_, fun hmem => hpieces.2 ⟨f, hf, hmem⟩⟩⟩, hdir, habsent⟩
  rw [origin]
  split_ifs with habsolute
  · exact fun h => by simpa using h.length_le
  · -- where the path starts there is a directory, and in the staging directory nothing
    intro hpre
    rw [stagingIn, entryAt?_dir_above hpre ((hstart f hf).resolve_left habsolute)] at habsent
    cases habsent

namespace Fresh

variable (hs : Fresh s t cwd home files)

include hs

theorem apart : ∀ f ∈ files, ¬ s.place <+: cwd.along f.path := by
  obtain ⟨n, hn, havoids⟩ := hs.inside
  intro f hf
  rw [hn]
  exact not_prefix_along (havoids f hf)

/-- There is nothing in a staging directory that is not there yet. -/
theorem entryAt?_eq_none {l : Location} (h : s.place <+: l) : t.entryAt? l = none := by
  by_cases heq : s.place = l
  · rw [← heq, hs.absent]
  · exact entryAt?_eq_none_below h heq (by simp [hs.absent])

/-- Making the staging directory changes nothing but its place. -/
theorem entryAt?_insert (l : Location) :
    (FileTree.insert (.dir []) s.place t).entryAt? l =
      if l = s.place then some .dir else t.entryAt? l := by
  obtain ⟨n, hn, -⟩ := hs.inside
  have habsent := hs.absent
  rw [hn] at habsent ⊢
  exact entryAt?_insert_dir hs.dir habsent l

/-- Which files hold their texts does not depend on the staging directory. -/
theorem isCurrent_insert {f : TextFile} (hf : f ∈ files) :
    isCurrent (FileTree.insert (.dir []) s.place t) cwd f = isCurrent t cwd f := by
  obtain ⟨n, hn, havoids⟩ := hs.inside
  rw [Bool.eq_iff_iff, isCurrent_iff_read, isCurrent_iff_read]
  refine read_beside_iff (fun l hl => ?_) (havoids f hf)
  rw [hs.entryAt?_insert, if_neg]
  rintro rfl
  exact hl (hn ▸ List.prefix_rfl)

/-- What differs from a tree by directories outside the staging directory does so
    everywhere once that is gone. -/
theorem grows_erase {made : Location → Prop}
    (h : ∀ l, ¬ s.place <+: l →
      u.entryAt? l = t.entryAt? l ∨ (t.entryAt? l = none ∧ u.entryAt? l = some .dir ∧ made l)) :
    Grows made t (FileTree.erase s.place u) := by
  obtain ⟨n, hn, -⟩ := hs.inside
  have habsent := hs.absent
  rw [hn] at habsent h ⊢
  exact FileTree.grows_erase habsent h

theorem entryAt?_erase {l : Location} :
    (FileTree.erase s.place u).entryAt? l = if s.place <+: l then none else u.entryAt? l := by
  obtain ⟨n, hn, -⟩ := hs.inside
  rw [hn, FileTree.entryAt?_erase]

/-- What lands outside the staging directory is there once that is gone. -/
theorem lands_erase {moved : List TextFile} {b r : FileTree} (hmoved : ∀ f ∈ moved, f ∈ files)
    (h : Lands (fun l => ¬ s.place <+: l) cwd moved b r) :
    Lands (fun _ => True) cwd moved (FileTree.erase s.place b) (FileTree.erase s.place r) := by
  have haway : ∀ f ∈ moved, ¬ s.place <+: cwd.along f.path := fun f hf =>
    hs.apart f (hmoved f hf)
  obtain ⟨n, hn, -⟩ := hs.inside
  rw [hn] at h haway ⊢
  exact h.erase haway

/-- What a delivery does depends on the tree before the staging directory was made. -/
theorem deliverThrough_eq :
    let progress := performAll cwd s (FileTree.insert (.dir []) s.place t)
      (plan (isCurrent t cwd) files)
    (deliverThrough t cwd s files).tree = FileTree.erase s.place progress.tree ∧
      (deliverThrough t cwd s files).result =
        resultOf (isCurrent t cwd) files progress.failure := by
  have hcurrent : ∀ f ∈ files,
      isCurrent (FileTree.insert (.dir []) s.place t) cwd f = isCurrent t cwd f :=
    fun f => hs.isCurrent_insert
  have hresult (failure : Option Failure) :
      resultOf (isCurrent (FileTree.insert (.dir []) s.place t) cwd) files failure =
        resultOf (isCurrent t cwd) files failure := by
    cases failure with
    | none => rw [resultOf, resultOf, statuses_congr hcurrent]
    | some e => rfl
  intro progress
  rw [deliverThrough]
  dsimp only
  rw [plan_congr hcurrent, hresult]
  exact ⟨rfl, rfl⟩

/-- After the first phase everything outside the staging directory is as before, and
    if it was completed the files that have to change are in there. -/
theorem performAll_stageSteps_insert (current : TextFile → Bool) :
    let r := performAll cwd s (FileTree.insert (.dir []) s.place t)
      (stageSteps current files.zipIdx)
    (∀ l, ¬ s.place <+: l → r.tree.entryAt? l = t.entryAt? l) ∧
      (r.failure = none → ∀ e ∈ staleFiles current files,
        r.tree.entryAt? (s.filePlace e.2) = some (.file e.1.contents.toUTF8)) := by
  intro r
  -- the staging directory was just made, and is empty
  have hplace : (FileTree.insert (.dir []) s.place t).entryAt? s.place = some .dir := by
    rw [hs.entryAt?_insert, if_pos rfl]
  have hfree (i : Nat) :
      (FileTree.insert (.dir []) s.place t).entryAt? (s.filePlace i) = none := by
    rw [hs.entryAt?_insert, if_neg (place_ne_filePlace s i).symm,
      hs.entryAt?_eq_none (place_prefix_filePlace s i)]
  obtain ⟨hsame, hstaged⟩ := performAll_stageSteps cwd current
    (nodup_zipIdx_snd files) hplace fun e _ => hfree e.2
  constructor
  · -- a place outside it is neither the directory itself nor that of a staged file
    intro l hl
    have hne (i : Nat) : l ≠ s.filePlace i := by
      rintro rfl
      exact hl (place_prefix_filePlace s i)
    have hplace : l ≠ s.place := by
      rintro rfl
      exact hl List.prefix_rfl
    rw [hsame l fun e _ => hne e.2, hs.entryAt?_insert, if_neg hplace]
  · intro hdone e he
    rw [staleFiles, List.mem_filter, Bool.not_eq_true'] at he
    exact hstaged hdone e he.1 he.2

end Fresh

end Delivery

end GrammarBindings
