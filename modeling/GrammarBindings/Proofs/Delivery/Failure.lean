/-
  GrammarBindings.Proofs.Delivery.Failure

  What a delivery leaves when it fails, for any tree, output directory and files.

    * Files outside the output directory are refused before anything is done.
    * Any other failure leaves the tree with directories added, and then with the first
      files in line put where their paths lead.  The operation that failed is known
      (`Barred`, `Halted`): unless it was a move, no file is in place; if it was one, those
      before the file that it was to move are, and all directories are there.
    * Nothing that was there is gone, and the staging directory is.

  Main statement: `deliver_error`.
-/
import GrammarBindings.Proofs.Delivery.Course

namespace GrammarBindings.Delivery

open FileTree

variable {t u v : FileTree} {cwd place : Location} {root : Path} {files moved : List TextFile}
  {e : Failure}

/-! ## Directories and files that stay -/

section Stay

variable {made : Location → Prop} {after : FileTree}

/-- Adding directories and putting files in their places takes no directory away. -/
theorem hasDir_of_lands (hgrows : Grows made t v)
    (hlands : Lands (fun _ => True) cwd moved v after) {l : Location}
    (h : t.hasDir l = true) : after.hasDir l = true := by
  rw [hasDir_iff] at h ⊢
  exact hlands.entryAt?_dir trivial (hgrows.entryAt?_of_some h)

/-- A file can be replaced by another file only. -/
theorem isSome_fileAt?_of_lands (hgrows : Grows made t v)
    (hlands : Lands (fun _ => True) cwd moved v after) {l : Location}
    (h : (t.fileAt? l).isSome = true) : (after.fileAt? l).isSome = true := by
  obtain ⟨bytes, hbytes⟩ := Option.isSome_iff_exists.1 h
  have hbefore := hgrows.entryAt?_of_some (fileAt?_eq_some_iff.1 hbytes)
  have hafter : ∃ bytes, after.entryAt? l = some (.file bytes) := by
    rw [hlands.placed l trivial]
    exact exists_file_overwritten ⟨bytes, hbefore⟩
  simpa only [Option.isSome_iff_exists, fileAt?_eq_some_iff] using hafter

end Stay

/-! ## The two ways to fail -/

/-- If files are refused because of where they are to go, nothing was done. -/
theorem tree_of_outside (h : (deliver t cwd root files).result = .error e) {dir : Path}
    (hcause : e.cause = .outside dir) : (deliver t cwd root files).tree = t := by
  rcases barred_or_halted h with hbarred | ⟨u, place, moved, v, henters, -⟩
  · generalize (deliver t cwd root files).tree = after at hbarred
    cases hbarred with
    | outside => rfl
    | making | staging => cases hcause
  · -- behind the guard only operations fail
    obtain ⟨kind, hkind⟩ := cause_deliver (stray?_eq_none_iff.1 henters.inside) h
    rw [hcause] at hkind
    cases hkind

/-- A delivery that did not get to its staging directory has made directories only. -/
theorem Barred.eq_tree {after : FileTree} {kind : FileError}
    (h : Barred t cwd root files after e) (hcause : e.cause = .operation kind) :
    after = (t.makeDirs cwd root).1 := by
  cases h with
  | outside => cases hcause
  | making hrefused => rw [hrefused]
  | staging hmade => rw [hmade]

theorem Enters.eq_tree (h : Enters t cwd root files u place) : (t.makeDirs cwd root).1 = u := by
  rw [h.made]

/-- Where a delivery failed, and what it did until then. -/
theorem exists_course_of_error (h : (deliver t cwd root files).result = .error e) :
    ∃ moved v,
      ((moved = [] ∧ Barred t cwd root files (deliver t cwd root files).tree e) ∨
        ∃ place, Enters t cwd root files (t.makeDirs cwd root).1 place ∧
          Halted (t.makeDirs cwd root).1 cwd
            (stagingIn (t.makeDirs cwd root).1 cwd root place files) files
            (deliver t cwd root files).tree moved e) ∧
      moved <+: stale (t.makeDirs cwd root).1 cwd files ∧
      Grows (fun l => root.Passes cwd l ∨ Paved (t.makeDirs cwd root).1 cwd files l) t v ∧
      Lands (fun _ => True) cwd moved v (deliver t cwd root files).tree := by
  rcases barred_or_halted h with hbarred | ⟨u, place, moved, v, henters, hcourse⟩
  · exact ⟨[], _, Or.inl ⟨rfl, hbarred⟩, List.nil_prefix, hbarred.grows.mono fun _ => Or.inl,
      Lands.refl _ cwd _⟩
  · rw [henters.eq_tree]
    -- directories on the way to the output directory came before those of the course
    have hgrows : Grows (fun l => root.Passes cwd l ∨ Paved u cwd files l) t v :=
      (henters.grows.mono fun _ => Or.inl).trans (hcourse.grows.mono fun _ => Or.inr)
    exact ⟨moved, v, Or.inr ⟨place, henters, hcourse.halted e rfl⟩, hcourse.moved_prefix, hgrows,
      hcourse.lands⟩

/-- The staging directory is gone, or never was there. -/
theorem lookup_staging {kind : FileError} (h : (deliver t cwd root files).result = .error e)
    (hcause : e.cause = .operation kind)
    (hhome : home (t.makeDirs cwd root).1 cwd root = .ok place) :
    (deliver t cwd root files).tree.lookup
      (stagingIn (t.makeDirs cwd root).1 cwd root place files).place = none := by
  rw [lookup_eq_none_iff]
  rcases barred_or_halted h with hbarred | ⟨u, other, moved, v, henters, -⟩
  · -- its name is one that is not there
    rw [hbarred.eq_tree hcause, entryAt?_stagingIn]
  · -- it was erased in the end
    rw [henters.eq_tree] at hhome ⊢
    obtain rfl : other = place := Except.ok.inj (henters.found.symm.trans hhome)
    rw [henters.deliver_eq, henters.fresh.deliverThrough_eq.1, henters.fresh.entryAt?_erase,
      if_pos List.prefix_rfl]

/-- A delivery that fails

    * leaves the tree as it was if a file is outside the output directory;
    * otherwise leaves it with directories added, which are on the way to the output
      directory or to files that did not hold their texts (the tree `v`), and then with the
      first of these files put where their paths lead (`moved`):

        - none of them if it did not get to its staging directory (`Barred`), or if staging
          a file or making a directory failed;
        - if a move failed, those before the file that it was to move (`Halted`).

    No directory is taken away, in place of a file there is a file, and there is nothing at
    the place of the staging directory. -/
theorem deliver_error (h : (deliver t cwd root files).result = .error e) :
    let u := (t.makeDirs cwd root).1
    let after := (deliver t cwd root files).tree
    (∀ dir, e.cause = .outside dir → after = t) ∧
    (∀ kind, e.cause = .operation kind → ∃ moved v,
      ((moved = [] ∧ Barred t cwd root files after e) ∨
        ∃ place, Enters t cwd root files u place ∧
          Halted u cwd (stagingIn u cwd root place files) files after moved e) ∧
      moved <+: stale u cwd files ∧
      Grows (fun l => root.Passes cwd l ∨ Paved u cwd files l) t v ∧
      Lands (fun _ => True) cwd moved v after ∧
      (∀ l, t.hasDir l = true → after.hasDir l = true) ∧
      (∀ l, (t.fileAt? l).isSome = true → (after.fileAt? l).isSome = true) ∧
      ∀ place, home u cwd root = .ok place →
        after.lookup (stagingIn u cwd root place files).place = none) := by
  intro u after
  refine ⟨fun dir => tree_of_outside h, fun kind hkind => ?_⟩
  obtain ⟨moved, v, hway, hprefix, hgrows, hlands⟩ := exists_course_of_error h
  exact ⟨moved, v, hway, hprefix, hgrows, hlands, fun _ => hasDir_of_lands hgrows hlands,
    fun _ => isSome_fileAt?_of_lands hgrows hlands, fun _ => lookup_staging h hkind⟩

/-- An output directory with a file that is out of date and a directory where a file is to
    go. -/
def blockedTree : FileTree :=
  .dir [("w", .dir [("out", .dir [("a", .file "old".toUTF8), ("b", .dir [])])])]

/-- Three files; the path of the second one passes a directory that is missing. -/
def blockedFiles : List TextFile :=
  [⟨⟨"out/a"⟩, "new"⟩, ⟨⟨"out/d/../b"⟩, "x"⟩, ⟨⟨"out/c"⟩, "y"⟩]

/-- The first file is in place when the move of the second one fails, the third is not; a
    file outside the output directory keeps all of them from it. -/
theorem deliver_error_blocked :
    let after := (deliver blockedTree ["w"] ⟨"out"⟩ blockedFiles).tree
    (deliver blockedTree ["w"] ⟨"out"⟩ blockedFiles).result =
        .error ⟨⟨"out/d/../b"⟩, .operation .isADirectory⟩ ∧
      (∃ moved v,
        moved <+: stale (blockedTree.makeDirs ["w"] ⟨"out"⟩).1 ["w"] blockedFiles ∧
        Lands (fun _ => True) ["w"] moved v after) ∧
      after.hasDir ["w", "out", "b"] = true ∧ after.hasDir ["w", "out", "d"] = true ∧
      after.fileAt? ["w", "out", "a"] = some "new".toUTF8 ∧
      after.fileAt? ["w", "out", "c"] = none ∧
      (deliver blockedTree ["w"] ⟨"out"⟩ (blockedFiles ++ [⟨⟨"../a"⟩, "z"⟩])).tree =
        blockedTree := by
  intro after
  have hresult : (deliver blockedTree ["w"] ⟨"out"⟩ blockedFiles).result =
      .error ⟨⟨"out/d/../b"⟩, .operation .isADirectory⟩ := by decide +kernel
  have hstray : (deliver blockedTree ["w"] ⟨"out"⟩ (blockedFiles ++ [⟨⟨"../a"⟩, "z"⟩])).result =
      .error ⟨⟨"../a"⟩, .outside ⟨"out"⟩⟩ := by decide +kernel
  obtain ⟨moved, v, -, hprefix, -, hlands, hdirs, -⟩ := (deliver_error hresult).2 _ rfl
  exact ⟨hresult, ⟨moved, v, hprefix, hlands⟩, hdirs _ (by decide +kernel), by decide +kernel,
    by decide +kernel, by decide +kernel, (deliver_error hstray).1 _ rfl⟩

end GrammarBindings.Delivery
