/-
  GrammarBindings.Proofs.Delivery.Success

  What a delivery that succeeds has done, told by what can be read before and after
  it: `deliver_ok`.  The files need not lie apart from each other in any other way
  than by their paths; success itself shows that none is in the way of another.
-/
import GrammarBindings.Proofs.Delivery.Account
import Mathlib.Data.List.Forall2
import Mathlib.Data.List.Nodup

namespace GrammarBindings

namespace Delivery

open FileTree

variable {made : Location → Prop} {t v : FileTree} {cwd home : Location} {root : Path}
  {files moved : List TextFile} {d : Delivery}

/-! ## The files of an account with nothing left -/

/-- A file that held its text is not among those that were moved. -/
theorem place_ne_of_isCurrent (hfiles : ∀ f ∈ files, f.path.Canonical)
    (hnodup : (files.map TextFile.path).Nodup)
    (h : Account made t cwd home files moved [] v d) {f : TextFile} (hf : f ∈ files)
    (hcurrent : isCurrent t cwd f = true) : ∀ g ∈ moved, g.path.place ≠ f.path.place := by
  intro g hg heq
  obtain ⟨hmem, hfalse⟩ := h.mem_moved hg
  obtain rfl : g = f := List.inj_on_of_nodup_map (nodup_places hfiles hnodup) hmem hf heq
  rw [hcurrent] at hfalse
  cases hfalse

/-- With nothing left to do, every file holds its text. -/
theorem isCurrent_after (hfiles : ∀ f ∈ files, f.path.Canonical)
    (hnodup : (files.map TextFile.path).Nodup) (hroot : v.entryAt? [] = some .dir)
    (h : Account made t cwd home files moved [] v d) {f : TextFile} (hf : f ∈ files) :
    isCurrent d.tree cwd f = true := by
  rw [isCurrent_iff (hfiles f hf)]
  cases hcurrent : isCurrent t cwd f with
  | false =>
    -- it was moved, to a place that is not the root, as the root is a directory
    have hmoved : f ∈ moved := by
      have hstale := mem_stale.2 ⟨hf, hcurrent⟩
      rwa [h.split, List.append_nil] at hstale
    refine ⟨?_, h.replaces.usable f hmoved, h.replaces.placed f hmoved⟩
    intro hnil
    exact h.replaces.not_dir f hmoved (hnil ▸ hroot)
  | true =>
    -- it was left alone, and no other file was moved over it
    obtain ⟨hne, husable, hentry⟩ := (isCurrent_iff (hfiles f hf)).1 hcurrent
    refine ⟨hne, husable, ?_⟩
    rw [h.replaces.others _ trivial (place_ne_of_isCurrent hfiles hnodup h hf hcurrent)]
    exact h.grows.entryAt?_of_some hentry

/-- The directories are those from before, those on the way to the output directory,
    and those on the way to the files that did not hold their texts. -/
theorem hasDir_after (hroot : v.entryAt? root.place = some .dir)
    (h : Account (fun l => l <+: root.place ∨ OnTheWay t cwd files l) t cwd home files
      moved [] v d) (l : Location) :
    d.tree.hasDir l = true ↔
      t.hasDir l = true ∨ l <+: root.place ∨ OnTheWay t cwd files l := by
  rw [hasDir_iff, hasDir_iff, h.replaces.entryAt?_dir_iff trivial]
  constructor
  · intro hdir
    rcases h.grows l with hsame | ⟨-, -, hmade⟩
    · exact Or.inl (hsame ▸ hdir)
    · exact Or.inr hmade
  · rintro (hdir | hpre | ⟨f, hf, habove⟩)
    · exact h.grows.entryAt?_of_some hdir
    · exact entryAt?_dir_above hpre hroot
    · -- the file is there now, so the directories above it are
      rw [h.split, List.append_nil] at hf
      rw [← h.replaces.entryAt?_dir_iff trivial]
      exact entryAt?_above habove.1 habove.2 (by simp [h.replaces.placed f hf])

/-! ## Success -/

/-- The staging directory is gone. -/
theorem staging_erased (hroot : root.Canonical) {sts : List (Path × Status)}
    (h : (deliver t cwd root files).result = .ok sts) :
    (deliver t cwd root files).tree.lookup
      (stagingIn (t.makeDirs cwd root).1 cwd root root.place files).place = none := by
  rcases deliver_cases t cwd files hroot with ⟨u, henters, -⟩ | ⟨e, -, hresult⟩
  · rw [henters.deliver_eq, henters.made, lookup_eq_none_iff]
    exact (entryAt?_erase _ _ _ _).trans (if_pos List.prefix_rfl)
  · rw [hresult] at h
    cases h

/-- If files with canonical and pairwise different paths are delivered into a
    canonical directory and the delivery succeeds, then

    * every file has one status, in order and with its path, and it counts as
      unchanged exactly if its text was read from its path before;
    * its text is read from its path afterwards;
    * every other file is as it was;
    * the only directories that are new are those that were missing on the way to the
      output directory, itself included, and on the way to the written files;
    * nothing is left of the staging directory. -/
theorem deliver_ok {statuses : List (Path × Status)} (hroot : root.Canonical)
    (hfiles : ∀ f ∈ files, f.path.Canonical) (hdistinct : (files.map TextFile.path).Nodup)
    (h : (deliver t cwd root files).result = .ok statuses) :
    List.Forall₂ (fun f e => e.1 = f.path ∧
        (e.2 = .unchanged ↔ t.read cwd f.path = .ok f.contents.toUTF8)) files statuses ∧
      (∀ f ∈ files,
        (deliver t cwd root files).tree.read cwd f.path = .ok f.contents.toUTF8) ∧
      (∀ l, (∀ f ∈ files, f.path.place ≠ l) →
        (deliver t cwd root files).tree.fileAt? l = t.fileAt? l) ∧
      (∀ l, (deliver t cwd root files).tree.hasDir l = true ↔
        t.hasDir l = true ∨ l <+: root.place ∨
          ∃ f ∈ files, t.read cwd f.path ≠ .ok f.contents.toUTF8 ∧ l.Above f.path.place) ∧
      (deliver t cwd root files).tree.lookup
        (stagingIn (t.makeDirs cwd root).1 cwd root root.place files).place = none := by
  obtain ⟨moved, rest, v, haccount, hdir⟩ :=
    account_deliver t cwd hroot hfiles hdistinct
  obtain ⟨rfl, rfl⟩ := haccount.succeeded statuses h
  have htop : v.entryAt? [] = some .dir := entryAt?_dir_above List.nil_prefix (hdir _ h)
  refine ⟨?_, fun f hf => ?_, fun l hl => ?_, fun l => ?_, staging_erased hroot h⟩
  · -- a status is computed from the file alone
    rw [Delivery.statuses, List.forall₂_map_right_iff, List.forall₂_same]
    intro f _
    refine ⟨rfl, ?_⟩
    rw [← isCurrent_iff_read]
    cases isCurrent t cwd f <;> simp
  · exact isCurrent_iff_read.1 (isCurrent_after hfiles hdistinct htop haccount hf)
  · exact haccount.fileAt?_eq fun f hf => hl f (haccount.mem_moved hf).1
  · rw [hasDir_after (hdir _ h) haccount]
    refine or_congr_right (or_congr_right ?_)
    simp only [OnTheWay, mem_stale, ← isCurrent_iff_read, ne_eq, Bool.not_eq_true, and_assoc]

/-- A directory with one file in it. -/
def halfDelivered : FileTree := .dir [("out", .dir [("a", .file "x".toUTF8)])]

/-- The file that is there, and one for which even the directory is missing. -/
def twoFiles : List TextFile := [⟨⟨"/out/a"⟩, "x"⟩, ⟨⟨"/out/d/b"⟩, "y"⟩]

theorem twoFiles_canonical : ∀ f ∈ twoFiles, f.path.Canonical := by
  have hpaths : ∀ f ∈ twoFiles, f.path.isAbsolute = true ∧ f.path.normalize = f.path := by
    decide +kernel
  exact fun f hf => ⟨(hpaths f hf).1, (hpaths f hf).2⟩

theorem deliver_ok_twoFiles :
    (deliver halfDelivered [] ⟨"/out"⟩ twoFiles).result =
        .ok [(⟨"/out/a"⟩, .unchanged), (⟨"/out/d/b"⟩, .written)] ∧
      (deliver halfDelivered [] ⟨"/out"⟩ twoFiles).tree.read [] ⟨"/out/d/b"⟩ =
        .ok "y".toUTF8 := by
  have hroot : Path.Canonical ⟨"/out"⟩ := ⟨by decide +kernel, by decide +kernel⟩
  have hresult : (deliver halfDelivered [] ⟨"/out"⟩ twoFiles).result =
      .ok [(⟨"/out/a"⟩, .unchanged), (⟨"/out/d/b"⟩, .written)] := by decide +kernel
  obtain ⟨-, hread, -⟩ := deliver_ok hroot twoFiles_canonical (by decide +kernel) hresult
  exact ⟨hresult, hread ⟨⟨"/out/d/b"⟩, "y"⟩ (List.mem_cons_of_mem _ List.mem_cons_self)⟩

end Delivery

end GrammarBindings
