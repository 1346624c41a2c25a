/-
  GrammarBindings.Proofs.Delivery.Repeated

  Deliveries in which a path occurs more than once.  Which files are written is settled by
  what their paths hold at the beginning; the others are skipped, and by the time that they
  would be due another file may have been moved to their place.

    * `read_of_stale` — of the files with one path that are written, the last one is read
      from it afterwards.
    * `read_of_not_lands` — a path whose files are all skipped holds what it held.

  So the last file with a path is not always the one that is read from it afterwards:
  `deliver_last_iff` says when it is.
-/
import GrammarBindings.Proofs.Delivery.Account

namespace GrammarBindings.Delivery

open FileTree

variable {t v after : FileTree} {cwd : Location} {root : Path} {files front later : List TextFile}
  {f : TextFile}

/-! ## What a delivery that succeeds has written -/

/-- A delivery that succeeds has put all files where they belong that did not hold their
    texts, one after the other. -/
theorem lands_of_ok {sts : List (Path × Status)} (hroot : root.Canonical)
    (hfiles : ∀ f ∈ files, f.path.Canonical)
    (h : (deliver t cwd root files).result = .ok sts) :
    ∃ v, Grows (fun _ => True) t v ∧ v.entryAt? [] = some .dir ∧
      Lands (fun _ => True) cwd (stale t cwd files) v (deliver t cwd root files).tree := by
  rcases deliver_cases t cwd files hroot with ⟨u, henters, hgrows⟩ | ⟨e, -, hresult⟩
  · obtain ⟨moved, v, failure, hcourse, hresult⟩ := course_deliverThrough henters.fresh
    rw [henters.deliver_eq] at h ⊢
    have hcurrent : ∀ f ∈ files, isCurrent u cwd f = isCurrent t cwd f := fun f hf =>
      isCurrent_of_grows (hfiles f hf) hgrows
    cases failure with
    | none =>
      -- directories that were made first do not change which files hold their texts
      obtain rfl := hcourse.completed rfl
      rw [stale_congr hcurrent] at hcourse
      have hdir := hcourse.grows.entryAt?_of_some henters.dir
      exact ⟨v, (hgrows.mono fun _ _ => trivial).trans (hcourse.grows.mono fun _ _ => trivial),
        entryAt?_dir_above List.nil_prefix hdir, hcourse.lands⟩
    | some e =>
      rw [hresult] at h
      cases h
  · rw [hresult] at h
    cases h

/-- Where no other file is written, the last one that was written is read. -/
theorem read_of_lands (hfiles : ∀ g ∈ front ++ f :: later, g.path.Canonical)
    (hroot : v.entryAt? [] = some .dir)
    (h : Lands (fun _ => True) cwd (front ++ f :: later) v after)
    (hlast : ∀ g ∈ later, g.path ≠ f.path) :
    after.read cwd f.path = .ok f.contents.toUTF8 := by
  have hf : f ∈ front ++ f :: later := by simp
  have hcanonical := hfiles f hf
  have hplace : cwd.along f.path = f.path.place :=
    along_of_isAbsolute hcanonical.absolute cwd
  -- canonical paths that are different lead to different places
  have hothers : ∀ g ∈ later, cwd.along g.path ≠ cwd.along f.path := by
    intro g hg heq
    have hg' := hfiles g (by simp [hg])
    rw [hplace, along_of_isAbsolute hg'.absolute] at heq
    exact hlast g hg (hg'.eq_of_place_eq hcanonical heq)
  refine isCurrent_iff_read.1 ((isCurrent_iff hcanonical).2 ⟨?_, ?_, ?_⟩)
  · -- the root is a directory, so no file was put there
    intro hnil
    exact h.not_dir f hf (by rw [hplace, hnil, hroot])
  · exact usable_of_admissible hcanonical (h.admissible f hf)
  · rw [h.placed _ trivial, ← hplace, overwritten_last front hothers]

/-- What was read from a path is read again if no file was written there. -/
theorem read_of_not_lands (hfiles : ∀ g ∈ files, g.path.Canonical) (hgrows : Grows (fun _ => True) t v)
    (h : Lands (fun _ => True) cwd files v after) (hcanonical : f.path.Canonical)
    (hnone : ∀ g ∈ files, g.path ≠ f.path)
    (hread : t.read cwd f.path = .ok f.contents.toUTF8) :
    after.read cwd f.path = .ok f.contents.toUTF8 := by
  obtain ⟨hne, husable, hentry⟩ := (isCurrent_iff hcanonical).1 (isCurrent_iff_read.2 hread)
  refine isCurrent_iff_read.1 ((isCurrent_iff hcanonical).2 ⟨hne, husable, ?_⟩)
  rw [h.placed _ trivial, overwritten_of_forall_ne, hgrows.entryAt?_of_some hentry]
  intro g hg heq
  rw [along_of_isAbsolute (hfiles g hg).absolute] at heq
  exact hnone g hg ((hfiles g hg).eq_of_place_eq hcanonical heq)

/-! ## The last file with a path -/

/-- If a path occurs in a list of files, it occurs there for the last time. -/
theorem exists_last_with_path {path : Path} (h : ∃ g ∈ files, g.path = path) :
    ∃ front g later, files = front ++ g :: later ∧ g.path = path ∧
      ∀ x ∈ later, x.path ≠ path := by
  induction files with
  | nil => simp at h
  | cons a files ih =>
    by_cases hmore : ∃ g ∈ files, g.path = path
    · obtain ⟨front, g, later, rfl, hg, hlast⟩ := ih hmore
      exact ⟨a :: front, g, later, rfl, hg, hlast⟩
    · obtain ⟨g, hg, hpath⟩ := h
      rcases List.mem_cons.1 hg with rfl | hg
      · exact ⟨[], g, files, rfl, hpath, fun x hx hx' => hmore ⟨x, hx, hx'⟩⟩
      · exact absurd ⟨g, hg, hpath⟩ hmore

theorem stale_append (files more : List TextFile) :
    stale t cwd (files ++ more) = stale t cwd files ++ stale t cwd more :=
  List.filter_append ..

theorem stale_cons_of_not_current (h : isCurrent t cwd f = false) (files : List TextFile) :
    stale t cwd (f :: files) = f :: stale t cwd files := by
  rw [stale, List.filter_cons_of_pos (by rw [h]; rfl), ← stale]

/-- The last file with a path that is written is read from it. -/
theorem read_of_stale (hroot : v.entryAt? [] = some .dir)
    (hfiles : ∀ g ∈ front ++ f :: later, g.path.Canonical)
    (h : Lands (fun _ => True) cwd (stale t cwd (front ++ f :: later)) v after)
    (hstale : t.read cwd f.path ≠ .ok f.contents.toUTF8)
    (hlater : ∀ g ∈ later, g.path = f.path → t.read cwd g.path = .ok g.contents.toUTF8) :
    after.read cwd f.path = .ok f.contents.toUTF8 := by
  rw [Ne, ← isCurrent_iff_read, Bool.not_eq_true] at hstale
  have hmem : ∀ g ∈ stale t cwd (front ++ f :: later), g.path.Canonical := fun g hg =>
    hfiles g (mem_stale.1 hg).1
  rw [stale_append, stale_cons_of_not_current hstale] at h hmem
  refine read_of_lands hmem hroot h fun g hg hpath => ?_
  -- a later file with the path is skipped
  obtain ⟨hg, hfalse⟩ := mem_stale.1 hg
  rw [isCurrent_iff_read.2 (hlater g hg hpath)] at hfalse
  cases hfalse

/-- The last file with a path is read from it unless it is skipped and another file with the
    path is written, which can only be one with another text. -/
theorem read_last_iff (hgrows : Grows (fun _ => True) t v) (hroot : v.entryAt? [] = some .dir)
    (hfiles : ∀ g ∈ front ++ f :: later, g.path.Canonical)
    (h : Lands (fun _ => True) cwd (stale t cwd (front ++ f :: later)) v after)
    (hlast : ∀ g ∈ later, g.path ≠ f.path) :
    after.read cwd f.path = .ok f.contents.toUTF8 ↔
      (t.read cwd f.path = .ok f.contents.toUTF8 →
        ∀ g ∈ front, g.path = f.path → g.contents = f.contents) := by
  have hmem : ∀ g ∈ stale t cwd (front ++ f :: later), g.path.Canonical := fun g hg =>
    hfiles g (mem_stale.1 hg).1
  have hcanonical : f.path.Canonical := hfiles f (by simp)
  constructor
  · intro hafter hread g hg hpath
    by_contra hne
    -- one with another text is written, and the last of these is what is read
    have hwritten : g ∈ stale t cwd (front ++ f :: later) := by
      refine mem_stale.2 ⟨by simp [hg], ?_⟩
      rw [← Bool.not_eq_true, isCurrent_iff_read, hpath, hread, Except.ok.injEq]
      exact fun heq => hne (String.toByteArray_inj.1 heq).symm
    obtain ⟨first, x, rest, hsplit, hx, hrest⟩ := exists_last_with_path ⟨g, hwritten, hpath⟩
    have hxmem : x ∈ stale t cwd (front ++ f :: later) := by simp [hsplit]
    rw [hsplit] at h hmem
    have hxread := read_of_lands hmem hroot h fun y hy => hx ▸ hrest y hy
    rw [hx, hafter, Except.ok.injEq] at hxread
    have hxcurrent : isCurrent t cwd x = true := by
      rw [isCurrent_iff_read, hx, hread, hxread]
    rw [(mem_stale.1 hxmem).2] at hxcurrent
    cases hxcurrent
  · intro hsame
    by_cases hread : t.read cwd f.path = .ok f.contents.toUTF8
    · -- all files with the path have the text that is there, so none is written
      refine read_of_not_lands hmem hgrows h hcanonical (fun g hg hpath => ?_) hread
      obtain ⟨hg, hfalse⟩ := mem_stale.1 hg
      have hcontents : g.contents = f.contents := by
        rcases List.mem_append.1 hg with hg | hg
        · exact hsame hread g hg hpath
        · rcases List.mem_cons.1 hg with rfl | hg
          · rfl
          · exact absurd hpath (hlast g hg)
      rw [isCurrent_iff_read.2 (by rw [hpath, hcontents, hread])] at hfalse
      cases hfalse
    · exact read_of_stale hroot hfiles h hread fun g hg hpath => absurd hpath (hlast g hg)

/-- After a delivery that succeeds, of files with canonical paths among which some may be
    the same:

    * a file that did not hold its text is read from its path if all later files with that
      path did hold theirs;
    * the last file with a path is read from it exactly if it did not hold its text before
      or no file in front of it has its path and another text. -/
theorem deliver_last_iff {sts : List (Path × Status)} (hroot : root.Canonical)
    (hfiles : ∀ f ∈ files, f.path.Canonical)
    (h : (deliver t cwd root files).result = .ok sts) :
    ∀ front f later, files = front ++ f :: later →
      (t.read cwd f.path ≠ .ok f.contents.toUTF8 →
        (∀ g ∈ later, g.path = f.path → t.read cwd g.path = .ok g.contents.toUTF8) →
        (deliver t cwd root files).tree.read cwd f.path = .ok f.contents.toUTF8) ∧
      ((∀ g ∈ later, g.path ≠ f.path) →
        ((deliver t cwd root files).tree.read cwd f.path = .ok f.contents.toUTF8 ↔
          (t.read cwd f.path = .ok f.contents.toUTF8 →
            ∀ g ∈ front, g.path = f.path → g.contents = f.contents))) := by
  rintro front f later rfl
  obtain ⟨v, hgrows, hdir, hlands⟩ := lands_of_ok hroot hfiles h
  exact ⟨read_of_stale hdir hfiles hlands, read_last_iff hgrows hdir hfiles hlands⟩

/-- An output directory with one file in it. -/
def oneFileTree : FileTree := .dir [("out", .dir [("p", .file "old".toUTF8)])]

/-- Two files for the path of that one, with the given texts. -/
def twoForOne (first second : String) : List TextFile :=
  [⟨⟨"/out/p"⟩, first⟩, ⟨⟨"/out/p"⟩, second⟩]

theorem twoForOne_canonical (first second : String) :
    ∀ f ∈ twoForOne first second, f.path.Canonical := by
  have hpath : Path.Canonical ⟨"/out/p"⟩ := ⟨by decide, by decide⟩
  simp [twoForOne, hpath]

/-- Of two texts that are both new the second one is read. -/
theorem deliver_last_iff_new :
    (deliver oneFileTree [] ⟨"/out"⟩ (twoForOne "1" "2")).result =
        .ok [(⟨"/out/p"⟩, .written), (⟨"/out/p"⟩, .written)] ∧
      (deliver oneFileTree [] ⟨"/out"⟩ (twoForOne "1" "2")).tree.read [] ⟨"/out/p"⟩ =
        .ok "2".toUTF8 := by
  have hroot : Path.Canonical ⟨"/out"⟩ := ⟨by decide, by decide⟩
  have hresult : (deliver oneFileTree [] ⟨"/out"⟩ (twoForOne "1" "2")).result =
      .ok [(⟨"/out/p"⟩, .written), (⟨"/out/p"⟩, .written)] := by decide +kernel
  have hnew : oneFileTree.read [] ⟨"/out/p"⟩ ≠ .ok "2".toUTF8 := by decide +kernel
  obtain ⟨-, hlast⟩ := deliver_last_iff hroot (twoForOne_canonical "1" "2") hresult
    [⟨⟨"/out/p"⟩, "1"⟩] ⟨⟨"/out/p"⟩, "2"⟩ [] rfl
  exact ⟨hresult, (hlast (by simp)).2 fun hread => absurd hread hnew⟩

/-- Of two texts of which the second one is there already the first one is read: the second
    file counts as unchanged, and is replaced. -/
theorem deliver_last_skipped :
    Path.Canonical ⟨"/out"⟩ ∧ (∀ f ∈ twoForOne "new" "old", f.path.Canonical) ∧
      (deliver oneFileTree [] ⟨"/out"⟩ (twoForOne "new" "old")).result =
        .ok [(⟨"/out/p"⟩, .written), (⟨"/out/p"⟩, .unchanged)] ∧
      (deliver oneFileTree [] ⟨"/out"⟩ (twoForOne "new" "old")).tree.read [] ⟨"/out/p"⟩ =
        .ok "new".toUTF8 ∧
      (deliver oneFileTree [] ⟨"/out"⟩ (twoForOne "new" "old")).tree.read [] ⟨"/out/p"⟩ ≠
        .ok "old".toUTF8 :=
  ⟨⟨by decide, by decide⟩, twoForOne_canonical _ _, by decide +kernel,
    by decide +kernel, by decide +kernel⟩

end GrammarBindings.Delivery
