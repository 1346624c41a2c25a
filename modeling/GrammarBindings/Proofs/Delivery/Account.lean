/-
  GrammarBindings.Proofs.Delivery.Account

  What a delivery of files with canonical and different paths leaves, whether or not it
  succeeds.  Its tree is the one before it with directories added (`Grows`) and then
  files put in their places (`Replaces`); `Account` says which, and how that goes
  together with the result:

    * the files that were put in their places begin the list of those that did not
      hold their texts, and are all of them if the delivery succeeds;
    * if some but not all were, the next one was refused.

  It is read off the course of the delivery (`Course.account`).
-/
import GrammarBindings.Proofs.Delivery.Course

namespace GrammarBindings

namespace Delivery

open FileTree

variable {cwd home : Location} {s : Staging} {t u : FileTree} {files : List TextFile}

/-! ## Files that hold their texts -/

theorem isCurrent_iff {f : TextFile} (hf : f.path.Canonical) :
    isCurrent t cwd f = true ↔
      f.path.place ≠ [] ∧ f.path.place.Usable ∧
        t.entryAt? f.path.place = some (.file f.contents.toUTF8) := by
  rw [isCurrent_iff_read]
  conv_lhs => rw [hf.eq_toPath]
  exact read_toPath f.path.proper_place

/-- Whether a file holds its text is seen at its place. -/
theorem isCurrent_congr {f : TextFile} (hf : f.path.Canonical)
    (h : ∀ bytes, u.entryAt? f.path.place = some (.file bytes) ↔
      t.entryAt? f.path.place = some (.file bytes)) :
    isCurrent u cwd f = isCurrent t cwd f := by
  rw [Bool.eq_iff_iff, isCurrent_iff hf, isCurrent_iff hf, h]

theorem isCurrent_of_grows {made : Location → Prop} {f : TextFile} (hf : f.path.Canonical)
    (h : Grows made t u) : isCurrent u cwd f = isCurrent t cwd f :=
  isCurrent_congr hf fun _ => h.entryAt?_file_iff

theorem nodup_places (hfiles : ∀ f ∈ files, f.path.Canonical)
    (hnodup : (files.map TextFile.path).Nodup) : (files.map fun f => f.path.place).Nodup := by
  rw [List.Nodup, List.pairwise_map] at hnodup ⊢
  exact hnodup.imp_of_mem fun hf hg hne heq =>
    hne ((hfiles _ hf).eq_of_place_eq (hfiles _ hg) heq)

/-! ## Names and directories of canonical paths -/

/-- A name in a file's place is a piece of its path. -/
theorem mem_pieces_of_mem_place (hfiles : ∀ f ∈ files, f.path.Canonical) {f : TextFile}
    (hf : f ∈ files) {n : String} (hn : n ∈ f.path.place) :
    n ∈ files.flatMap fun f => f.path.pieces := by
  rw [List.mem_flatMap]
  refine ⟨f, hf, ?_⟩
  rw [(hfiles f hf).eq_toPath,
    Location.pieces_toPath f.path.proper_place (List.ne_nil_of_mem hn)]
  exact List.mem_cons_of_mem _ hn

/-- The directory of a canonical path is that of its place. -/
theorem exists_place_of_parent {p dir : Path} (hp : p.Canonical) (h : p.parent? = some dir) :
    ∃ (l : Location) (n : String), p.place = l ++ [n] ∧ dir = l.toPath ∧ l.Proper := by
  rw [hp.eq_toPath] at h
  have hproper := p.proper_place
  rcases List.eq_nil_or_concat' p.place with hplace | ⟨l, n, hplace⟩
  · rw [hplace, Location.parent?_toPath_nil] at h
    cases h
  · rw [hplace] at h hproper
    rw [Location.parent?_toPath_append (proper_of_proper_append hproper)
      (isName_of_proper_append hproper)] at h
    exact ⟨l, n, hplace, (Option.some.inj h).symm, proper_of_proper_append hproper⟩

/-! ## The account of a delivery -/

/-- A staged file was refused at its place, in a tree that is `u` but for the staging
    directory. -/
def Refused (cwd : Location) (u : FileTree) (f : TextFile) (cause : FileError) : Prop :=
  ∃ (s : Staging) (i : Nat) (r : FileTree), u = FileTree.erase s.place r ∧
    r.fileAt? (s.filePlace i) = some f.contents.toUTF8 ∧
    r.moveFile cwd (s.filePlace i) f.path = .error cause

/-- What a delivery `d` did to the tree `t`.  From the files that did not hold their
    texts it put `moved` in their places and left `rest`, after adding directories
    that give the tree `v`. -/
structure Account (made : Location → Prop) (t : FileTree) (cwd home : Location)
    (files moved rest : List TextFile) (v : FileTree) (d : Delivery) : Prop where
  split : stale t cwd files = moved ++ rest
  grows : Grows made t v
  replaces : Replaces (fun _ => True) moved v d.tree
  /-- Success means that nothing is left to do. -/
  succeeded : ∀ sts, d.result = .ok sts → rest = [] ∧ sts = statuses (isCurrent t cwd) files
  /-- Failure after some files were moved means that the next one was refused. -/
  stopped : ∀ e, d.result = .error e → moved ≠ [] →
    ∃ f others cause, rest = f :: others ∧ e = ⟨f.path, .operation cause⟩ ∧
      Refused cwd d.tree f cause ∧
      (f.path.place <+: home ∨ ¬ f.path.place.Usable ∨ v.entryAt? f.path.place = some .dir)

section Account

variable {made : Location → Prop} {moved rest : List TextFile} {v : FileTree} {d : Delivery}

theorem Account.mem_moved (h : Account made t cwd home files moved rest v d) {f : TextFile}
    (hf : f ∈ moved) : f ∈ files ∧ isCurrent t cwd f = false :=
  mem_stale.1 (h.split ▸ List.mem_append_left rest hf)

theorem Account.mem_rest (h : Account made t cwd home files moved rest v d) {f : TextFile}
    (hf : f ∈ rest) : f ∈ files ∧ isCurrent t cwd f = false :=
  mem_stale.1 (h.split ▸ List.mem_append_right moved hf)

/-- A file that was not moved is as it was. -/
theorem Account.fileAt?_eq (h : Account made t cwd home files moved rest v d) {l : Location}
    (hl : ∀ f ∈ moved, f.path.place ≠ l) : d.tree.fileAt? l = t.fileAt? l := by
  rw [← h.grows.fileAt?_eq l]
  refine fileAt?_congr fun contents => ?_
  rw [h.replaces.others l trivial hl]

end Account

/-- A delivery that fails before any file is moved. -/
theorem Account.of_early {made : Location → Prop} {d : Delivery} {e : Failure}
    (hgrows : Grows made t d.tree) (hresult : d.result = .error e) :
    Account made t cwd home files [] (stale t cwd files) d.tree d where
  split := rfl
  grows := hgrows
  replaces := Replaces.refl _ _
  succeeded := by
    intro sts h
    rw [hresult] at h
    cases h
  stopped := fun _ _ h => absurd rfl h

/-- The directories that a delivery may add to get at its files: those above files
    that do not hold their texts. -/
def OnTheWay (t : FileTree) (cwd : Location) (files : List TextFile) (l : Location) : Prop :=
  ∃ f ∈ stale t cwd files, l.Above f.path.place

theorem onTheWay_of_paved (hfiles : ∀ f ∈ files, f.path.Canonical) {l : Location}
    (h : Paved t cwd files l) : OnTheWay t cwd files l := by
  obtain ⟨f, hf, dir, hdir, hpasses⟩ := h
  obtain ⟨k, n, hplace, rfl, hk⟩ :=
    exists_place_of_parent (hfiles f (mem_stale.1 hf).1) hdir
  refine ⟨f, hf, ?_⟩
  rw [hplace]
  exact Location.above_append.2 (prefix_of_passes hk hpasses)

/-! ## From the course to the account -/

/-- Only what lies above the output directory or is the directory itself lies on
    the way to a staged file and not in the staging directory. -/
theorem Fresh.prefix_home {f : TextFile} {i : Nat} (h : Fresh s t cwd home files)
    (hf : f ∈ files) (hpre : cwd.along f.path <+: s.filePlace i) : cwd.along f.path <+: home := by
  obtain ⟨n, hn, -⟩ := h.inside
  have hapart := h.apart f hf
  -- the way to a staged file is the home, the staging directory and the file itself
  rcases List.prefix_concat_iff.1 hpre with heq | hstaging
  · exact absurd (heq ▸ List.prefix_append _ _) hapart
  · rw [hn] at hstaging
    rcases List.prefix_concat_iff.1 hstaging with heq | hhome
    · exact absurd (hn.trans heq.symm ▸ List.prefix_rfl) hapart
    · exact hhome

/-- A staged file is refused because its place does not lie below the output directory,
    because its path is beyond the limits, or because a directory has its place. -/
theorem Fresh.blocked (hs : Fresh s t cwd home files) {f : TextFile} {i : Nat} {r : FileTree}
    {cause : FileError} (hf : f ∈ files) (hcanonical : f.path.Canonical)
    (hdir : ∀ dir, f.path.parent? = some dir → dir.text = "" ∨ r.isDir cwd dir = true)
    (hstaged : r.entryAt? (s.filePlace i) = some (.file f.contents.toUTF8))
    (hrefused : r.moveFile cwd (s.filePlace i) f.path = .error cause) :
    f.path.place <+: home ∨ ¬ f.path.place.Usable ∨ r.entryAt? f.path.place = some .dir := by
  by_cases hhome : f.path.place <+: home
  · exact Or.inl hhome
  right
  have habove : ¬ f.path.place <+: s.filePlace i := fun h =>
    hhome (along_of_isAbsolute hcanonical.absolute cwd ▸
      hs.prefix_home hf (along_of_isAbsolute hcanonical.absolute cwd ▸ h))
  have hproper := f.path.proper_place
  rcases List.eq_nil_or_concat' f.path.place with hplace | ⟨l, n, hplace⟩
  · exact absurd (hplace ▸ List.nil_prefix) hhome
  rw [hcanonical.eq_toPath, hplace] at hrefused hdir
  rw [hplace] at hproper habove ⊢
  have hl : Location.Proper l := proper_of_proper_append hproper
  have hparent := Location.parent?_toPath_append hl (isName_of_proper_append hproper)
  have hisDir := (hdir _ hparent).resolve_left (Location.toPath_text_ne_empty l)
  exact moveFile_error hproper hstaged ((isDir_toPath hl).1 hisDir).2 habove hrefused

/-- The course of a delivery of canonical and different files is an account of it. -/
theorem Course.account (hs : Fresh s t cwd home files) (hfiles : ∀ f ∈ files, f.path.Canonical)
    (hnodup : (files.map TextFile.path).Nodup) {moved : List TextFile} {v : FileTree}
    {d : Delivery} {failure : Option Failure}
    (h : Course t cwd s files moved v d.tree failure)
    (hresult : d.result = resultOf (isCurrent t cwd) files failure) :
    ∃ rest, Account (OnTheWay t cwd files) t cwd home files moved rest v d := by
  obtain ⟨rest, hsplit⟩ := h.moved_prefix
  have hmoved : ∀ f ∈ moved, f ∈ files := fun f => h.mem_files
  have hplaces : (moved.map fun f => f.path.place).Nodup :=
    (nodup_places hfiles hnodup).sublist
      ((h.moved_prefix.sublist.trans List.filter_sublist).map _)
  have hreplaces : Replaces (fun _ => True) moved v d.tree :=
    h.lands.replaces (fun f hf => hfiles f (hmoved f hf)) hplaces fun _ _ => trivial
  refine ⟨rest, hsplit.symm, h.grows.mono fun _ => onTheWay_of_paved hfiles, hreplaces, ?_, ?_⟩
  · -- success
    intro sts hsts
    cases failure with
    | none =>
      rw [h.completed rfl, List.append_right_eq_self] at hsplit
      exact ⟨hsplit, (Except.ok.inj (hresult.symm.trans hsts)).symm⟩
    | some e =>
      rw [hresult] at hsts
      cases hsts
  · -- failure, which can only be that of a move if something was moved
    intro e he hne
    cases failure with
    | none =>
      rw [hresult] at he
      cases he
    | some g =>
      obtain rfl : g = e := Except.error.inj (hresult.symm.trans he)
      cases h.halted g rfl with
      | staging | making => exact absurd rfl hne
      | @moving f i _ others r kind hstale hdirs hstaged hrefused hafter =>
        have hf : f ∈ stale t cwd files := by simp [hstale]
        have hmem : f ∈ files := (mem_stale.1 hf).1
        refine ⟨f, others, kind, List.append_cancel_left (hsplit.trans hstale), rfl,
          ⟨s, i, r, hafter, fileAt?_eq_some_iff.2 hstaged, hrefused⟩, ?_⟩
        -- where the file is to go the trees before and after the moves agree on directories
        rw [← hreplaces.entryAt?_dir_iff trivial, hafter, hs.entryAt?_erase, if_neg]
        · exact hs.blocked hmem (hfiles f hmem) (hdirs f hf) hstaged hrefused
        · exact along_of_isAbsolute (hfiles f hmem).absolute cwd ▸ hs.apart f hmem

/-- The account of a delivery through a fresh staging directory. -/
theorem account_deliverThrough (hs : Fresh s t cwd home files)
    (hfiles : ∀ f ∈ files, f.path.Canonical) (hnodup : (files.map TextFile.path).Nodup) :
    ∃ moved rest v, Account (OnTheWay t cwd files) t cwd home files moved rest v
      (deliverThrough t cwd s files) := by
  obtain ⟨moved, v, failure, hcourse, hresult⟩ := course_deliverThrough hs
  obtain ⟨rest, haccount⟩ := hcourse.account hs hfiles hnodup hresult
  exact ⟨moved, rest, v, haccount⟩

/-! ## In an output directory -/

/-- An account still holds if directories were added before. -/
theorem Account.of_grows {made : Location → Prop} {moved rest : List TextFile} {v : FileTree}
    {d : Delivery} (hfiles : ∀ f ∈ files, f.path.Canonical) (hgrows : Grows made t u)
    (h : Account (OnTheWay u cwd files) u cwd home files moved rest v d) :
    Account (fun l => made l ∨ OnTheWay t cwd files l) t cwd home files moved rest v d := by
  have hcurrent : ∀ f ∈ files, isCurrent u cwd f = isCurrent t cwd f := fun f hf =>
    isCurrent_of_grows (hfiles f hf) hgrows
  have hway : OnTheWay u cwd files = OnTheWay t cwd files := by
    funext l
    rw [OnTheWay, OnTheWay, stale_congr hcurrent]
  refine ⟨by rw [← stale_congr hcurrent, h.split], ?_, h.replaces, fun sts hsts => ?_, h.stopped⟩
  · refine (hgrows.mono fun _ hl => Or.inl hl).trans (h.grows.mono fun _ hl => Or.inr ?_)
    exact hway ▸ hl
  · obtain ⟨hrest, hstatuses⟩ := h.succeeded sts hsts
    exact ⟨hrest, hstatuses.trans (statuses_congr hcurrent)⟩

/-- The output directory is found where its path says. -/
theorem home_of_dir {root : Path} (hroot : root.Canonical) (husable : root.place.Usable)
    (hdir : t.entryAt? root.place = some .dir) :
    Delivery.home t cwd root = .ok root.place := by
  have htext : root.text ≠ "" := hroot.eq_toPath ▸ Location.toPath_text_ne_empty root.place
  have htop : t.entryAt? [] = some .dir := entryAt?_dir_above List.nil_prefix hdir
  rw [Delivery.home, if_neg htext]
  conv_lhs => rw [hroot.eq_toPath]
  exact resolve_toPath root.proper_place (by simp [hdir]) htop husable

/-- An output directory with a canonical path has the place that its path says. -/
theorem Enters.eq_place {root : Path} {place : Location} (hroot : root.Canonical)
    (h : Enters t cwd root files u place) : place = root.place ∧ root.place.Usable := by
  have htext : root.text ≠ "" := hroot.eq_toPath ▸ Location.toPath_text_ne_empty root.place
  have hfound := h.found
  rw [Delivery.home, if_neg htext, hroot.eq_toPath] at hfound
  exact (resolve_toPath_inv root.proper_place hfound).2

/-- A delivery into a directory with a canonical path gets to its staging directory or
    fails, and adds only directories on the way by then. -/
theorem deliver_cases (t : FileTree) (cwd : Location) {root : Path} (files : List TextFile)
    (hroot : root.Canonical) :
    (∃ u, Enters t cwd root files u root.place ∧ Grows (· <+: root.place) t u) ∨
      ∃ e, Grows (· <+: root.place) t (deliver t cwd root files).tree ∧
        (deliver t cwd root files).result = .error e := by
  have hpasses (l : Location) (h : root.Passes cwd l) : l <+: root.place := by
    rw [hroot.eq_toPath] at h
    exact prefix_of_passes root.proper_place h
  rcases enters_or_barred t cwd root files with ⟨u, place, h⟩ | ⟨e, hresult, h⟩
  · obtain ⟨rfl, -⟩ := h.eq_place hroot
    exact Or.inl ⟨u, h, h.grows.mono hpasses⟩
  · exact Or.inr ⟨e, h.grows.mono hpasses, hresult⟩

/-- The account of a delivery.  The output directory is there if it succeeds. -/
theorem account_deliver (t : FileTree) (cwd : Location) {root : Path} (hroot : root.Canonical)
    (hfiles : ∀ f ∈ files, f.path.Canonical) (hnodup : (files.map TextFile.path).Nodup) :
    ∃ moved rest v,
      Account (fun l => l <+: root.place ∨ OnTheWay t cwd files l) t cwd root.place files
        moved rest v (deliver t cwd root files) ∧
      ∀ sts, (deliver t cwd root files).result = .ok sts → v.entryAt? root.place = some .dir := by
  rcases deliver_cases t cwd files hroot with ⟨u, henters, hgrows⟩ | ⟨e, hgrows, hresult⟩
  · rw [henters.deliver_eq]
    obtain ⟨moved, rest, v, h⟩ := account_deliverThrough henters.fresh hfiles hnodup
    exact ⟨moved, rest, v, h.of_grows hfiles hgrows,
      fun _ _ => h.grows.entryAt?_of_some henters.dir⟩
  · refine ⟨[], _, _, Account.of_early (hgrows.mono fun _ hl => Or.inl hl) hresult, ?_⟩
    intro sts hsts
    rw [hresult] at hsts
    cases hsts

end Delivery

end GrammarBindings
