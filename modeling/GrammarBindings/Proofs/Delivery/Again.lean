/-
  GrammarBindings.Proofs.Delivery.Again

  Delivering a second time.  After a delivery that succeeds every file holds its
  text, so the second one keeps them all; it makes a staging directory of the same
  name, since the names to avoid are the same, and takes it away again.  What is left
  is the very tree that was there, with its entries in the same order:
  `deliver_again`.
-/
import GrammarBindings.Proofs.Delivery.Success

namespace GrammarBindings

namespace Delivery

open FileTree

variable {t u v : FileTree} {cwd home : Location} {root : Path} {s : Staging}
  {files moved : List TextFile}

/-! ## The name of the staging directory -/

theorem longest_le_iff {names : List String} {k : Nat} :
    longest names ≤ k ↔ ∀ name ∈ names, name.length ≤ k := by
  induction names with
  | nil => simp [longest]
  | cons first rest ih =>
    rw [longest, List.foldr_cons, ← longest, Nat.max_le, ih, List.forall_mem_cons]

/-- Only which names are given counts, not their order or number. -/
theorem freshName_congr {names others : List String} (h : ∀ n, n ∈ names ↔ n ∈ others) :
    freshName names = freshName others := by
  have hlongest : longest names = longest others := by
    apply Nat.le_antisymm <;> rw [longest_le_iff] <;> intro n hn
    · exact length_le_longest ((h n).1 hn)
    · exact length_le_longest ((h n).2 hn)
  have hfrom (tries k : Nat) : freshNameFrom names tries k = freshNameFrom others tries k := by
    induction tries generalizing k with
    | zero => rfl
    | succ tries ih => simp only [freshNameFrom, h, ih]
  rw [freshName, freshName, hlongest, hfrom]

theorem stagingIn_congr
    (h : ∀ n, n ∈ namesIn u home ∨ n ∈ files.flatMap (fun f => f.path.pieces) ↔
      n ∈ namesIn t home ∨ n ∈ files.flatMap (fun f => f.path.pieces)) :
    stagingIn u cwd root home files = stagingIn t cwd root home files := by
  have hname : freshName (namesIn u home ++ files.flatMap fun f => f.path.pieces) =
      freshName (namesIn t home ++ files.flatMap fun f => f.path.pieces) :=
    freshName_congr fun n => by rw [List.mem_append, List.mem_append, h]
  simp only [stagingIn, hname]

/-- A delivery brings no names into its output directory but those of its files. -/
theorem mem_namesIn_after {made : Location → Prop} {d : Delivery}
    (hfiles : ∀ f ∈ files, f.path.Canonical)
    (hmade : ∀ l, made l → ∃ f ∈ files, l.Above f.path.place)
    (h : Account made t cwd home files moved [] v d) (n : String) :
    n ∈ namesIn d.tree home ∨ n ∈ files.flatMap (fun f => f.path.pieces) ↔
      n ∈ namesIn t home ∨ n ∈ files.flatMap (fun f => f.path.pieces) := by
  -- a name among the pieces is avoided either way
  by_cases hpieces : n ∈ files.flatMap fun f => f.path.pieces
  · simp only [hpieces, or_true]
  simp only [hpieces, or_false, mem_namesIn]
  have hnew {f : TextFile} (hf : f ∈ files) : ¬ home ++ [n] <+: f.path.place := fun hpre =>
    hpieces (mem_pieces_of_mem_place hfiles hf
      (hpre.subset (List.mem_append_right home List.mem_cons_self)))
  have hmoved : ∀ f ∈ moved, f.path.place ≠ home ++ [n] := by
    intro f hf heq
    exact hnew (h.mem_moved hf).1 (heq ▸ List.prefix_rfl)
  have hgrown : v.entryAt? (home ++ [n]) = t.entryAt? (home ++ [n]) :=
    h.grows.entryAt?_of_not_made fun hl =>
      have ⟨_, hf, habove⟩ := hmade _ hl
      hnew hf habove.1
  rw [h.replaces.others _ trivial hmoved, hgrown]

/-! ## Nothing to do -/

/-- Keeping files is no work at all. -/
theorem performAll_keep (cwd : Location) (s : Staging) (t : FileTree)
    {current : TextFile → Bool} {es : List (TextFile × Nat)}
    (h : ∀ e ∈ es, current e.1 = true) :
    (performAll cwd s t (stageSteps current es)).tree = t ∧
      (performAll cwd s t (stageSteps current es)).failure = none := by
  induction es with
  | nil => exact ⟨rfl, rfl⟩
  | cons e es ih =>
    rw [stageSteps, List.map_cons, ← stageSteps, if_pos (h e List.mem_cons_self)]
    obtain ⟨htree, hfailure⟩ := performAll_keep_cons cwd s t e.1.path (stageSteps current es)
    rw [htree, hfailure]
    exact ih fun d hd => h d (List.mem_cons_of_mem _ hd)

/-- If all files hold their texts, nothing is left of a delivery but its statuses. -/
theorem deliverThrough_of_current (hs : Fresh s t cwd home files)
    (hall : ∀ f ∈ files, isCurrent t cwd f = true) :
    (deliverThrough t cwd s files).tree = t ∧
      (deliverThrough t cwd s files).result =
        .ok (files.map fun f => (f.path, .unchanged)) := by
  have hstale : staleFiles (isCurrent t cwd) files = [] := by
    rw [← List.map_eq_nil_iff (f := Prod.fst), map_fst_staleFiles, stale, List.filter_eq_nil_iff]
    intro f hf
    rw [Bool.not_eq_true, Bool.not_eq_false']
    exact hall f hf
  have hplan : plan (isCurrent t cwd) files = stageSteps (isCurrent t cwd) files.zipIdx := by
    rw [plan_eq, hstale]
    exact List.append_nil _
  obtain ⟨hkept, hfailure⟩ := performAll_keep cwd s (FileTree.insert (.dir []) s.place t)
    fun e (he : e ∈ files.zipIdx) => hall e.1 (List.fst_mem_of_mem_zipIdx he)
  obtain ⟨htree, hresult⟩ := hs.deliverThrough_eq
  rw [hplan] at htree hresult
  rw [htree, hresult, hkept, hfailure]
  constructor
  · -- with no work done, erasing the staging directory takes back what making it did
    obtain ⟨n, hn, -⟩ := hs.inside
    rw [hn]
    exact erase_insert _ hs.dir (hn ▸ hs.absent)
  · rw [resultOf, statuses]
    congr 1
    exact List.map_congr_left fun f hf => by rw [if_pos (hall f hf)]

/-! ## The second delivery -/

/-- After a delivery that succeeded, the same delivery succeeds again; it changes no
    file and leaves the whole tree as it is. -/
theorem deliver_again (hroot : root.Canonical) (hfiles : ∀ f ∈ files, f.path.Canonical)
    (hnodup : (files.map TextFile.path).Nodup) {sts : List (Path × Status)}
    (h : (deliver t cwd root files).result = .ok sts) :
    (deliver (deliver t cwd root files).tree cwd root files).tree =
        (deliver t cwd root files).tree ∧
      (deliver (deliver t cwd root files).tree cwd root files).result =
        .ok (files.map fun f => (f.path, .unchanged)) := by
  rcases deliver_cases t cwd files hroot with ⟨u, henters, -⟩ | ⟨e, -, hresult⟩
  · rw [henters.deliver_eq] at h ⊢
    obtain ⟨moved, rest, v, haccount⟩ := account_deliverThrough henters.fresh hfiles hnodup
    obtain ⟨rfl, -⟩ := haccount.succeeded sts h
    generalize deliverThrough u cwd (stagingIn u cwd root root.place files) files = d at *
    have hv : v.entryAt? root.place = some .dir := haccount.grows.entryAt?_of_some henters.dir
    have hdir : d.tree.entryAt? root.place = some .dir := haccount.replaces.entryAt?_dir trivial hv
    -- both deliveries stage in a directory of the same name, so its path fits again
    have hstaging : stagingIn d.tree cwd root root.place files =
        stagingIn u cwd root root.place files := by
      refine stagingIn_congr fun n => mem_namesIn_after hfiles (fun l hl => ?_) haccount n
      exact hl.imp fun f hf => ⟨(mem_stale.1 hf.1).1, hf.2⟩
    obtain ⟨-, husable⟩ := henters.eq_place hroot
    have hmake : d.tree.makeDirs cwd root = (d.tree, none) := by
      rw [hroot.eq_toPath]
      exact makeDirs_of_dir root.proper_place husable hdir
    have hagain : Enters d.tree cwd root files d.tree root.place :=
      ⟨henters.inside, hmake, home_of_dir hroot husable hdir, by rw [hstaging]; exact henters.fits⟩
    have htop : v.entryAt? [] = some .dir := entryAt?_dir_above List.nil_prefix hv
    rw [hagain.deliver_eq]
    exact deliverThrough_of_current hagain.fresh fun f hf =>
      isCurrent_after hfiles hnodup htop haccount hf
  · rw [hresult] at h
    cases h

end Delivery

end GrammarBindings
