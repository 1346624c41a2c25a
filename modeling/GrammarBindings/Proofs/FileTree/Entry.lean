/-
  GrammarBindings.Proofs.FileTree.Entry

  A tree seen place by place.  `entryAt?` says what is at a place — a directory, a
  file with its bytes, or nothing — and leaves out what is below it; two trees
  that agree on it hold the same directories and files.

    * `entryAt?_insert` — a leaf put into a directory changes its own place only.
    * `entryAt?_erase` — erasing empties a place and all below it.
    * `erase_insert` — erasing what was put where nothing was gives the tree back,
      with its entries in the same order.
    * `Grows` — one tree is another with directories added.
-/
import GrammarBindings.FileTree
import Mathlib.Data.List.Basic
import Mathlib.Tactic.SplitIfs

namespace GrammarBindings

/-- What is at a place, without what is below it. -/
inductive Entry
  | file (contents : ByteArray)
  | dir

namespace FileTree

/-- A tree by its root alone. -/
def entry : FileTree → Entry
  | file contents => .file contents
  | dir _ => .dir

/-- What a tree has at a place. -/
def entryAt? (t : FileTree) (l : Location) : Option Entry := (t.lookup l).map entry

/-! ## Looking down a tree -/

@[simp] theorem entryAt?_nil (t : FileTree) : t.entryAt? [] = some t.entry := by
  cases t <;> rfl

@[simp] theorem entryAt?_file_cons (contents : ByteArray) (n : String) (ns : Location) :
    (file contents).entryAt? (n :: ns) = none := rfl

@[simp] theorem entryAt?_dir_cons (es : List (String × FileTree)) (n : String) (ns : Location) :
    (dir es).entryAt? (n :: ns) = (child? n es).bind fun t => t.entryAt? ns := by
  rw [entryAt?, lookup]
  cases child? n es <;> rfl

theorem lookup_append (t : FileTree) (l m : Location) :
    t.lookup (l ++ m) = (t.lookup l).bind fun u => u.lookup m := by
  induction l generalizing t with
  | nil => cases t <;> rfl
  | cons n l ih =>
    cases t with
    | file contents => rfl
    | dir es =>
      rw [List.cons_append, lookup, lookup]
      cases child? n es with
      | none => rfl
      | some u => exact ih u

theorem lookup_eq_none_iff {t : FileTree} {l : Location} :
    t.lookup l = none ↔ t.entryAt? l = none := by
  rw [entryAt?, Option.map_eq_none_iff]

theorem hasDir_iff {t : FileTree} {l : Location} :
    t.hasDir l = true ↔ t.entryAt? l = some .dir := by
  rw [hasDir, entryAt?]
  rcases t.lookup l with - | - | - <;> simp [entry]

theorem fileAt?_eq_some_iff {t : FileTree} {l : Location} {contents : ByteArray} :
    t.fileAt? l = some contents ↔ t.entryAt? l = some (.file contents) := by
  rw [fileAt?, entryAt?]
  rcases t.lookup l with - | - | - <;> simp [entry]

/-- Where the same files are entries, the same files are found. -/
theorem fileAt?_congr {t u : FileTree} {l : Location} (h : ∀ contents,
    u.entryAt? l = some (.file contents) ↔ t.entryAt? l = some (.file contents)) :
    u.fileAt? l = t.fileAt? l := by
  apply Option.ext
  intro contents
  rw [fileAt?_eq_some_iff, fileAt?_eq_some_iff, h]

theorem exists_dir_of_entryAt? {t : FileTree} {l : Location} (h : t.entryAt? l = some .dir) :
    ∃ es, t.lookup l = some (dir es) := by
  obtain ⟨node, hlookup, hentry⟩ := Option.map_eq_some_iff.1 h
  cases node with
  | file contents => cases hentry
  | dir es => exact ⟨es, hlookup⟩

/-- Above everything that is there lie directories. -/
theorem entryAt?_of_append {t : FileTree} {l m : Location} (hm : m ≠ [])
    (h : t.entryAt? (l ++ m) ≠ none) : t.entryAt? l = some .dir := by
  obtain ⟨n, ns, rfl⟩ := List.exists_cons_of_ne_nil hm
  rw [entryAt?, lookup_append] at h
  rw [entryAt?]
  cases hlookup : t.lookup l with
  | none => simp [hlookup] at h
  | some u =>
    cases u with
    | file contents => simp [hlookup, lookup] at h
    | dir es => rfl

theorem entryAt?_above {t : FileTree} {l m : Location} (hlm : l <+: m) (hne : l ≠ m)
    (h : t.entryAt? m ≠ none) : t.entryAt? l = some .dir := by
  obtain ⟨rest, rfl⟩ := hlm
  exact entryAt?_of_append (fun hrest => hne (by rw [hrest, List.append_nil])) h

theorem entryAt?_dir_above {t : FileTree} {l m : Location} (hlm : l <+: m)
    (h : t.entryAt? m = some .dir) : t.entryAt? l = some .dir := by
  by_cases hne : l = m
  · rw [hne, h]
  · exact entryAt?_above hlm hne (by simp [h])

/-- Below a place without a directory there is nothing. -/
theorem entryAt?_eq_none_below {t : FileTree} {l m : Location} (hlm : l <+: m) (hne : l ≠ m)
    (h : t.entryAt? l ≠ some .dir) : t.entryAt? m = none := by
  by_contra hm
  exact h (entryAt?_above hlm hne hm)

/-! ## Putting a leaf into a directory -/

/-- A node with nothing below it. -/
def IsLeaf (node : FileTree) : Prop := ∀ n ns, node.entryAt? (n :: ns) = none

theorem isLeaf_file (contents : ByteArray) : (file contents).IsLeaf := fun _ _ => rfl

theorem isLeaf_emptyDir : (dir []).IsLeaf := fun _ _ => rfl

theorem entryAt?_putChild_other {es : List (String × FileTree)} {name other : String}
    (node : FileTree) (h : other ≠ name) (ns : Location) :
    (dir (putChild name node es)).entryAt? (other :: ns) = (dir es).entryAt? (other :: ns) := by
  rw [entryAt?_dir_cons, entryAt?_dir_cons, child?_putChild, if_neg h]

theorem entryAt?_putChild_self {es : List (String × FileTree)} (name : String)
    (node : FileTree) (ns : Location) :
    (dir (putChild name node es)).entryAt? (name :: ns) = node.entryAt? ns := by
  rw [entryAt?_dir_cons, child?_putChild, if_pos rfl, Option.bind_some]

/-- A leaf that is put into a directory, not in place of another directory,
    changes nothing but its own place. -/
theorem entryAt?_insert {t node : FileTree} {p : Location} {n : String}
    (hparent : t.entryAt? p = some .dir) (hplace : t.entryAt? (p ++ [n]) ≠ some .dir)
    (hleaf : node.IsLeaf) (m : Location) :
    (insert node (p ++ [n]) t).entryAt? m =
      if m = p ++ [n] then some node.entry else t.entryAt? m := by
  -- down the way to the parent, which is there: no directory has to be made up
  induction p generalizing t m with
  | nil =>
    cases t with
    | file contents => cases hparent
    | dir es =>
      rw [List.nil_append, insert, insert]
      cases m with
      | nil => simp [entry]
      | cons a ms =>
        by_cases ha : a = n
        · subst ha
          rw [entryAt?_putChild_self]
          cases ms with
          | nil => simp
          | cons b ms =>
            -- nothing was below `n` before, and nothing is below a leaf
            have hnone : (dir es).entryAt? (a :: b :: ms) = none :=
              entryAt?_eq_none_below (l := [a]) ⟨b :: ms, rfl⟩ (by simp) hplace
            rw [hleaf, if_neg (by simp), hnone]
        · rw [entryAt?_putChild_other _ ha, if_neg (by simp [ha])]
  | cons a p ih =>
    cases t with
    | file contents => cases hparent
    | dir es =>
      rw [entryAt?_dir_cons] at hparent
      obtain ⟨u, hchild, hbelow⟩ := Option.bind_eq_some_iff.1 hparent
      have hfree : u.entryAt? (p ++ [n]) ≠ some .dir := by
        simpa [hchild] using hplace
      rw [List.cons_append, insert, hchild, Option.getD_some]
      cases m with
      | nil => simp [entry]
      | cons b ms =>
        by_cases hb : b = a
        · subst hb
          rw [entryAt?_putChild_self, ih hbelow hfree, entryAt?_dir_cons, hchild, Option.bind_some]
          simp
        · rw [entryAt?_putChild_other _ hb, if_neg (by simp [hb])]

/-! ## Erasing -/

/-- Erasing empties a place and everything below it. -/
theorem entryAt?_erase (t : FileTree) (p : Location) (n : String) (m : Location) :
    (erase (p ++ [n]) t).entryAt? m = if p ++ [n] <+: m then none else t.entryAt? m := by
  -- `erase` tells its last step by the shape of the place, so `p ++ [n]` is opened at each
  induction p generalizing t m with
  | nil =>
    cases t with
    | file contents =>
      cases m with
      | nil => simp [erase]
      | cons a ms => simp [erase]
    | dir es =>
      rw [List.nil_append, erase]
      cases m with
      | nil => simp [entry]
      | cons a ms =>
        rw [entryAt?_dir_cons, child?_dropChild, entryAt?_dir_cons]
        by_cases ha : a = n
        · simp [ha]
        · have hn : ¬ n = a := fun h => ha h.symm
          simp [ha, hn]
  | cons a p ih =>
    obtain ⟨b, rest, hrest⟩ := List.exists_cons_of_ne_nil (show p ++ [n] ≠ [] by simp)
    cases t with
    | file contents =>
      cases m with
      | nil => simp [erase]
      | cons c ms => simp [erase]
    | dir es =>
      rw [List.cons_append, hrest, erase, ← hrest]
      cases hchild : child? a es with
      | none =>
        -- there is no way to the place, so there is nothing to erase
        cases m with
        | nil => simp
        | cons c ms =>
          by_cases hc : c = a
          · simp [hc, hchild]
          · have ha : ¬ a = c := fun h => hc h.symm
            simp [ha]
      | some u =>
        cases m with
        | nil => simp [entry]
        | cons c ms =>
          by_cases hc : c = a
          · subst hc
            dsimp only
            rw [entryAt?_putChild_self, ih, entryAt?_dir_cons, hchild, Option.bind_some]
            simp only [List.cons_prefix_cons, true_and]
          · have ha : ¬ a = c := fun h => hc h.symm
            dsimp only
            rw [entryAt?_putChild_other _ hc, if_neg (by simp [List.cons_prefix_cons, ha])]

/-! ## Erasing what was put in -/

theorem dropChild_putChild {es : List (String × FileTree)} {name : String} (node : FileTree)
    (h : child? name es = none) : dropChild name (putChild name node es) = es := by
  induction es with
  | nil => simp [putChild, dropChild]
  | cons e es ih =>
    rw [child?] at h
    split_ifs at h with hname
    rw [putChild, if_neg hname, dropChild, if_neg hname, ih h]

theorem putChild_putChild {es : List (String × FileTree)} {name : String} {t : FileTree}
    (node : FileTree) (h : child? name es = some t) :
    putChild name t (putChild name node es) = es := by
  induction es with
  | nil => cases h
  | cons e es ih =>
    rw [child?] at h
    split_ifs at h with hname
    · obtain rfl : e.2 = t := by simpa using h
      rw [putChild, if_pos hname, putChild, if_pos rfl, hname]
    · rw [putChild, if_neg hname, putChild, if_neg hname, ih h]

/-- What is put into a directory where nothing was can be taken out again. -/
theorem erase_insert {t : FileTree} {p : Location} {n : String} (node : FileTree)
    (hparent : t.entryAt? p = some .dir) (hplace : t.entryAt? (p ++ [n]) = none) :
    erase (p ++ [n]) (insert node (p ++ [n]) t) = t := by
  -- on the way both replace the same entry, which stays where it is in the list
  induction p generalizing t with
  | nil =>
    cases t with
    | file contents => cases hparent
    | dir es =>
      have hchild : child? n es = none := by
        cases hc : child? n es with
        | none => rfl
        | some u => simp [hc] at hplace
      rw [List.nil_append, insert, insert, erase, dropChild_putChild node hchild]
  | cons a p ih =>
    obtain ⟨b, rest, hrest⟩ := List.exists_cons_of_ne_nil (show p ++ [n] ≠ [] by simp)
    cases t with
    | file contents => cases hparent
    | dir es =>
      rw [entryAt?_dir_cons] at hparent
      obtain ⟨u, hchild, hbelow⟩ := Option.bind_eq_some_iff.1 hparent
      have hfree : u.entryAt? (p ++ [n]) = none := by simpa [hchild] using hplace
      rw [List.cons_append, insert, hchild, Option.getD_some]
      rw [hrest, erase, child?_putChild, if_pos rfl, ← hrest]
      dsimp only
      rw [ih hbelow hfree, putChild_putChild _ hchild]

/-! ## Trees with directories added -/

/-- `u` is `t` with directories added, all of them at places in `made`. -/
def Grows (made : Location → Prop) (t u : FileTree) : Prop :=
  ∀ l, u.entryAt? l = t.entryAt? l ∨ (t.entryAt? l = none ∧ u.entryAt? l = some .dir ∧ made l)

namespace Grows

variable {made made' : Location → Prop} {t u v : FileTree} {l : Location}

theorem refl (made : Location → Prop) (t : FileTree) : Grows made t t := fun _ => Or.inl rfl

theorem mono (h : Grows made t u) (hmade : ∀ l, made l → made' l) : Grows made' t u :=
  fun l => (h l).imp_right fun ⟨hnone, hdir, hl⟩ => ⟨hnone, hdir, hmade l hl⟩

theorem trans (htu : Grows made t u) (huv : Grows made u v) : Grows made t v := by
  intro l
  rcases huv l with hv | ⟨hnone, hdir, hmade⟩
  · rw [hv]
    exact htu l
  · -- what is new in the second step was not made in the first
    rcases htu l with hu | ⟨-, hu, -⟩
    · exact Or.inr ⟨hu ▸ hnone, hdir, hmade⟩
    · rw [hnone] at hu
      cases hu

/-- What was there stays. -/
theorem entryAt?_of_some (h : Grows made t u) {e : Entry} (hl : t.entryAt? l = some e) :
    u.entryAt? l = some e := by
  rcases h l with hu | ⟨hnone, -, -⟩
  · rw [hu, hl]
  · rw [hl] at hnone
    cases hnone

/-- No file is added. -/
theorem entryAt?_file_iff (h : Grows made t u) {contents : ByteArray} :
    u.entryAt? l = some (.file contents) ↔ t.entryAt? l = some (.file contents) := by
  refine ⟨fun hu => ?_, h.entryAt?_of_some⟩
  rcases h l with hl | ⟨-, hdir, -⟩
  · rw [← hl, hu]
  · rw [hu] at hdir
    cases hdir

theorem fileAt?_eq (h : Grows made t u) (l : Location) : u.fileAt? l = t.fileAt? l :=
  fileAt?_congr fun _ => h.entryAt?_file_iff

theorem entryAt?_of_not_made (h : Grows made t u) (hl : ¬ made l) : u.entryAt? l = t.entryAt? l :=
  (h l).resolve_right fun ⟨_, _, hmade⟩ => hl hmade

end Grows

end FileTree

end GrammarBindings
