/-
  GrammarBindings.Proofs.FileTree.Apart

  Paths that stay apart from a place.  A path that starts outside a place and does not have
  the last name of the place among its pieces never leads into it, neither by a name nor by
  a `..`.  What is at the place, or whether anything is, makes no difference to such a path.

    * `Path.Avoids` — a path that stays apart from an entry of a directory.
    * `not_prefix_along` — it does not lead into the entry.
    * `read_beside_iff` — it reads the same in trees that agree elsewhere.
-/
import GrammarBindings.Proofs.FileTree.Lexical

namespace GrammarBindings

/-- A path that does not lead into the entry `n` of the place `q` when it is read from the
    working directory: it does not start there and has no piece of that name. -/
structure Path.Avoids (cwd q : Location) (n : String) (p : Path) : Prop where
  start : ¬ q ++ [n] <+: FileTree.origin cwd p
  piece : n ∉ p.pieces

namespace FileTree

variable {t u : FileTree} {cwd l m q : Location} {n : String} {p : Path}

/-- One piece leads into an entry only by the name of that entry. -/
theorem not_prefix_stepFrom {piece : String} (hl : ¬ q ++ [n] <+: l) (hpiece : piece ≠ n) :
    ¬ q ++ [n] <+: stepFrom l piece := by
  rw [stepFrom]
  split_ifs
  · exact hl
  · exact fun h => hl (h.trans (List.dropLast_prefix l))
  · intro h
    rcases List.prefix_concat_iff.1 h with heq | hpre
    · have hlast : [n] = [piece] := List.append_inj_right' heq rfl
      exact hpiece (List.head_eq_of_cons_eq hlast).symm
    · exact hl hpre

theorem not_prefix_foldl {pieces : List String} (hl : ¬ q ++ [n] <+: l) (hpieces : n ∉ pieces) :
    ¬ q ++ [n] <+: pieces.foldl stepFrom l := by
  induction pieces generalizing l with
  | nil => exact hl
  | cons piece pieces ih =>
    rw [List.mem_cons, not_or] at hpieces
    exact ih (not_prefix_stepFrom hl (Ne.symm hpieces.1)) hpieces.2

theorem not_prefix_along (h : p.Avoids cwd q n) : ¬ q ++ [n] <+: cwd.along p :=
  not_prefix_foldl h.start h.piece

/-! ## Trees that agree elsewhere -/

/-- Pieces that stay apart from an entry lead the same way whatever is there. -/
theorem walk_beside {pieces : List String}
    (hagree : ∀ l, ¬ q ++ [n] <+: l → u.entryAt? l = t.entryAt? l)
    (hl : ¬ q ++ [n] <+: l) (hpieces : n ∉ pieces) (h : t.walk l pieces = .ok m) :
    u.walk l pieces = .ok m := by
  induction pieces generalizing l with
  | nil => exact h
  | cons piece pieces ih =>
    rw [List.mem_cons, not_or] at hpieces
    obtain ⟨hdir, hfits, hrest⟩ := walk_cons.1 h
    have hnext := not_prefix_stepFrom hl (Ne.symm hpieces.1)
    exact walk_cons.2 ⟨by rw [hagree l hl, hdir], hfits, ih hnext hpieces.2 hrest⟩

theorem read_beside {bytes : ByteArray}
    (hagree : ∀ l, ¬ q ++ [n] <+: l → u.entryAt? l = t.entryAt? l) (hp : p.Avoids cwd q n)
    (h : t.read cwd p = .ok bytes) : u.read cwd p = .ok bytes := by
  obtain ⟨m, hresolve, hentry⟩ := read_eq_ok.1 h
  obtain ⟨hcheck, hwalk⟩ := resolve_eq_ok.1 hresolve
  have hm : ¬ q ++ [n] <+: m := by
    rw [eq_along_of_resolve hresolve]
    exact not_prefix_along hp
  exact read_eq_ok.2 ⟨m, resolve_eq_ok.2 ⟨hcheck, walk_beside hagree hp.start hp.piece hwalk⟩,
    by rw [hagree m hm, hentry]⟩

theorem read_beside_iff {bytes : ByteArray}
    (hagree : ∀ l, ¬ q ++ [n] <+: l → u.entryAt? l = t.entryAt? l) (hp : p.Avoids cwd q n) :
    u.read cwd p = .ok bytes ↔ t.read cwd p = .ok bytes :=
  ⟨read_beside (fun l hl => (hagree l hl).symm) hp, read_beside hagree hp⟩

end FileTree

end GrammarBindings
