/-
  GrammarBindings.FileTree

  A tree of directories and files without links, as a value.  It says what there is and
  where; rights and the room on a device are left out, so no operation on a tree fails for
  want of them.
-/

namespace GrammarBindings

/-- A place in a tree: the names on the way down from its root. -/
abbrev Location := List String

/-- A file with its bytes, or a directory with what is in it. -/
inductive FileTree
  | file (contents : ByteArray)
  | dir (entries : List (String × FileTree))

namespace FileTree

/-! ## Entries of one directory -/

/-- What is under `name` among the entries of a directory. -/
def child? (name : String) : List (String × FileTree) → Option FileTree
  | [] => none
  | (key, t) :: es => if name = key then some t else child? name es

/-- The entries with `node` under `name`: it takes the place of what is there, or
    comes last. -/
def putChild (name : String) (node : FileTree) :
    List (String × FileTree) → List (String × FileTree)
  | [] => [(name, node)]
  | (key, t) :: es =>
    if name = key then (name, node) :: es else (key, t) :: putChild name node es

/-- The entries without what is under `name`. -/
def dropChild (name : String) : List (String × FileTree) → List (String × FileTree)
  | [] => []
  | (key, t) :: es => if name = key then dropChild name es else (key, t) :: dropChild name es

theorem child?_putChild (name other : String) (node : FileTree)
    (entries : List (String × FileTree)) :
    child? other (putChild name node entries) =
      if other = name then some node else child? other entries := by
  induction entries with
  | nil => rfl
  | cons e es ih =>
    by_cases hk : name = e.1
    · by_cases h : other = e.1 <;> simp [putChild, child?, hk, h]
    · by_cases h : other = e.1
      · have hn : other ≠ name := fun he => hk (he.symm.trans h)
        simp only [putChild, child?, if_neg hk, if_pos h, if_neg hn]
      · simp only [putChild, child?, if_neg hk, if_neg h, ih]

theorem child?_dropChild (name other : String) (entries : List (String × FileTree)) :
    child? other (dropChild name entries) =
      if other = name then none else child? other entries := by
  induction entries with
  | nil => simp [dropChild, child?]
  | cons e es ih =>
    by_cases hk : name = e.1
    · by_cases h : other = name
      · simp only [dropChild, if_pos hk, ih, if_pos h]
      · have hn : other ≠ e.1 := fun he => h (he.trans hk.symm)
        simp only [dropChild, if_pos hk, ih, if_neg h, child?, if_neg hn]
    · by_cases h : other = e.1
      · have hn : other ≠ name := fun he => hk (he.symm.trans h)
        simp only [dropChild, child?, if_neg hk, if_pos h, if_neg hn]
      · simp only [dropChild, child?, if_neg hk, if_neg h, ih]

/-! ## Reaching into a tree -/

/-- What is at a place. -/
def lookup : FileTree → Location → Option FileTree
  | t, [] => some t
  | file _, _ :: _ => none
  | dir es, n :: ns => (child? n es).bind fun t => t.lookup ns

/-- Whether there is a directory at a place. -/
def hasDir (t : FileTree) (l : Location) : Bool :=
  match t.lookup l with
  | some (dir _) => true
  | _ => false

/-- The bytes of the file at a place. -/
def fileAt? (t : FileTree) (l : Location) : Option ByteArray :=
  match t.lookup l with
  | some (file contents) => some contents
  | _ => none

/-- The tree with `node` at a place, and directories on the way to it where
    there is nothing.  What is under a file stays out of reach. -/
def insert (node : FileTree) : Location → FileTree → FileTree
  | [], _ => node
  | _ :: _, file contents => file contents
  | n :: ns, dir es => dir (putChild n (insert node ns ((child? n es).getD (dir []))) es)

/-- The tree without what is at a place below its root. -/
def erase : Location → FileTree → FileTree
  | [], t => t
  | _ :: _, file contents => file contents
  | [n], dir es => dir (dropChild n es)
  | n :: m :: ns, dir es =>
    match child? n es with
    | some t => dir (putChild n (erase (m :: ns) t) es)
    | none => dir es

/-! ## Everything in a tree -/

mutual

/-- All places in a tree below its root, each with the bytes of the file there or
    `none` for a directory. -/
def contents (base : Location) : FileTree → List (Location × Option ByteArray)
  | file _ => []
  | dir es => entryContents base es

/-- All places in the entries of a directory. -/
def entryContents (base : Location) :
    List (String × FileTree) → List (Location × Option ByteArray)
  | [] => []
  | (name, file bytes) :: es => (base ++ [name], some bytes) :: entryContents base es
  | (name, dir inner) :: es =>
    (base ++ [name], none) :: (entryContents (base ++ [name]) inner ++ entryContents base es)

end

end FileTree

end GrammarBindings
