/-
  GrammarBindings.Proofs.Toml.Writing

  Documents as they are written line by line: headers of tables, and keys with strings or arrays
  of strings.  A written line is read as what it was written for, whatever stands behind it, so
  that a written document is read as its lines.

    * `WrittenKey`, `WrittenValue`, `WrittenLine` — the parts of a document, with their texts.
    * `keyPart_chars`, `value_chars`, `line_chars` — reading one of them.
    * `parse?_written` — reading a whole document.
    * `entries?_one`, `entries?_two` — what one table, and another one in it, add up to.
-/
import GrammarBindings.Proofs.Toml.Keys
import GrammarBindings.Proofs.Toml.Spelling

namespace GrammarBindings.Toml

/-! ## Written documents -/

/-- A part of a key as it is written: as it is, or as a string. -/
inductive WrittenKey
  | bare (name : String) (hname : name.toList ≠ [])
      (hchars : name.toList.all isBareKeyChar = true)
  | quoted (name : String)

namespace WrittenKey

/-- What the part stands for. -/
def name : WrittenKey → String
  | bare name _ _ => name
  | quoted name => name

/-- The text of the part. -/
def chars (σ : Spelling) : WrittenKey → List Char
  | bare name _ _ => name.toList
  | quoted name => σ.quote name

end WrittenKey

/-- The text of a key with dots between its parts. -/
def pathChars (σ : Spelling) : List WrittenKey → WrittenKey → List Char
  | [], key => key.chars σ
  | part :: path, key => part.chars σ ++ '.' :: pathChars σ path key

/-- A value as it is written. -/
inductive WrittenValue
  /-- `"s"` -/
  | text (s : String)
  /-- `["s", "t"]` -/
  | texts (ss : List String)

/-- The text of an array behind its opening bracket. -/
def textsChars (σ : Spelling) : List String → List Char
  | [] => [']']
  | [s] => σ.quote s ++ [']']
  | s :: ss => σ.quote s ++ ',' :: ' ' :: textsChars σ ss

namespace WrittenValue

/-- What the value stands for. -/
def value : WrittenValue → Value
  | text s => .text s
  | texts ss => .array (ss.map .text)

/-- The text of the value. -/
def chars (σ : Spelling) : WrittenValue → List Char
  | text s => σ.quote s
  | texts ss => '[' :: textsChars σ ss

end WrittenValue

/-- A line of a document as it is written. -/
inductive WrittenLine
  /-- `[path.key]` -/
  | header (path : List WrittenKey) (key : WrittenKey) (h : path.length < maxKeyParts)
  /-- `key = v` -/
  | assignment (key : WrittenKey) (v : WrittenValue)

namespace WrittenLine

/-- What the line stands for. -/
def line : WrittenLine → Line
  | header path key _ => .header (.table (path.map WrittenKey.name) key.name)
  | assignment key v => .assignment ⟨[], key.name, v.value⟩

/-- The text of the line. -/
def chars (σ : Spelling) : WrittenLine → List Char
  | header path key _ => '[' :: (pathChars σ path key ++ [']', '\n'])
  | assignment key v => key.chars σ ++ ' ' :: '=' :: ' ' :: (v.chars σ ++ ['\n'])

end WrittenLine

/-- The text of a document. -/
def written (σ : Spelling) (ls : List WrittenLine) : String :=
  String.ofList (ls.flatMap fun l => l.chars σ)

variable {σ : Spelling}

/-! ## Reading keys -/

/-- A character at the front of a key. -/
def BeginsKey (c : Char) : Prop := c = '"' ∨ isBareKeyChar c = true

/-- Characters of other tokens do not stand at the front of a key. -/
theorem BeginsKey.ne {c d : Char} (h : BeginsKey c) (hquote : d ≠ '"')
    (hbare : isBareKeyChar d = false) : c ≠ d := by
  rintro rfl
  rcases h with h | h
  · exact hquote h
  · rw [hbare] at h
    cases h

theorem BeginsKey.skipBlanks {c : Char} (h : BeginsKey c) (cs : List Char) :
    skipBlanks (c :: cs) = c :: cs := by
  have hspace : c ≠ ' ' := h.ne (by decide) (by decide)
  have htab : c ≠ '\t' := h.ne (by decide) (by decide)
  exact List.dropWhile_cons_of_neg (by simp [isBlank, hspace, htab])

theorem WrittenKey.exists_cons (key : WrittenKey) (σ : Spelling) :
    ∃ c cs, key.chars σ = c :: cs ∧ BeginsKey c := by
  cases key with
  | bare name hname hchars =>
    obtain ⟨c, cs, hcs⟩ := List.exists_cons_of_ne_nil hname
    rw [hcs, List.all_cons, Bool.and_eq_true] at hchars
    exact ⟨c, cs, hcs, .inr hchars.1⟩
  | quoted name => exact ⟨'"', _, rfl, .inl rfl⟩

theorem exists_cons_pathChars (path : List WrittenKey) (key : WrittenKey) (σ : Spelling) :
    ∃ c cs, pathChars σ path key = c :: cs ∧ BeginsKey c := by
  cases path with
  | nil => exact key.exists_cons σ
  | cons part path =>
    obtain ⟨c, cs, hcs, hc⟩ := part.exists_cons σ
    exact ⟨c, cs ++ '.' :: pathChars σ path key, by rw [pathChars, hcs, List.cons_append], hc⟩

theorem keyPart_bare {c : Char} (hc : isBareKeyChar c = true) (cs : List Char) :
    keyPart (c :: cs) = some (String.ofList ((c :: cs).takeWhile isBareKeyChar),
      (c :: cs).dropWhile isBareKeyChar) := by
  have hne {d : Char} (hd : isBareKeyChar d = false) : c ≠ d := by
    rintro rfl
    rw [hd] at hc
    cases hc
  unfold keyPart
  split
  · rename_i heq
    exact absurd (List.cons.inj heq).1 (hne (by decide))
  · rename_i heq
    exact absurd (List.cons.inj heq).1 (hne (by decide))
  · rw [List.takeWhile_cons_of_pos hc]

/-- A part is read up to the first character that is none of a key without quotes. -/
theorem keyPart_chars (key : WrittenKey) {d : Char} (hd : isBareKeyChar d = false)
    (rest : List Char) : keyPart (key.chars σ ++ d :: rest) = some (key.name, d :: rest) := by
  cases key with
  | quoted name => exact lineText_quote (d :: rest)
  | bare name hname hchars =>
    rw [List.all_eq_true] at hchars
    rw [WrittenKey.chars, WrittenKey.name]
    have hstop : ¬ isBareKeyChar d = true := by simp [hd]
    have htake : (name.toList ++ d :: rest).takeWhile isBareKeyChar = name.toList := by
      rw [List.takeWhile_append_of_pos hchars, List.takeWhile_cons_of_neg hstop, List.append_nil]
    have hdrop : (name.toList ++ d :: rest).dropWhile isBareKeyChar = d :: rest := by
      rw [List.dropWhile_append_of_pos hchars, List.dropWhile_cons_of_neg hstop]
    have hread : keyPart (name.toList ++ d :: rest) =
        some (String.ofList ((name.toList ++ d :: rest).takeWhile isBareKeyChar),
          (name.toList ++ d :: rest).dropWhile isBareKeyChar) := by
      obtain ⟨c, cs, hcs⟩ := List.exists_cons_of_ne_nil hname
      rw [hcs, List.cons_append]
      exact keyPart_bare (hchars c (by rw [hcs]; exact List.mem_cons_self)) _
    rw [hread, htake, hdrop, String.ofList_toList]

/-- A key is read with the blanks behind it, where no dot follows. -/
theorem dottedKey_pathChars (path : List WrittenKey) (key : WrittenKey) {parts : Nat}
    (hparts : path.length < parts) {d : Char} (hd : isBareKeyChar d = false) {rest : List Char}
    (hdot : ∀ cs, skipBlanks (d :: rest) ≠ '.' :: cs) :
    dottedKey parts (pathChars σ path key ++ d :: rest) =
      some ((path.map WrittenKey.name, key.name), skipBlanks (d :: rest)) := by
  induction path generalizing parts with
  | nil =>
    obtain ⟨parts, rfl⟩ := Nat.exists_eq_add_one.2 (show 0 < parts by omega)
    obtain ⟨c, cs, hcs, hc⟩ := key.exists_cons σ
    have hskip : skipBlanks (key.chars σ ++ d :: rest) = key.chars σ ++ d :: rest := by
      rw [hcs, List.cons_append, hc.skipBlanks]
    simp only [pathChars, dottedKey, hskip, keyPart_chars key hd, Option.bind_eq_bind,
      Option.bind_some]
    rfl
  | cons part path ih =>
    obtain ⟨parts, rfl⟩ := Nat.exists_eq_add_one.2 (show 0 < parts by omega)
    obtain ⟨c, cs, hcs, hc⟩ := part.exists_cons σ
    rw [List.length_cons] at hparts
    have hskip (t : List Char) : skipBlanks (part.chars σ ++ t) = part.chars σ ++ t := by
      rw [hcs, List.cons_append, hc.skipBlanks]
    have hpoint (t : List Char) : skipBlanks ('.' :: t) = '.' :: t := rfl
    simp only [pathChars, List.append_assoc, List.cons_append, dottedKey, hskip,
      keyPart_chars part (show isBareKeyChar '.' = false by decide), Option.bind_eq_bind,
      Option.bind_some, hpoint, ih (show path.length < parts by omega)]
    rfl

/-! ## Reading values -/

theorem value_quote (depth : Nat) (s : String) {d : Char} (hd : d ≠ '"') (rest : List Char) :
    value depth (σ.quote s ++ d :: rest) = some (.text s, d :: rest) := by
  have hatom : atom (σ.quote s ++ d :: rest) = some (.text s, d :: rest) := by
    have htext := anyText_quote (σ := σ) (s := s) hd rest
    rw [Spelling.quote, List.cons_append] at htext ⊢
    rw [atom, htext]
    rfl
  cases depth with
  | zero => exact hatom
  | succ depth =>
    rw [← hatom, Spelling.quote, List.cons_append, value]
    rfl

/-- A value in an array is read, and what follows its comma. -/
theorem bracketed_comma {item : Reader Value} {fuel : Nat} {v : Value} {vs : List Value}
    {cs t inner rest : List Char} (hcs : skipLayout false cs = '"' :: t)
    (hitem : item ('"' :: t) = some (v, ',' :: inner))
    (hinner : bracketed item fuel inner = some (vs, rest)) :
    bracketed item (fuel + 1) cs = some (v :: vs, rest) := by
  rw [bracketed, hcs]
  show (item ('"' :: t)).bind _ = _
  rw [hitem]
  show (bracketed item fuel inner).bind _ = _
  rw [hinner]
  rfl

/-- The last value in an array is read. -/
theorem bracketed_last {item : Reader Value} {fuel : Nat} {v : Value} {cs t rest : List Char}
    (hcs : skipLayout false cs = '"' :: t) (hitem : item ('"' :: t) = some (v, ']' :: rest)) :
    bracketed item (fuel + 1) cs = some ([v], rest) := by
  rw [bracketed, hcs]
  show (item ('"' :: t)).bind _ = _
  rw [hitem]
  rfl

theorem skipLayout_textsChars (ss : List String) (rest : List Char) :
    skipLayout false (textsChars σ ss ++ rest) = textsChars σ ss ++ rest := by
  match ss with
  | [] => rfl
  | [s] => rfl
  | s :: s' :: ss => rfl

theorem bracketed_textsChars (depth : Nat) (ss : List String) {fuel : Nat}
    (hfuel : ss.length < fuel) {cs rest : List Char}
    (hcs : skipLayout false cs = textsChars σ ss ++ rest) :
    bracketed (value depth) fuel cs = some (ss.map .text, rest) := by
  induction ss generalizing fuel cs with
  | nil =>
    obtain ⟨fuel, rfl⟩ := Nat.exists_eq_add_one.2 (show 0 < fuel by omega)
    rw [bracketed, hcs]
    rfl
  | cons s ss ih =>
    obtain ⟨fuel, rfl⟩ := Nat.exists_eq_add_one.2 (show 0 < fuel by omega)
    rw [List.length_cons] at hfuel
    cases ss with
    | nil =>
      rw [textsChars, List.append_assoc] at hcs
      exact bracketed_last hcs (value_quote depth s (by decide) rest)
    | cons s' ss =>
      have hinner : bracketed (value depth) fuel (' ' :: (textsChars σ (s' :: ss) ++ rest)) =
          some ((s' :: ss).map .text, rest) :=
        ih (by omega) (skipLayout_textsChars (s' :: ss) rest)
      have hquote := value_quote (σ := σ) depth s (show ',' ≠ '"' by decide)
        (' ' :: (textsChars σ (s' :: ss) ++ rest))
      rw [textsChars, List.append_assoc] at hcs
      · exact bracketed_comma hcs hquote hinner
      · exact List.cons_ne_nil s' ss

theorem length_lt_length_textsChars (ss : List String) :
    ss.length < (textsChars σ ss).length + 1 := by
  induction ss with
  | nil => simp
  | cons s ss ih =>
    cases ss with
    | nil => simp [textsChars]
    | cons s' ss =>
      rw [textsChars, List.length_append, List.length_cons]
      · simp only [List.length_cons] at ih ⊢
        omega
      · exact List.cons_ne_nil s' ss

/-- A value is read up to its end. -/
theorem value_chars (depth : Nat) (v : WrittenValue) {d : Char} (hd : d ≠ '"')
    (rest : List Char) :
    Toml.value (depth + 1) (v.chars σ ++ d :: rest) = some (v.value, d :: rest) := by
  cases v with
  | text s => exact value_quote (depth + 1) s hd rest
  | texts ss =>
    rw [WrittenValue.chars, List.cons_append, Toml.value]
    show (bracketed _ _ (textsChars σ ss ++ d :: rest)).bind _ = _
    have hfuel : ss.length < (textsChars σ ss ++ d :: rest).length + 1 := by
      have hle := length_lt_length_textsChars (σ := σ) ss
      rw [List.length_append]
      omega
    rw [bracketed_textsChars depth ss hfuel (skipLayout_textsChars ss (d :: rest))]
    rfl

/-! ## Reading lines -/

theorem BeginsKey.endLine {c : Char} (h : BeginsKey c) (cs : List Char) :
    endLine (c :: cs) = none := by
  have hcomment : c ≠ '#' := h.ne (by decide) (by decide)
  have hfeed : c ≠ '\n' := h.ne (by decide) (by decide)
  have hreturn : c ≠ '\r' := h.ne (by decide) (by decide)
  simp [Toml.endLine, h.skipBlanks, hcomment, hfeed, hreturn]

/-- The header of a table is read. -/
theorem line_table {path : List String} {key : String} {cs inner rest : List Char}
    (hcs : ∀ t, cs ≠ '[' :: t)
    (hkey : dottedKey maxKeyParts cs = some ((path, key), ']' :: inner))
    (hend : endLine inner = some rest) :
    line ('[' :: cs) = some (.header (.table path key), rest) := by
  have hskip : skipBlanks ('[' :: cs) = '[' :: cs := rfl
  unfold line
  rw [hskip]
  split
  · rename_i t heq
    exact absurd (List.cons.inj heq).2 (hcs t)
  · rename_i t heq
    obtain ⟨-, rfl⟩ := List.cons.inj heq
    simp only [hkey, expect, if_pos, hend, Option.bind_eq_bind, Option.bind_some]
    rfl
  · rename_i hother
    exact absurd rfl (hother cs)

/-- A key with its value is read. -/
theorem line_entry {c : Char} (hc : BeginsKey c) {a : Assignment} {cs inner rest : List Char}
    (ha : assignment (value maxDepth) (c :: cs) = some (a, inner))
    (hend : endLine inner = some rest) : line (c :: cs) = some (.assignment a, rest) := by
  have hbracket : c ≠ '[' := hc.ne (by decide) (by decide)
  unfold line
  rw [hc.skipBlanks]
  split
  · rename_i t heq
    exact absurd (List.cons.inj heq).1 hbracket
  · rename_i t heq
    exact absurd (List.cons.inj heq).1 hbracket
  · simp only [hc.endLine, ha, hend, Option.bind_eq_bind, Option.bind_some]
    rfl

theorem assignment_of_eq {item : Reader Value} {path : List String} {key : String} {v : Value}
    {cs inner rest : List Char}
    (hkey : dottedKey maxKeyParts cs = some ((path, key), '=' :: inner))
    (hvalue : item (skipBlanks inner) = some (v, rest)) :
    assignment item cs = some (⟨path, key, v⟩, skipBlanks rest) := by
  simp only [assignment, hkey, expect, if_pos, hvalue, Option.bind_eq_bind, Option.bind_some]
  rfl

theorem WrittenValue.skipBlanks (v : WrittenValue) (rest : List Char) :
    skipBlanks (' ' :: (v.chars σ ++ rest)) = v.chars σ ++ rest := by
  cases v <;> rfl

/-- A line is read up to its end. -/
theorem line_chars (l : WrittenLine) (rest : List Char) :
    Toml.line (l.chars σ ++ rest) = some (l.line, rest) := by
  have hend : endLine ('\n' :: rest) = some rest := rfl
  cases l with
  | header path key h =>
    have hkey : dottedKey maxKeyParts (pathChars σ path key ++ ']' :: '\n' :: rest) =
        some ((path.map WrittenKey.name, key.name), ']' :: '\n' :: rest) :=
      dottedKey_pathChars path key h (by decide) (fun cs heq => by cases heq)
    obtain ⟨c, cs, hcs, hc⟩ := exists_cons_pathChars path key σ
    have hbracket : c ≠ '[' := hc.ne (by decide) (by decide)
    rw [WrittenLine.chars, List.cons_append, List.append_assoc]
    refine line_table (fun t heq => ?_) hkey hend
    rw [hcs, List.cons_append, List.cons.injEq] at heq
    exact hbracket heq.1
  | assignment key v =>
    have hkey : dottedKey maxKeyParts
        (key.chars σ ++ ' ' :: '=' :: ' ' :: (v.chars σ ++ '\n' :: rest)) =
          some (([], key.name), '=' :: ' ' :: (v.chars σ ++ '\n' :: rest)) :=
      dottedKey_pathChars [] key (by decide) (by decide) (fun cs heq => by cases heq)
    have hvalue : value maxDepth (skipBlanks (' ' :: (v.chars σ ++ '\n' :: rest))) =
        some (v.value, '\n' :: rest) := by
      rw [v.skipBlanks]
      exact value_chars 78 v (by decide) rest
    have ha : assignment (value maxDepth)
        (key.chars σ ++ ' ' :: '=' :: ' ' :: (v.chars σ ++ '\n' :: rest)) =
          some (⟨[], key.name, v.value⟩, '\n' :: rest) :=
      assignment_of_eq hkey hvalue
    obtain ⟨c, cs, hcs, hc⟩ := key.exists_cons σ
    rw [WrittenLine.chars, List.append_assoc, List.cons_append, List.cons_append, List.cons_append,
      List.append_assoc, List.singleton_append]
    rw [hcs, List.cons_append] at ha ⊢
    exact line_entry hc ha hend

theorem WrittenLine.exists_cons (l : WrittenLine) (σ : Spelling) :
    ∃ c cs, l.chars σ = c :: cs ∧ (c = '[' ∨ BeginsKey c) := by
  cases l with
  | header path key h => exact ⟨'[', _, rfl, .inl rfl⟩
  | assignment key v =>
    obtain ⟨c, cs, hcs, hc⟩ := key.exists_cons σ
    exact ⟨c, cs ++ ' ' :: '=' :: ' ' :: (v.chars σ ++ ['\n']),
      by rw [WrittenLine.chars, hcs, List.cons_append], .inr hc⟩

theorem lines_flatMap_chars (ls : List WrittenLine) {fuel : Nat}
    (hfuel : (ls.flatMap fun l => l.chars σ).length ≤ fuel) :
    readLines fuel (ls.flatMap fun l => l.chars σ) = some (ls.map WrittenLine.line) := by
  induction ls generalizing fuel with
  | nil => rw [List.flatMap_nil, readLines, List.map_nil]
  | cons l ls ih =>
    obtain ⟨c, cs, hcs, -⟩ := l.exists_cons σ
    have hline := line_chars (σ := σ) l (ls.flatMap fun l => l.chars σ)
    rw [List.flatMap_cons] at hfuel ⊢
    rw [hcs, List.cons_append] at hfuel hline ⊢
    rw [List.length_cons, List.length_append] at hfuel
    obtain ⟨fuel, rfl⟩ := Nat.exists_eq_add_one.2 (show 0 < fuel by omega)
    simp only [readLines, hline, ih (show _ ≤ fuel by omega), Option.bind_eq_bind, Option.bind_some]
    rfl

/-- A written document is read line by line. -/
theorem parse?_written (ls : List WrittenLine) :
    parse? (written σ ls) = (Document.ofLines (ls.map WrittenLine.line)).entries? := by
  have hmark : dropByteOrderMark (ls.flatMap fun l => l.chars σ) =
      ls.flatMap fun l => l.chars σ := by
    cases ls with
    | nil => rfl
    | cons l ls =>
      obtain ⟨c, cs, hcs, hc⟩ := l.exists_cons σ
      have hne : c ≠ '\uFEFF' := by
        rcases hc with rfl | hc
        · decide
        · exact hc.ne (by decide) (by decide)
      rw [List.flatMap_cons, hcs, List.cons_append]
      unfold dropByteOrderMark
      split
      · rename_i heq
        exact absurd (List.cons.inj heq).1 hne
      · rfl
  rw [parse?, written, String.toList_ofList, hmark]
  simp only [lines_flatMap_chars ls (Nat.le_refl _), Option.bind_eq_bind, Option.bind_some]

/-! ## Lines as entries -/

/-- A header and the lines below it, up to the next header, make up a section. -/
theorem ofLines_section (h : Header) (as : List Assignment) {ls : List Line}
    (hls : (Document.ofLines ls).lines = []) :
    Document.ofLines (.header h :: (as.map .assignment ++ ls)) =
      ⟨[], ⟨h, as⟩ :: (Document.ofLines ls).sections⟩ := by
  have hlines : Document.ofLines (as.map .assignment ++ ls) =
      ⟨as, (Document.ofLines ls).sections⟩ := by
    induction as with
    | nil =>
      rw [List.map_nil, List.nil_append, ← hls]
    | cons a as ih => rw [List.map_cons, List.cons_append, Document.ofLines, ih]
  rw [Document.ofLines, hlines]

/-- The last section goes on to the end. -/
theorem ofLines_last_section (h : Header) (as : List Assignment) :
    Document.ofLines (.header h :: as.map .assignment) = ⟨[], [⟨h, as⟩]⟩ := by
  have hsection := ofLines_section h as (show (Document.ofLines []).lines = [] from rfl)
  rwa [List.append_nil] at hsection

/-- Entries as the lines that give them. -/
def toAssignments (entries : Entries) : List Assignment := entries.map fun e => ⟨[], e.1, e.2⟩

/-- Entries as nodes that are complete. -/
def toNodes (entries : Entries) : Nodes := entries.map fun e => (e.1, .value e.2)

theorem toEntries_toNodes (entries : Entries) : Node.toEntries (toNodes entries) = entries := by
  induction entries with
  | nil => rfl
  | cons e es ih =>
    rw [toNodes, List.map_cons, Node.toEntries, Node.toValue]
    exact congrArg (e :: ·) ih

/-- Lines with different keys add up to their entries, in their order. -/
theorem assignAll_toAssignments {entries : Entries} {start : Nodes}
    (h : (start.map Prod.fst ++ entries.map Prod.fst).Nodup) :
    start.assignAll (toAssignments entries) = some (start ++ toNodes entries) := by
  induction entries generalizing start with
  | nil =>
    rw [toNodes, List.map_nil, List.append_nil]
    rfl
  | cons e es ih =>
    rw [List.map_cons] at h
    have hnew : start.lookup e.1 = none := by
      rw [lookup_eq_none_iff]
      intro hmem
      rw [List.nodup_append] at h
      exact h.2.2 e.1 hmem e.1 List.mem_cons_self rfl
    have hassign : start.assign [] e.1 e.2 = some (start ++ [(e.1, .value e.2)]) := by
      simp [Nodes.assign, hnew]
    have hrest : Nodes.assignAll (start ++ [(e.1, .value e.2)]) (toAssignments es) =
        some (start ++ [(e.1, .value e.2)] ++ toNodes es) :=
      ih (by simpa using h)
    have hcons : start.assignAll (toAssignments (e :: es)) =
        (start.assign [] e.1 e.2).bind fun nodes => nodes.assignAll (toAssignments es) := rfl
    rw [hcons, hassign, Option.bind_some, hrest, toNodes, toNodes, List.map_cons,
      List.append_assoc, List.singleton_append]

theorem map_fst_toNodes (entries : Entries) :
    (toNodes entries).map Prod.fst = entries.map Prod.fst := by
  rw [toNodes, List.map_map]
  rfl

/-- The first section of a document gives a table with its entries. -/
theorem addSection_first {key : String} {entries : Entries}
    (hkeys : (entries.map Prod.fst).Nodup) :
    Nodes.addSection [] ⟨.table [] key, toAssignments entries⟩ =
      some [(key, .table .headed (toNodes entries))] := by
  have hlines : Nodes.assignAll [] (toAssignments entries) = some (toNodes entries) :=
    assignAll_toAssignments hkeys
  simp [Nodes.addSection, Nodes.changeAt, hlines]

/-- A section whose header leads into the table before it adds a table to the end of that. -/
theorem addSection_inner {outer key : String} {inner : Nodes}
    (hnew : key ∉ inner.map Prod.fst) {entries : Entries}
    (hkeys : (entries.map Prod.fst).Nodup) :
    Nodes.addSection [(outer, .table .headed inner)]
        ⟨.table [outer] key, toAssignments entries⟩ =
      some [(outer, .table .headed (inner ++ [(key, .table .headed (toNodes entries))]))] := by
  have hlines : Nodes.assignAll [] (toAssignments entries) = some (toNodes entries) :=
    assignAll_toAssignments hkeys
  simp [Nodes.addSection, Nodes.changeAt, Nodes.replace, lookup_eq_none_iff.2 hnew, hlines]

/-- One section below its header. -/
theorem entries?_one {key : String} {entries : Entries} (hkeys : (entries.map Prod.fst).Nodup) :
    Document.entries? ⟨[], [⟨.table [] key, toAssignments entries⟩]⟩ =
      some [(key, .table entries)] := by
  have hstart : Nodes.assignAll [] [] = some [] := rfl
  simp [Document.entries?, hstart, addSection_first hkeys, Node.toEntries, Node.toValue,
    toEntries_toNodes]

/-- A document with one table is read as the entries of its lines. -/
theorem parse?_table (key : WrittenKey) (items : List (WrittenKey × WrittenValue))
    (hkeys : (items.map fun e => e.1.name).Nodup) :
    parse? (written σ (.header [] key (by decide) ::
        items.map fun e => .assignment e.1 e.2)) =
      some [(key.name, .table (items.map fun e => (e.1.name, e.2.value)))] := by
  have hlines : (items.map fun e => WrittenLine.assignment e.1 e.2).map WrittenLine.line =
      (toAssignments (items.map fun e => (e.1.name, e.2.value))).map .assignment := by
    rw [toAssignments, List.map_map, List.map_map, List.map_map]
    rfl
  rw [parse?_written, List.map_cons, hlines, ← entries?_one (by rwa [List.map_map])]
  exact congrArg Document.entries? (ofLines_last_section _ _)

/-- A section and another one in its table. -/
theorem entries?_two {outer key : String} {entries inner : Entries}
    (hkeys : (entries.map Prod.fst).Nodup) (hnew : key ∉ entries.map Prod.fst)
    (hinner : (inner.map Prod.fst).Nodup) :
    Document.entries? ⟨[], [⟨.table [] outer, toAssignments entries⟩,
        ⟨.table [outer] key, toAssignments inner⟩]⟩ =
      some [(outer, .table (entries ++ [(key, .table inner)]))] := by
  have hstart : Nodes.assignAll [] [] = some [] := rfl
  have hsecond : Nodes.addSection [(outer, .table .headed (toNodes entries))]
      ⟨.table [outer] key, toAssignments inner⟩ =
        some [(outer, .table .headed
          (toNodes entries ++ [(key, .table .headed (toNodes inner))]))] :=
    addSection_inner (by rwa [map_fst_toNodes]) hinner
  have hvalue : Node.toEntries (toNodes entries ++ [(key, .table .headed (toNodes inner))]) =
      entries ++ [(key, .table inner)] := by
    rw [toEntries_eq_map, List.map_append, ← toEntries_eq_map, toEntries_toNodes,
      List.map_singleton, Node.toValue, toEntries_toNodes]
  simp [Document.entries?, hstart, addSection_first hkeys, hsecond, Node.toEntries, Node.toValue,
    hvalue]

end GrammarBindings.Toml
