/-
  GrammarBindings.Toml.Reader

  Reading TOML documents.  A document is read line by line; a value in brackets
  or braces may go on over several.
-/
import GrammarBindings.Toml.Document
import GrammarBindings.Toml.Scalar

namespace GrammarBindings.Toml

/-! ## White space and comments -/

/-- A text without the spaces and tabs at its front. -/
def skipBlanks (cs : List Char) : List Char := cs.dropWhile isBlank

/-- A text without the white space, comments and ends of lines at its front.
    `inComment` says whether the text begins inside a comment. -/
def skipLayout (inComment : Bool) : List Char → List Char
  | [] => []
  | '\n' :: cs => skipLayout false cs
  | '\r' :: '\n' :: cs => skipLayout false cs
  | c :: cs =>
    if inComment then (if isPlain c then skipLayout true cs else c :: cs)
    else if isBlank c then skipLayout false cs
    else if c = '#' then skipLayout true cs
    else c :: cs

/-- The text behind the rest of a line, on which only blanks and a comment may
    stand. -/
def endLine (cs : List Char) : Option (List Char) :=
  let rest := match skipBlanks cs with
    | '#' :: cs => cs.dropWhile isPlain
    | cs => cs
  match rest with
  | [] => some []
  | '\n' :: cs => some cs
  | '\r' :: '\n' :: cs => some cs
  | _ => none

/-! ## Keys -/

/-- A character of a key without quotes. -/
def isBareKeyChar (c : Char) : Bool := c.isAlphanum || c == '_' || c == '-'

/-- Reads one part of a key. -/
def keyPart : Reader String := fun cs =>
  match cs with
  | '"' :: _ => lineText cs
  | '\'' :: _ => lineText cs
  | _ =>
    match cs.takeWhile isBareKeyChar with
    | [] => none
    | name => some (String.ofList name, cs.dropWhile isBareKeyChar)

/-- The greatest number of parts that a key may have.  The limit is the reader's own; TOML
    has none. -/
def maxKeyParts : Nat := 79

/-- Reads a key of at most so many parts with dots between them, and the blanks
    around it: the parts before the last, and the last. -/
def dottedKey : Nat → Reader (List String × String)
  | 0, _ => none
  | parts + 1, cs => do
    let (part, cs) ← keyPart (skipBlanks cs)
    match skipBlanks cs with
    | '.' :: cs =>
      let ((path, key), cs) ← dottedKey parts cs
      return ((part :: path, key), cs)
    | cs => return (([], part), cs)

/-! ## Values -/

/-- Reads a key, an equals sign and a value, and the blanks around them. -/
def assignment (item : Reader Value) : Reader Assignment := fun cs => do
  let ((path, key), cs) ← dottedKey maxKeyParts cs
  let (v, cs) ← item (skipBlanks (← expect '=' cs))
  return (⟨path, key, v⟩, skipBlanks cs)

/-- Reads at most so many values with commas between them, up to the closing
    bracket.  A comma may stand behind the last one. -/
def bracketed (item : Reader Value) : Nat → Reader (List Value)
  | 0, _ => none
  | fuel + 1, cs =>
    match skipLayout false cs with
    | ']' :: cs => some ([], cs)
    | cs => do
      let (v, cs) ← item cs
      match skipLayout false cs with
      | ',' :: cs =>
        let (vs, cs) ← bracketed item fuel cs
        return (v :: vs, cs)
      | ']' :: cs => return ([v], cs)
      | _ => none

/-- Reads at most so many keys with their values and commas between them, up to
    the closing brace. -/
def braced (item : Reader Value) : Nat → Reader (List Assignment)
  | 0, _ => none
  | fuel + 1, cs => do
    let (line, cs) ← assignment item cs
    match cs with
    | ',' :: cs =>
      let (lines, cs) ← braced item fuel cs
      return (line :: lines, cs)
    | '}' :: cs => return ([line], cs)
    | _ => none

/-- Reads a value without brackets and braces around it. -/
def atom : Reader Value := fun cs =>
  match cs with
  | '"' :: _ => (anyText cs).map fun (s, rest) => (.text s, rest)
  | '\'' :: _ => (anyText cs).map fun (s, rest) => (.text s, rest)
  | _ => scalar cs

/-- Reads a value in which brackets and braces are at most so many deep. -/
def value : Nat → Reader Value
  | 0 => atom
  | depth + 1 => fun cs =>
    match cs with
    | '[' :: cs => do
      let (vs, cs) ← bracketed (value depth) (cs.length + 1) cs
      return (.array vs, cs)
    | '{' :: cs =>
      match skipBlanks cs with
      | '}' :: cs => some (.table [], cs)
      | cs => do
        let (lines, cs) ← braced (value depth) (cs.length + 1) cs
        return (← inlineTable? lines, cs)
    | cs => atom cs

/-- How deep brackets and braces may be nested.  This limit, too, is the reader's own. -/
def maxDepth : Nat := 79

/-! ## Lines -/

/-- A line of a document. -/
inductive Line
  | blank
  | header (h : Header)
  | assignment (a : Assignment)

/-- Reads a line, its end included. -/
def line : Reader Line := fun cs =>
  match skipBlanks cs with
  | '[' :: '[' :: cs => do
    let ((path, key), cs) ← dottedKey maxKeyParts cs
    let cs ← endLine (← expect ']' (← expect ']' cs))
    return (.header (.element path key), cs)
  | '[' :: cs => do
    let ((path, key), cs) ← dottedKey maxKeyParts cs
    let cs ← endLine (← expect ']' cs)
    return (.header (.table path key), cs)
  | cs =>
    match endLine cs with
    | some cs => some (.blank, cs)
    | none => do
      let (a, cs) ← assignment (value maxDepth) cs
      return (.assignment a, ← endLine cs)

/-- Reads lines to the end of a text, at most so many. -/
def readLines : Nat → List Char → Option (List Line)
  | _, [] => some []
  | 0, _ => none
  | fuel + 1, cs => do
    let (l, cs) ← line cs
    return l :: (← readLines fuel cs)

/-- The document that lines make up. -/
def Document.ofLines : List Line → Document
  | [] => ⟨[], []⟩
  | .blank :: ls => ofLines ls
  | .assignment a :: ls =>
    let d := ofLines ls
    { d with lines := a :: d.lines }
  | .header h :: ls =>
    let d := ofLines ls
    ⟨[], ⟨h, d.lines⟩ :: d.sections⟩

/-! ## Documents -/

/-- A text without the mark that may stand at the front of a file. -/
def dropByteOrderMark : List Char → List Char
  | '\uFEFF' :: cs => cs
  | cs => cs

/-- The entries of a document, in its order; `none` if the text is no TOML, or if it goes
    beyond the limits of the reader, `maxKeyParts` and `maxDepth`. -/
def parse? (text : String) : Option Entries := do
  let cs := dropByteOrderMark text.toList
  (Document.ofLines (← readLines cs.length cs)).entries?

end GrammarBindings.Toml
