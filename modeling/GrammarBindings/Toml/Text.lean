/-
  GrammarBindings.Toml.Text

  The four kinds of strings in a TOML document.  Each is read by a machine that
  takes one character at a time, from behind the opening quotes to behind the
  closing ones.
-/

namespace GrammarBindings.Toml

/-- What is read from the front of a text, with the rest; `none` if the text
    does not begin with it. -/
abbrev Reader (α : Type) := List Char → Option (α × List Char)

/-- A result with a list of characters put in front of what was read. -/
def prepend (cs : List Char) (r : Option (List Char × List Char)) :
    Option (List Char × List Char) :=
  r.map fun (read, rest) => (cs ++ read, rest)

/-! ## Characters -/

/-- A character that may stand in a comment or a string: a tab, or no control. -/
def isPlain (c : Char) : Bool := c == '\t' || (0x20 ≤ c.toNat && c.toNat != 0x7F)

/-- A space or a tab. -/
def isBlank (c : Char) : Bool := c == ' ' || c == '\t'

/-- The value of a hexadecimal digit. -/
def hexDigit? (c : Char) : Option Nat :=
  if c.isDigit then some (c.toNat - '0'.toNat)
  else if 'a' ≤ c ∧ c ≤ 'f' then some (c.toNat - 'a'.toNat + 10)
  else if 'A' ≤ c ∧ c ≤ 'F' then some (c.toNat - 'A'.toNat + 10)
  else none

/-- The character with a code point, unless no character has it. -/
def charOf? (n : Nat) : Option Char :=
  if h : n.isValidChar then some (Char.ofNatAux n h) else none

/-- The character that a one-letter escape stands for. -/
def shortEscape? : Char → Option Char
  | 'b' => some '\x08'
  | 't' => some '\t'
  | 'n' => some '\n'
  | 'f' => some '\x0c'
  | 'r' => some '\r'
  | '"' => some '"'
  | '\\' => some '\\'
  | _ => none

/-- How many hexadecimal digits follow the letter of an escape by number. -/
def numberEscape? : Char → Option Nat
  | 'u' => some 4
  | 'U' => some 8
  | _ => none

/-! ## Strings on one line -/

/-- Where a machine stands in a string with escapes on one line. -/
inductive LineState
  /-- Between characters. -/
  | plain
  /-- Behind a backslash. -/
  | escape
  /-- In an escape by number, with digits still to come. -/
  | number (missing value : Nat)
  deriving DecidableEq, Repr

/-- Reads a string with escapes on one line, up to its closing quote. -/
def basicLine : LineState → Reader (List Char)
  | _, [] => none
  | .plain, c :: cs =>
    if c = '"' then some ([], cs)
    else if c = '\\' then basicLine .escape cs
    else if isPlain c then prepend [c] (basicLine .plain cs)
    else none
  | .escape, c :: cs =>
    match shortEscape? c, numberEscape? c with
    | some e, _ => prepend [e] (basicLine .plain cs)
    | none, some digits => basicLine (.number digits 0) cs
    | none, none => none
  | .number missing value, c :: cs =>
    match hexDigit? c with
    | none => none
    | some d =>
      if 1 < missing then basicLine (.number (missing - 1) (16 * value + d)) cs
      else
        match charOf? (16 * value + d) with
        | some e => prepend [e] (basicLine .plain cs)
        | none => none

/-- Reads a string without escapes on one line, up to its closing quote. -/
def literalLine : Reader (List Char)
  | [] => none
  | c :: cs =>
    if c = '\'' then some ([], cs)
    else if isPlain c then prepend [c] (literalLine cs)
    else none

/-! ## Strings over several lines -/

/-- Where a machine stands in a string over several lines. -/
inductive BlockState
  /-- Behind a number of quotes that may turn out to close the string; with
      `skip`, white space is left out. -/
  | plain (quotes : Nat) (skip : Bool)
  /-- Behind a carriage return, which has to be followed by a line feed. -/
  | lineFeed (skip : Bool)
  /-- Behind a backslash. -/
  | escape
  /-- Behind a backslash and white space, which have to be followed by the end
      of the line. -/
  | gap
  /-- In an escape by number, with digits still to come. -/
  | number (missing value : Nat)
  deriving DecidableEq, Repr

/-- Reads a string over several lines, up to its three closing quotes; up to two
    quotes before these belong to the string.  Ends of lines read as line feeds.
    With `escapes`, a backslash begins an escape, and one at the end of a line
    leaves out all white space up to the next character. -/
def block (quote : Char) (escapes : Bool) : BlockState → Reader (List Char)
  | .plain quotes _, [] =>
    if 3 ≤ quotes then some (List.replicate (quotes - 3) quote, []) else none
  | _, [] => none
  | .plain quotes skip, c :: cs =>
    if c = quote then
      if quotes = 5 then none else block quote escapes (.plain (quotes + 1) false) cs
    else if 3 ≤ quotes then some (List.replicate (quotes - 3) quote, c :: cs)
    else
      prepend (List.replicate quotes quote) <|
        if c = '\r' then block quote escapes (.lineFeed skip) cs
        else if skip ∧ (isBlank c ∨ c = '\n') then block quote escapes (.plain 0 true) cs
        else if c = '\n' then prepend [c] (block quote escapes (.plain 0 false) cs)
        else if escapes ∧ c = '\\' then block quote escapes .escape cs
        else if isPlain c then prepend [c] (block quote escapes (.plain 0 false) cs)
        else none
  | .lineFeed skip, c :: cs =>
    if c ≠ '\n' then none
    else if skip then block quote escapes (.plain 0 true) cs
    else prepend ['\n'] (block quote escapes (.plain 0 false) cs)
  | .escape, c :: cs =>
    if isBlank c then block quote escapes .gap cs
    else if c = '\n' then block quote escapes (.plain 0 true) cs
    else if c = '\r' then block quote escapes (.lineFeed true) cs
    else
      match shortEscape? c, numberEscape? c with
      | some e, _ => prepend [e] (block quote escapes (.plain 0 false) cs)
      | none, some digits => block quote escapes (.number digits 0) cs
      | none, none => none
  | .gap, c :: cs =>
    if isBlank c then block quote escapes .gap cs
    else if c = '\n' then block quote escapes (.plain 0 true) cs
    else if c = '\r' then block quote escapes (.lineFeed true) cs
    else none
  | .number missing value, c :: cs =>
    match hexDigit? c with
    | none => none
    | some d =>
      if 1 < missing then block quote escapes (.number (missing - 1) (16 * value + d)) cs
      else
        match charOf? (16 * value + d) with
        | some e => prepend [e] (block quote escapes (.plain 0 false) cs)
        | none => none

/-- A text without the end of a line at its front. -/
def dropLineEnd : List Char → List Char
  | '\n' :: cs => cs
  | '\r' :: '\n' :: cs => cs
  | cs => cs

/-! ## Strings with their quotes -/

/-- What was read, as a text. -/
def asText (r : Option (List Char × List Char)) : Option (String × List Char) :=
  r.map fun (read, rest) => (String.ofList read, rest)

/-- Reads a string on one line from its opening quote on. -/
def lineText : Reader String
  | '"' :: cs => asText (basicLine .plain cs)
  | '\'' :: cs => asText (literalLine cs)
  | _ => none

/-- Reads a string of any kind from its opening quotes on.  The end of a line
    right behind three quotes does not count. -/
def anyText : Reader String
  | '"' :: '"' :: '"' :: cs =>
    asText (block '"' true (.plain 0 false) (dropLineEnd cs))
  | '\'' :: '\'' :: '\'' :: cs =>
    asText (block '\'' false (.plain 0 false) (dropLineEnd cs))
  | cs => lineText cs

end GrammarBindings.Toml
