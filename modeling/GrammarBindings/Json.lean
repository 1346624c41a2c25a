/-
  GrammarBindings.Json

  JSON values and their two spellings: on one line, and over several lines with
  two blanks for each level.
-/

namespace GrammarBindings

/-- A JSON value of the kinds that reports are made of. -/
inductive Json
  | bool (b : Bool)
  | text (s : String)
  | array (items : List Json)
  | object (fields : List (String × Json))

namespace Json

/-- An object with its fields in the order of their names. -/
def sorted (fields : List (String × Json)) : Json :=
  object (fields.mergeSort fun a b => a.1 ≤ b.1)

/-! ## Texts -/

/-- The digit for a number below 16. -/
def hexDigit (n : Nat) : Char :=
  if n < 10 then Char.ofNat (0x30 + n) else Char.ofNat (0x57 + n)

/-- A character of a text as it is written: quotes, backslashes and control
    characters below the blank are escaped. -/
def escapeChar (c : Char) : String :=
  match c with
  | '"' => "\\\""
  | '\\' => "\\\\"
  | '\n' => "\\n"
  | '\r' => "\\r"
  | '\t' => "\\t"
  | '\x08' => "\\b"
  | '\x0c' => "\\f"
  | _ =>
    if c.toNat < 0x20 then
      "\\u00" ++ String.ofList [hexDigit (c.toNat / 16), hexDigit (c.toNat % 16)]
    else String.singleton c

/-- A text between quotes. -/
def quote (s : String) : String :=
  "\"" ++ String.join (s.toList.map escapeChar) ++ "\""

/-! ## One line -/

mutual

/-- A value on one line, without blanks. -/
def compact : Json → String
  | bool b => if b then "true" else "false"
  | text s => quote s
  | array items => "[" ++ ",".intercalate (compactItems items) ++ "]"
  | object fields => "\x7b" ++ ",".intercalate (compactFields fields) ++ "\x7d"

/-- The items of an array, each on one line. -/
def compactItems : List Json → List String
  | [] => []
  | v :: vs => v.compact :: compactItems vs

/-- The fields of an object, each on one line. -/
def compactFields : List (String × Json) → List String
  | [] => []
  | (name, v) :: fs => (quote name ++ ":" ++ v.compact) :: compactFields fs

end

/-! ## Several lines -/

/-- A new line, moved in by two blanks for each level. -/
def newline (level : Nat) : String :=
  "\n" ++ String.ofList (List.replicate (2 * level) ' ')

/-- Parts between brackets, each on a line of its own; nothing is put between the
    brackets if there are no parts. -/
def block (left right : String) (level : Nat) (parts : List String) : String :=
  match parts with
  | [] => left ++ right
  | _ => left ++ ",".intercalate (parts.map (newline (level + 1) ++ ·)) ++
    newline level ++ right

mutual

/-- A value over several lines, the first of which has been moved in already. -/
def prettyAt (level : Nat) : Json → String
  | bool b => if b then "true" else "false"
  | text s => quote s
  | array items => block "[" "]" level (prettyItems (level + 1) items)
  | object fields => block "\x7b" "\x7d" level (prettyFields (level + 1) fields)

/-- The items of an array, each over several lines. -/
def prettyItems (level : Nat) : List Json → List String
  | [] => []
  | v :: vs => v.prettyAt level :: prettyItems level vs

/-- The fields of an object, each over several lines. -/
def prettyFields (level : Nat) : List (String × Json) → List String
  | [] => []
  | (name, v) :: fs => (quote name ++ ": " ++ v.prettyAt level) :: prettyFields level fs

end

/-- A value over several lines. -/
def pretty (v : Json) : String := v.prettyAt 0

end Json

end GrammarBindings
