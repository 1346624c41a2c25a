/-
  GrammarBindings.Template

  Templates: texts with placeholders `@NAME@`.  One left-to-right scan cuts a
  text into characters and slots; rendering puts a value in each slot.
-/

namespace GrammarBindings

namespace Template

/-! ## Cutting a text -/

/-- A character of a placeholder's name: an ASCII letter or digit, or `_`. -/
def isNameChar (c : Char) : Bool := c.isAlphanum || c == '_'

/-- A piece of a cut text. -/
inductive Piece
  /-- A character that stands for itself. -/
  | char (c : Char)
  /-- A placeholder, by its name. -/
  | slot (name : List Char)
  deriving DecidableEq, Repr

/-- The pieces for a marker that opened no slot and the name read behind it. -/
def plainMarker (name : List Char) : List Piece := ('@' :: name).map .char

mutual

/-- Cuts a text into pieces.  `accepts` says of a name between two markers
    whether it makes a slot.  The closing marker of a slot belongs to it; that
    of a name which is not accepted may open the next placeholder. -/
def cut (accepts : List Char → Bool) : List Char → List Piece
  | [] => []
  | c :: cs => if c = '@' then cutName accepts [] cs else .char c :: cut accepts cs

/-- Cuts the text behind an opening marker of which `name` has been read. -/
def cutName (accepts : List Char → Bool) (name : List Char) : List Char → List Piece
  | [] => plainMarker name
  | c :: cs =>
    if c = '@' then
      if name ≠ [] ∧ accepts name then .slot name :: cut accepts cs
      else plainMarker name ++ cutName accepts [] cs
    else if isNameChar c then cutName accepts (name ++ [c]) cs
    else plainMarker name ++ .char c :: cut accepts cs

end

/-! ## Rendering -/

/-- Values for names; the first value for a name counts. -/
abbrev Substitution := List (String × String)

/-- The value for a name. -/
def Substitution.value? (subs : Substitution) (name : List Char) : Option String :=
  List.lookup (String.ofList name) subs

/-- The text for a piece. -/
def Piece.render (subs : Substitution) : Piece → List Char
  | char c => [c]
  | slot name => ((subs.value? name).getD "").toList

/-- The template with the value of its name in place of each placeholder that
    has one.  All else is copied, and a value is not scanned again. -/
def render (template : String) (subs : Substitution) : String :=
  let pieces := cut (fun name => (subs.value? name).isSome) template.toList
  String.ofList (pieces.flatMap (Piece.render subs))

/-! ## Placeholders of a text -/

/-- The name of a slot. -/
def Piece.name? : Piece → Option String
  | char _ => none
  | slot name => some (String.ofList name)

/-- The names of all placeholders of a text, each once, in alphabetical order. -/
def placeholders (template : String) : List String :=
  let names := (cut (fun _ => true) template.toList).filterMap Piece.name?
  names.eraseDups.mergeSort (fun a b => decide (a ≤ b))

end Template

end GrammarBindings
