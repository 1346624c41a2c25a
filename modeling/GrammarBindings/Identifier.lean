/-
  GrammarBindings.Identifier

  Names that the generated sources may declare: identifiers, and dotted
  identifiers for packages.
-/
import GrammarBindings.Text.Letter

namespace GrammarBindings

namespace Identifier

/-! ## Characters of an identifier -/

/-- An identifier starts with a letter or an underscore. -/
def isStart (c : Char) : Bool := c == '_' || isLetter c

/-- It goes on with letters, underscores and the digits `0` to `9`; other
    numeric characters (`²`, `½`, `①`) are not digits here. -/
def isPart (c : Char) : Bool := c == '_' || isLetter c || c.isDigit

theorem isPart_of_isStart {c : Char} (h : isStart c = true) : isPart c = true := by
  simp only [isStart, isPart, Bool.or_eq_true] at h ⊢
  exact Or.inl h

/-- The characters of an identifier: a start, then parts. -/
def accepts : List Char → Bool
  | [] => false
  | c :: cs => isStart c && cs.all isPart

end Identifier

/-! ## Identifiers -/

/-- `s` is one identifier. -/
def isIdentifier (s : String) : Bool := Identifier.accepts s.toList

/-- `s` is one or more identifiers joined by single dots: no part of it
    between two dots, before the first or after the last is empty. -/
def isDottedIdentifier (s : String) : Bool :=
  (s.toList.splitOn '.').all Identifier.accepts

/-! ## Boundary cases -/

theorem isIdentifier_empty : isIdentifier "" = false := rfl

theorem isDottedIdentifier_empty : isDottedIdentifier "" = false := rfl

end GrammarBindings
