/-
  GrammarBindings.Text.Quoted

  Texts quoted for messages: between double quotes, with quotes, backslashes
  and everything that would not show on its own escaped.
-/
import GrammarBindings.Text.Hidden

namespace GrammarBindings

namespace Quoted

/-- What stands for a character between the quotes: a short escape, a number in
    braces for a hidden character, or the character itself. -/
def escapeChar (c : Char) : List Char :=
  if c = '"' then ['\\', '"']
  else if c = '\\' then ['\\', '\\']
  else if c = '\n' then ['\\', 'n']
  else if c = '\r' then ['\\', 'r']
  else if c = '\t' then ['\\', 't']
  else if c = '\x00' then ['\\', '0']
  else if isHidden c then ['\\', 'u', '\x7b'] ++ Nat.toDigits 16 c.toNat ++ ['\x7d']
  else [c]

/-- The characters between the quotes. -/
def body (s : List Char) : List Char := s.flatMap escapeChar

end Quoted

/-- A text between double quotes, escaped so that it shows on one line. -/
def quoted (s : String) : String :=
  String.ofList ('"' :: Quoted.body s.toList ++ ['"'])

end GrammarBindings
