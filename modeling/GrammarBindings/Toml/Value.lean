/-
  GrammarBindings.Toml.Value

  What a TOML document says: values, and tables with their entries in the order
  of the document.
-/
import GrammarBindings.Decimal.Binary64

namespace GrammarBindings.Toml

/-- A value of a TOML document. -/
inductive Value
  | text (s : String)
  | integer (n : Int)
  | float (x : Binary64)
  | boolean (b : Bool)
  /-- A date, a time or both, in their normal spelling. -/
  | moment (spelling : String)
  | array (items : List Value)
  | table (entries : List (String × Value))
  deriving Repr

/-- The entries of a table, in the order of the document. -/
abbrev Entries := List (String × Value)

end GrammarBindings.Toml
