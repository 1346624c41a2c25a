/-
  GrammarBindings.JniSymbol

  The symbols under which a JVM looks up exported native methods:
  `Java_<package>_<class>_<method>`, where each part is escaped so that the
  whole is a C identifier.
-/

namespace GrammarBindings

namespace JniSymbol

/-! ## Hexadecimal -/

/-- `n` in lowercase hexadecimal, with zeros in front up to `width` digits. -/
def hexPadded (width n : Nat) : List Char :=
  let digits := Nat.toDigits 16 n
  List.replicate (width - digits.length) '0' ++ digits

/-! ## Escaping one part -/

/-- What stands for a character inside a symbol: `_1`, `_2` and `_3` for `_`,
    `;` and `[`, `_0` and at least four hexadecimal digits for a character
    beyond ASCII, and any other character (the dot too) for itself. -/
def escapeChar (c : Char) : List Char :=
  if c = '_' then ['_', '1']
  else if c = ';' then ['_', '2']
  else if c = '[' then ['_', '3']
  else if 0x7F < c.toNat then '_' :: '0' :: hexPadded 4 c.toNat
  else [c]

/-- A name escaped character by character. -/
def escape (name : String) : String :=
  String.ofList (name.toList.flatMap escapeChar)

/-- A package with its parts escaped and its dots turned into underscores.
    Escaping comes first: after it an underscore from the package is `_1`,
    and a bare one separates two parts. -/
def escapePackage (package : String) : String :=
  String.ofList ((escape package).toList.map fun c => if c = '.' then '_' else c)

/-! ## Whole symbols -/

/-- The beginning `Java_<package>_<class>_` that all symbols of a class share. -/
def stem (package className : String) : String :=
  "Java_" ++ escapePackage package ++ "_" ++ escape className ++ "_"

/-- The symbol of one native method of a class. -/
def ofMethod (package className method : String) : String :=
  stem package className ++ escape method

end JniSymbol

end GrammarBindings
