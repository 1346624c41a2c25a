/-
  GrammarBindings.Toml.Scalar

  The values of a TOML document that are written as one bare word: booleans,
  integers, floating point numbers, dates and times.
-/
import GrammarBindings.Toml.Text
import GrammarBindings.Toml.Value

namespace GrammarBindings.Toml

/-! ## Digits -/

/-- The number that a list of digits spells. -/
def ofDigits (base : Nat) (ds : List Nat) : Nat := ds.foldl (fun n d => base * n + d) 0

/-- The values of digits of a base. -/
def digitsOf? (base : Nat) (cs : List Char) : Option (List Nat) :=
  cs.mapM fun c => (hexDigit? c).filter (· < base)

/-- The digits of a word in which single underscores may stand between digits. -/
def groupedDigits? (base : Nat) (cs : List Char) : Option (List Nat) := do
  let groups ← (cs.splitOn '_').mapM fun g =>
    if g = [] then none else digitsOf? base g
  return groups.flatten

/-- A sign taken off a word; `true` for a minus. -/
def splitSign : List Char → Bool × List Char
  | '+' :: cs => (false, cs)
  | '-' :: cs => (true, cs)
  | cs => (false, cs)

/-- The digits of a whole number in decimal, which begins with a zero only if it
    is zero. -/
def wholeDigits? (cs : List Char) : Option (List Nat) := do
  let ds ← groupedDigits? 10 cs
  if 1 < ds.length ∧ ds.head? = some 0 then none else some ds

/-! ## Integers -/

/-- The least number that is too great for 64 bits with a sign. -/
def integerBound : Int := 0x8000000000000000

/-- An integer that 64 bits can hold. -/
def inRange? (n : Int) : Option Int :=
  if -integerBound ≤ n ∧ n < integerBound then some n else none

/-- An integer: in decimal with a sign if need be, or after `0x`, `0o` or `0b` in
    the base that these stand for. -/
def integer? : List Char → Option Int
  | '0' :: 'x' :: cs => do inRange? (ofDigits 16 (← groupedDigits? 16 cs))
  | '0' :: 'o' :: cs => do inRange? (ofDigits 8 (← groupedDigits? 8 cs))
  | '0' :: 'b' :: cs => do inRange? (ofDigits 2 (← groupedDigits? 2 cs))
  | cs => do
    let (negative, cs) := splitSign cs
    let n := ofDigits 10 (← wholeDigits? cs)
    inRange? (if negative then -(n : Int) else n)

/-! ## Floating point numbers -/

/-- A number spelled by digits on both sides of a point and an exponent. -/
def floatOf (negative : Bool) (whole behind : List Nat) (exponent : Int) : Binary64 :=
  .ofDecimal negative (ofDigits 10 (whole ++ behind)) (exponent - behind.length)

/-- The exponent of a floating point number, behind its letter. -/
def exponent? (cs : List Char) : Option Int := do
  let (negative, cs) := splitSign cs
  let n := ofDigits 10 (← groupedDigits? 10 cs)
  return if negative then -(n : Int) else n

/-- A word cut at the first of some characters: what stands before it, and what
    behind it if it occurs. -/
def cutAt (p : Char → Bool) (cs : List Char) : List Char × Option (List Char) :=
  match cs.dropWhile (!p ·) with
  | [] => (cs, none)
  | _ :: rest => (cs.takeWhile (!p ·), some rest)

/-- A finite floating point number: digits with a point, an exponent or both. -/
def decimalFloat? (negative : Bool) (cs : List Char) : Option Binary64 := do
  let (mantissa, power) := cutAt (fun c => c == 'e' || c == 'E') cs
  let (whole, behind) := cutAt (· == '.') mantissa
  if power = none ∧ behind = none then none
  else
    let whole ← wholeDigits? whole
    let behind ← match behind with
      | some ds => groupedDigits? 10 ds
      | none => some []
    let power ← match power with
      | some e => exponent? e
      | none => some 0
    return floatOf negative whole behind power

/-- A floating point number.  One that lies beyond the greatest is refused; one
    beyond the least counts as infinite. -/
def float? (cs : List Char) : Option Binary64 :=
  let (negative, cs) := splitSign cs
  if cs = ['i', 'n', 'f'] then some (.infinite negative)
  else if cs = ['n', 'a', 'n'] then some .notANumber
  else (decimalFloat? negative cs).filter (· ≠ .infinite false)

/-! ## Dates and times -/

/-- A number of exactly `count` decimal digits at the front of a word. -/
def fixedDigits (count : Nat) : Reader Nat := fun cs => do
  let ds ← digitsOf? 10 (cs.take count)
  if ds.length = count then some (ofDigits 10 ds, cs.drop count) else none

/-- A number of two digits between two bounds. -/
def twoDigits (least greatest : Nat) : Reader Nat := fun cs => do
  let (n, cs) ← fixedDigits 2 cs
  if least ≤ n ∧ n ≤ greatest then some (n, cs) else none

/-- A character that has to stand at the front of a word. -/
def expect (c : Char) : List Char → Option (List Char)
  | [] => none
  | d :: cs => if d = c then some cs else none

/-- How many days a month of a year has. -/
def daysIn (year month : Nat) : Nat :=
  let leap := year % 4 = 0 ∧ (year % 100 ≠ 0 ∨ year % 400 = 0)
  if month = 2 then (if leap then 29 else 28)
  else if month = 4 ∨ month = 6 ∨ month = 9 ∨ month = 11 then 30
  else 31

/-- A number in decimal with zeros in front up to `width` digits. -/
def padded (width n : Nat) : List Char :=
  let ds := Nat.toDigits 10 n
  List.replicate (width - ds.length) '0' ++ ds

/-- Reads a date, `YYYY-MM-DD`. -/
def date : Reader (List Char) := fun cs => do
  let (year, cs) ← fixedDigits 4 cs
  let (month, cs) ← twoDigits 1 12 (← expect '-' cs)
  let (day, cs) ← twoDigits 1 (daysIn year month) (← expect '-' cs)
  return (padded 4 year ++ '-' :: padded 2 month ++ '-' :: padded 2 day, cs)

/-- Nine places behind the point of a time are kept, and of these no zeros at
    the end. -/
def secondFraction (ds : List Char) : List Char :=
  let kept := ((ds.take 9).reverse.dropWhile (· == '0')).reverse
  if kept = [] then [] else '.' :: kept

/-- Reads a time, `HH:MM:SS` with a fraction of the second if need be. -/
def time : Reader (List Char) := fun cs => do
  let (hour, cs) ← twoDigits 0 23 cs
  let (minute, cs) ← twoDigits 0 59 (← expect ':' cs)
  let (second, cs) ← twoDigits 0 60 (← expect ':' cs)
  let spelled := padded 2 hour ++ ':' :: padded 2 minute ++ ':' :: padded 2 second
  match cs with
  | '.' :: cs =>
    let places := cs.takeWhile Char.isDigit
    if places = [] then none
    else return (spelled ++ secondFraction places, cs.dropWhile Char.isDigit)
  | cs => return (spelled, cs)

/-- The offset of a time, all of a word: `Z` or a sign with hours and minutes.
    No offset at all is written with a plus. -/
def offset? : List Char → Option (List Char)
  | [] => some []
  | ['Z'] => some ['Z']
  | ['z'] => some ['Z']
  | sign :: cs => do
    let (hour, cs) ← twoDigits 0 23 cs
    let (minute, cs) ← twoDigits 0 59 (← expect ':' cs)
    let sign ← if sign = '+' ∨ (sign = '-' ∧ hour = 0 ∧ minute = 0) then some '+'
      else if sign = '-' then some '-' else none
    if cs = [] then some (sign :: padded 2 hour ++ ':' :: padded 2 minute) else none

/-- A time with its offset, all of a word. -/
def timeWithOffset? (cs : List Char) : Option (List Char) := do
  let (spelled, cs) ← time cs
  return spelled ++ (← offset? cs)

/-- A time alone, all of a word. -/
def localTime? (cs : List Char) : Option (List Char) := do
  let (spelled, cs) ← time cs
  if cs = [] then some spelled else none

/-! ## Words -/

/-- A character of a bare word. -/
def isWordChar (c : Char) : Bool :=
  c.isAlphanum || c == '_' || c == '+' || c == '-' || c == '.' || c == ':'

/-- The word at the front of a text, and the rest. -/
def splitWord (cs : List Char) : List Char × List Char :=
  (cs.takeWhile isWordChar, cs.dropWhile isWordChar)

/-- The value that a word stands for, dates excepted. -/
def wordValue? (w : List Char) : Option Value :=
  if w = ['t', 'r', 'u', 'e'] then some (.boolean true)
  else if w = ['f', 'a', 'l', 's', 'e'] then some (.boolean false)
  else ((localTime? w).map fun t => .moment (String.ofList t))
    <|> ((float? w).map .float)
    <|> ((integer? w).map .integer)

/-- Reads a value that is written as one word.  Between a date and a time one
    space may stand for the `T`. -/
def scalar : Reader Value := fun cs => do
  let (word, rest) := splitWord cs
  match date word with
  | none => return (← wordValue? word, rest)
  | some (day, []) =>
    match rest with
    | ' ' :: c :: cs =>
      if c.isDigit then
        let (word, rest) := splitWord (c :: cs)
        return (.moment (String.ofList (day ++ 'T' :: (← timeWithOffset? word))), rest)
      else return (.moment (String.ofList day), rest)
    | rest => return (.moment (String.ofList day), rest)
  | some (day, c :: cs) =>
    if c = 'T' ∨ c = 't' then
      return (.moment (String.ofList (day ++ 'T' :: (← timeWithOffset? cs))), rest)
    else none

end GrammarBindings.Toml
