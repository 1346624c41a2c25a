/-
  GrammarBindings.Decimal.Binary64

  Floating point numbers of 64 bits, exactly: a decimal literal is rounded to
  the nearest number, and a number is written with the fewest digits that are
  rounded back to it.  All arithmetic is on natural numbers.
-/

namespace GrammarBindings

/-- A floating point number of 64 bits. -/
inductive Binary64
  /-- The number `± mantissa * 2 ^ exponent`, with a mantissa below `2 ^ 53`. -/
  | finite (negative : Bool) (mantissa : Nat) (exponent : Int)
  | infinite (negative : Bool)
  | notANumber
  deriving DecidableEq, Repr

namespace Binary64

/-! ## Fractions -/

/-- The fraction `n * base ^ e` as numerator and denominator. -/
def scaled (n base : Nat) (e : Int) : Nat × Nat :=
  (n * Nat.pow base e.toNat, Nat.pow base (-e).toNat)

/-- The natural number nearest to a fraction; of two that are equally near, the
    even one. -/
def roundDiv (num den : Nat) : Nat :=
  let low := num / den
  let rest := 2 * (num % den)
  if rest < den ∨ (rest = den ∧ low % 2 = 0) then low else low + 1

/-! ## Reading -/

/-- The least exponent. -/
def minExponent : Int := -1074

/-- The greatest exponent. -/
def maxExponent : Int := 971

/-- The least mantissa of 53 bits, `2 ^ 52`. -/
def leastFull : Nat := 0x10000000000000

/-- The exponent that gives a positive fraction a mantissa of 53 bits, or the
    least exponent if that is greater. -/
def exponentFor (num den : Nat) : Int :=
  let e : Int := (num.log2 : Int) - (den.log2 : Int) - 53
  let (n, d) := scaled num 2 (-e)
  max minExponent (if n / (d * den) < 2 * leastFull then e else e + 1)

/-- The number nearest to a positive fraction. -/
def ofFraction (negative : Bool) (num den : Nat) : Binary64 :=
  let e := exponentFor num den
  let (n, d) := scaled num 2 (-e)
  let m := roundDiv n (d * den)
  let (m, e) := if m = 2 * leastFull then (leastFull, e + 1) else (m, e)
  if maxExponent < e then infinite negative else finite negative m e

/-- How many digits `n` has in the decimal system. -/
def digitCount (n : Nat) : Nat := (Nat.toDigits 10 n).length

/-- The number nearest to `± digits * 10 ^ scale`.  What has more than 310 digits
    before the point is beyond all numbers, and what begins more than 330 places
    after it is nearest to zero. -/
def ofDecimal (negative : Bool) (digits : Nat) (scale : Int) : Binary64 :=
  let magnitude : Int := digitCount digits + scale
  if digits = 0 ∨ magnitude < -330 then finite negative 0 minExponent
  else if 310 < magnitude then infinite negative
  else
    let (num, den) := scaled digits 10 scale
    ofFraction negative num den

/-! ## The fewest digits -/

/-- How many zeros follow the point of a positive fraction below one. -/
def leadingZeros (num den : Nat) : Nat → Nat
  | 0 => 0
  | fuel + 1 => if den ≤ 10 * num then 0 else leadingZeros (10 * num) den fuel + 1

/-- The place of the first digit of a positive fraction: the least `k` with the
    fraction below `10 ^ k`. -/
def firstPlace (num den : Nat) : Int :=
  if den ≤ num then digitCount (num / den) else -(leadingZeros num den 330 : Int)

/-- The fractions that are rounded to a number lie between two bounds.  The value
    and the two bounds are given in quarters of the mantissa's unit; a bound
    itself belongs to the number if the mantissa is even. -/
structure Bounds where
  value : Nat
  lower : Nat
  upper : Nat
  closed : Bool

/-- The bounds of a number.  Below a power of two the numbers lie twice as dense. -/
def bounds (m : Nat) (e : Int) : Bounds where
  value := 4 * m
  lower := if m = leastFull ∧ minExponent < e then 4 * m - 1 else 4 * m - 2
  upper := 4 * m + 2
  closed := m % 2 = 0

/-- Whether `digits * 10 ^ scale` is rounded to the number with these bounds,
    whose quarters are `2 ^ exponent`. -/
def Bounds.holds (b : Bounds) (exponent : Int) (digits : Nat) (scale : Int) : Bool :=
  let (n, d) := scaled digits 10 scale
  let (u, w) := scaled 1 2 exponent
  let x := n * w
  let low := b.lower * u * d
  let high := b.upper * u * d
  if b.closed then low ≤ x && x ≤ high else low < x && x < high

/-- Of the decimals with `count` digits next to a number the one that is rounded
    to it; of two the nearer, and the greater of two that are equally near. -/
def decimalWith (m : Nat) (e : Int) (count : Nat) : Option (Nat × Int) :=
  let b := bounds m e
  let (u, w) := scaled b.value 2 (e - 2)
  let scale := firstPlace u w - count
  let (n, d) := scaled 1 10 scale
  let low := u * d / (w * n)
  let rest := 2 * (u * d % (w * n))
  match b.holds (e - 2) low scale, b.holds (e - 2) (low + 1) scale with
  | true, true => some (if rest < w * n then low else low + 1, scale)
  | true, false => some (low, scale)
  | false, true => some (low + 1, scale)
  | false, false => none

/-- The shortest decimal `digits * 10 ^ scale` that is rounded to a number, which
    has 17 digits at the most. -/
def shortest (m : Nat) (e : Int) : Nat × Int :=
  ((List.range' 1 17).findSome? (decimalWith m e)).getD (m, 0)

/-! ## Writing -/

/-- The digits behind a point: without zeros at the end, but at least one. -/
def fraction (ds : List Char) : List Char :=
  let kept := (ds.reverse.dropWhile (· == '0')).reverse
  if kept = [] then ['0'] else kept

/-- A decimal `digits * 10 ^ scale` with all its places written out, and at
    least one behind the point. -/
def positional (digits : Nat) (scale : Int) : String :=
  let ds := Nat.toDigits 10 digits
  if 0 ≤ scale then
    String.ofList (ds ++ List.replicate scale.toNat '0') ++ ".0"
  else
    let places := (-scale).toNat
    let padded := List.replicate (places + 1 - ds.length) '0' ++ ds
    let whole := padded.length - places
    String.ofList (padded.take whole) ++ "." ++ String.ofList (fraction (padded.drop whole))

/-- A number in decimal: the fewest digits that are rounded back to it, all places
    written out. -/
def text : Binary64 → String
  | finite negative m e =>
    let (digits, scale) := if m = 0 then (0, 0) else shortest m e
    (if negative then "-" else "") ++ positional digits scale
  | infinite negative => if negative then "-inf" else "inf"
  | notANumber => "NaN"

end Binary64

end GrammarBindings
