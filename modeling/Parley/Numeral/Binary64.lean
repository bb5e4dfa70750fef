/-!
# Binary floating point, exactly

A finite binary64 number is kept as what it is: a sign, a significand below `2 ^ 53` and
a power of two. Nothing here rests on machine arithmetic. Every operation first forms the
exact result as a quotient of natural numbers and then rounds it once, to the nearest
number with ties to the even significand, which is `Binary64.ofRatio`. A result too large
for the format has no value, since no caller has a use for infinities.
-/

namespace Parley.Numeral

/-- A finite binary64 number: `significand * 2 ^ exponent`, negated if `negative`. Zero has
significand zero and, like every number below `2 ^ (-1022)`, exponent `-1074`. -/
structure Binary64 where
  /-- The number carries a minus sign; zero may carry one too. -/
  negative : Bool
  /-- A natural number below `2 ^ 53`. -/
  significand : Nat
  /-- The power of two that scales the significand, from `-1074` to `971`. -/
  exponent : Int
  deriving DecidableEq, Repr, Inhabited

namespace Binary64

/-- The least exponent. -/
def minExponent : Int := -1074

/-- The greatest exponent. -/
def maxExponent : Int := 971

/-- Positive zero. -/
def zero : Binary64 := ⟨false, 0, minExponent⟩

/-- The number is a zero of either sign. -/
def isZero (x : Binary64) : Bool := x.significand == 0

/-- `num / (den * 2 ^ e)` as a quotient of natural numbers. -/
def scaled (num den : Nat) (e : Int) : Nat × Nat :=
  if 0 ≤ e then (num, den * Nat.pow 2 e.toNat) else (num * Nat.pow 2 (-e).toNat, den)

/-- A quotient rounded to the nearest natural number, a tie to the even one. -/
def roundEven (num den : Nat) : Nat :=
  let q := num / den
  let r := num % den
  if 2 * r < den then q
  else if den < 2 * r then q + 1
  else if q % 2 = 0 then q else q + 1

/-- The exponent at which a positive quotient has a significand of 53 bits, or the least
exponent if that is greater. -/
def fitExponent (num den : Nat) : Int :=
  let guess : Int := (Nat.log2 num : Int) - (Nat.log2 den : Int) - 52
  let (n, d) := scaled num den guess
  let e := if n < d * Nat.pow 2 52 then guess - 1 else guess
  max e minExponent

/-- The number nearest to a quotient, ties to even; nothing if it is out of range. -/
def ofRatio (negative : Bool) (num den : Nat) : Option Binary64 :=
  if num = 0 || den = 0 then some ⟨negative, 0, minExponent⟩
  else
    let e := fitExponent num den
    let (n, d) := scaled num den e
    let m := roundEven n d
    let (m, e) := if m = Nat.pow 2 53 then (Nat.pow 2 52, e + 1) else (m, e)
    if maxExponent < e then none else some ⟨negative, m, e⟩

/-- The magnitude as a quotient of natural numbers. -/
def ratio (x : Binary64) : Nat × Nat :=
  if 0 ≤ x.exponent then (x.significand * Nat.pow 2 x.exponent.toNat, 1)
  else (x.significand, Nat.pow 2 (-x.exponent).toNat)

/-- The number nearest to an integer below `2 ^ 1000` in magnitude. -/
def ofInt (i : Int) : Binary64 := (ofRatio (i < 0) i.natAbs 1).getD zero

/-- The number nearest to a power of ten with a natural exponent. -/
def tenPower (k : Nat) : Option Binary64 := ofRatio false (Nat.pow 10 k) 1

/-- The product, rounded once. -/
def mul (x y : Binary64) : Option Binary64 :=
  let (a, b) := x.ratio
  let (c, d) := y.ratio
  ofRatio (x.negative != y.negative) (a * c) (b * d)

/-- The quotient by a number other than zero, rounded once. -/
def div (x y : Binary64) : Option Binary64 :=
  let (a, b) := x.ratio
  let (c, d) := y.ratio
  if c = 0 then none else ofRatio (x.negative != y.negative) (a * d) (b * c)

/-- The number without its sign. -/
def abs (x : Binary64) : Binary64 := ⟨false, x.significand, x.exponent⟩

/-- The number with the other sign. -/
def neg (x : Binary64) : Binary64 := ⟨!x.negative, x.significand, x.exponent⟩

/-- Comparison of magnitudes. -/
def absLt (x y : Binary64) : Bool :=
  let (a, b) := x.ratio
  let (c, d) := y.ratio
  a * d < c * b

/-- The number has no fractional part. -/
def isWhole (x : Binary64) : Bool :=
  let (a, b) := x.ratio
  a % b == 0

/-- The magnitude rounded down. -/
def floorAbs (x : Binary64) : Nat :=
  let (a, b) := x.ratio
  a / b

/-- The magnitude rounded to the nearest natural number, a half upwards. -/
def roundAbs (x : Binary64) : Nat :=
  let (a, b) := x.ratio
  (2 * a + b) / (2 * b)

end Binary64

end Parley.Numeral
