import Parley.Numeral.Binary64
import Parley.Text.Ascii

/-!
# The shortest decimal that reads back

A binary64 number stands for every real number that rounds to it. Among the decimals in
that interval the one with the fewest digits is its text; among several of that length it
is the one nearest to the number.

The search looks at one, two, … seventeen digits in turn. On each decimal grid only the
two neighbours of the number can be the nearest point in the interval, so only those two
are tried. All comparisons are between natural numbers.
-/

namespace Parley.Numeral

/-- A positive decimal `digits * 10 ^ power`. -/
structure Decimal where
  /-- The digits as one natural number. -/
  digits : Nat
  /-- The power of ten. -/
  power : Int
  deriving DecidableEq, Repr

namespace Decimal

/-- `digits * 10 ^ power` as a quotient. -/
def ratio (d : Decimal) : Nat × Nat :=
  if 0 ≤ d.power then (d.digits * Nat.pow 10 d.power.toNat, 1)
  else (d.digits, Nat.pow 10 (-d.power).toNat)

/-- Drops zeros at the end of the digits, at most `fuel` of them. -/
def stripZeros : Nat → Decimal → Decimal
  | 0, d => d
  | fuel + 1, d =>
    if d.digits != 0 && d.digits % 10 == 0 then stripZeros fuel ⟨d.digits / 10, d.power + 1⟩
    else d

end Decimal

namespace Binary64

/-- The interval of reals that round to a positive number, as `(low, high)` in units of
`2 ^ (exponent - 2)`. Below a power of two the gap is half as wide. -/
def interval (x : Binary64) : Nat × Nat :=
  let low :=
    if x.significand = Nat.pow 2 52 && x.exponent != minExponent then 4 * x.significand - 1
    else 4 * x.significand - 2
  (low, 4 * x.significand + 2)

/-- A decimal lies in the interval of a positive number. The ends belong to it exactly when
the significand is even. -/
def admits (x : Binary64) (d : Decimal) : Bool :=
  let (low, high) := x.interval
  let (a, b) := d.ratio
  let (n, m) := scaled a b (x.exponent - 2)
  if x.significand % 2 == 0 then low * m ≤ n && n ≤ high * m
  else low * m < n && n < high * m

/-- The number of decimal digits before the point; zero or negative below `0.1`. -/
def decimalOrder (x : Binary64) : Int :=
  let (a, b) := x.ratio
  ((Text.decimal (a * Nat.pow 10 400 / b)).length : Int) - 400

/-- The better of the two grid points around a positive number at `10 ^ power`, if either
lies in its interval. -/
def gridPoint? (x : Binary64) (power : Int) : Option Decimal :=
  let (a, b) := x.ratio
  let (n, d) := if 0 ≤ power then (a, b * Nat.pow 10 power.toNat)
    else (a * Nat.pow 10 (-power).toNat, b)
  let below : Decimal := ⟨n / d, power⟩
  let above : Decimal := ⟨n / d + 1, power⟩
  match x.admits below && below.digits != 0, x.admits above with
  | true, true =>
    let r := 2 * (n % d)
    if r < d || (r == d && below.digits % 2 == 0) then some below else some above
  | true, false => some below
  | false, true => some above
  | false, false => none

/-- Tries the grids with `n`, `n + 1`, … digits, `fuel` of them. -/
def searchGrids (x : Binary64) (order : Int) : Nat → Nat → Option Decimal
  | 0, _ => none
  | fuel + 1, n =>
    match x.gridPoint? (order - n) with
    | some d => some d
    | none => searchGrids x order fuel (n + 1)

/-- The shortest decimal that reads back as the magnitude of a number other than zero. -/
def shortest (x : Binary64) : Decimal :=
  ((searchGrids x.abs (decimalOrder x) 17 1).getD ⟨x.floorAbs, 0⟩).stripZeros 20

end Binary64

end Parley.Numeral
