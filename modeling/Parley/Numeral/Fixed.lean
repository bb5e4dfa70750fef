import Parley.Numeral.Binary64
import Parley.Text.Ascii

/-!
# Decimals with a fixed number of places

The exact value of a binary64 number is rounded to a given number of decimal places, a
tie to the even last digit. The sign is written even when every digit is zero.
-/

namespace Parley.Numeral.Binary64

/-- The number with exactly `places` digits after the point, `places` positive. -/
def fixed (places : Nat) (x : Binary64) : List Char :=
  let (a, b) := x.ratio
  let q := roundEven (a * Nat.pow 10 places) b
  let ds := Text.zeroPadded (places + 1) q
  let whole := ds.take (ds.length - places)
  let sign := if x.negative then ['-'] else []
  sign ++ whole ++ '.' :: ds.drop (ds.length - places)

end Parley.Numeral.Binary64
