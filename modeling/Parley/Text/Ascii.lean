/-!
# Letters and digits of ASCII

Tags, roles, scheme names and numerals are compared without regard to the case of the
twenty-six Latin letters and of no others, so the maps here touch only those.
-/

namespace Parley.Text

/-- One of `0` to `9`. -/
def isDigit (c : Char) : Bool := '0' ≤ c && c ≤ '9'

/-- One of `A` to `Z` or `a` to `z`. -/
def isLetter (c : Char) : Bool := ('a' ≤ c && c ≤ 'z') || ('A' ≤ c && c ≤ 'Z')

/-- A Latin letter or a decimal digit. -/
def isLetterOrDigit (c : Char) : Bool := isLetter c || isDigit c

/-- One of the thirty-two punctuation marks of ASCII. -/
def isAsciiMark (c : Char) : Bool :=
  let n := c.toNat
  (0x21 ≤ n && n ≤ 0x2F) || (0x3A ≤ n && n ≤ 0x40) || (0x5B ≤ n && n ≤ 0x60) ||
    (0x7B ≤ n && n ≤ 0x7E)

/-- Lower case of the Latin capitals; every other character is kept. -/
def lowerChar (c : Char) : Char :=
  if 'A' ≤ c && c ≤ 'Z' then Char.ofNat (c.toNat + 32) else c

/-- Upper case of the small Latin letters; every other character is kept. -/
def upperChar (c : Char) : Char :=
  if 'a' ≤ c && c ≤ 'z' then Char.ofNat (c.toNat - 32) else c

/-- The text with its Latin capitals made small. -/
def lower (s : String) : String := String.ofList (s.toList.map lowerChar)

/-- The text with its small Latin letters made capital. -/
def upper (s : String) : String := String.ofList (s.toList.map upperChar)

/-- The value of a decimal digit, zero for any other character. -/
def digitValue (c : Char) : Nat := if isDigit c then c.toNat - '0'.toNat else 0

/-- The value of a hexadecimal digit. -/
def hexValue? (c : Char) : Option Nat :=
  if isDigit c then some (c.toNat - '0'.toNat)
  else if 'a' ≤ c && c ≤ 'f' then some (c.toNat - 'a'.toNat + 10)
  else if 'A' ≤ c && c ≤ 'F' then some (c.toNat - 'A'.toNat + 10)
  else none

/-- The digit that stands for a value below sixteen, in small letters. -/
def hexDigit (n : Nat) : Char := (Nat.digitChar (n % 16))

/-- The same in capital letters. -/
def hexDigitUpper (n : Nat) : Char := upperChar (hexDigit n)

/-- The decimal digits of a natural number. -/
def decimal (n : Nat) : List Char := Nat.toDigits 10 n

/-- The decimal digits of a natural number, with zeros in front up to `width`. -/
def zeroPadded (width n : Nat) : List Char :=
  let ds := decimal n
  List.replicate (width - ds.length) '0' ++ ds

/-- The decimal text of an integer, with a minus sign when it is negative. -/
def decimalInt (i : Int) : List Char :=
  if i < 0 then '-' :: decimal i.natAbs else decimal i.natAbs

/-- The number that a run of decimal digits denotes. -/
def digitsValue (ds : List Char) : Nat := ds.foldl (fun n c => n * 10 + digitValue c) 0

end Parley.Text
