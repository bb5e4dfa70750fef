import Parley.Text.Ascii

/-!
# Whole numbers of a fixed range, read from text

A setting, a typed argument or a quoted identifier is a whole number of a stated range.
A reading either yields the number or says in which of four ways the text fails. The
grammar is an optional sign followed by one or more decimal digits; a minus sign is
part of it only where the range holds negative numbers.

Which complaint a text gets is decided from the left: digits are added one by one, so
`99999999999x` is too large before it is malformed, unless it is too short to leave the
range.
-/

namespace Parley.Numeral

/-- The range of a whole number. -/
structure Range where
  /-- The least number of the range. -/
  least : Int
  /-- The greatest number of the range. -/
  greatest : Int
  deriving DecidableEq, Repr

namespace Range

/-- Whole numbers of 32 bits without sign. -/
def word32 : Range := ⟨0, 4294967295⟩

/-- Whole numbers of 64 bits without sign. -/
def word64 : Range := ⟨0, 18446744073709551615⟩

/-- Whole numbers of 64 bits with a sign. -/
def int64 : Range := ⟨-9223372036854775808, 9223372036854775807⟩

/-- The number lies in the range. -/
def holds (r : Range) (i : Int) : Bool := r.least ≤ i && i ≤ r.greatest

end Range

/-- Why a text is not a whole number of a range. -/
inductive Misreading
  /-- There is nothing to read. -/
  | empty
  /-- A character is not a digit, or there is only a sign. -/
  | invalidDigit
  /-- The number lies above the range. -/
  | tooLarge
  /-- The number lies below the range. -/
  | tooSmall
  deriving DecidableEq, Repr

/-- The wording of a misreading. -/
def Misreading.message : Misreading → String
  | .empty => "cannot parse integer from empty string"
  | .invalidDigit => "invalid digit found in string"
  | .tooLarge => "number too large to fit in target type"
  | .tooSmall => "number too small to fit in target type"

/-- Adds digits one after another, upwards or downwards, as long as the range holds. -/
def addDigits (r : Range) (down : Bool) : Int → List Char → Except Misreading Int
  | n, [] => .ok n
  | n, c :: cs =>
    if !Text.isDigit c then .error .invalidDigit
    else
      let d : Int := Text.digitValue c
      let next := if down then n * 10 - d else n * 10 + d
      if r.holds next then addDigits r down next cs
      else .error (if down then .tooSmall else .tooLarge)

/-- Reads a whole number of the range. -/
def readWhole (r : Range) : List Char → Except Misreading Int
  | [] => .error .empty
  | ['+'] => .error .invalidDigit
  | ['-'] => .error .invalidDigit
  | '+' :: cs => addDigits r false 0 cs
  | '-' :: cs => if r.least < 0 then addDigits r true 0 cs else .error .invalidDigit
  | cs => addDigits r false 0 cs

/-- The number a text denotes, if it denotes one of the range. -/
def whole? (r : Range) (s : String) : Option Int := (readWhole r s.toList).toOption

end Parley.Numeral
