import Parley.Json.Value
import Parley.Text.Ascii

/-!
# JSON text

Values are written without blanks, fields in the order in which they are listed. In a
string only the quotation mark, the backslash and the characters below U+0020 are
escaped, five of the latter by a letter and the others by four small hexadecimal digits.

A real number is written with the fewest digits that read back. It stands in positional
notation, always with a fraction, from `10 ^ -5` up to `10 ^ 16`, and otherwise with one
digit before the point and a signed exponent.
-/

namespace Parley.Json

open Numeral

/-- The written form of one character of a string. -/
def escape (c : Char) : List Char :=
  if c = '"' then ['\\', '"']
  else if c = '\\' then ['\\', '\\']
  else if c.toNat = 0x08 then ['\\', 'b']
  else if c.toNat = 0x0C then ['\\', 'f']
  else if c = '\n' then ['\\', 'n']
  else if c = '\r' then ['\\', 'r']
  else if c = '\t' then ['\\', 't']
  else if c.toNat < 0x20 then
    ['\\', 'u', '0', '0', Text.hexDigit (c.toNat / 16), Text.hexDigit c.toNat]
  else [c]

/-- A string in quotation marks. -/
def quoted (s : String) : List Char := '"' :: s.toList.flatMap escape ++ ['"']

/-- Positional notation is used for decimal orders in this range. -/
def positionalOrders : Int × Int := (-4, 16)

/-- The text of `digits * 10 ^ power`. -/
def writeDecimal (d : Decimal) : List Char :=
  let ds := Text.decimal d.digits
  let order : Int := ds.length + d.power
  if positionalOrders.1 ≤ order && order ≤ positionalOrders.2 then
    if order ≤ 0 then '0' :: '.' :: List.replicate (-order).toNat '0' ++ ds
    else if 0 ≤ d.power then ds ++ List.replicate d.power.toNat '0' ++ ['.', '0']
    else ds.take order.toNat ++ '.' :: ds.drop order.toNat
  else
    let e := order - 1
    let mark := if e < 0 then ['e', '-'] else ['e', '+']
    let fraction := if ds.length ≤ 1 then [] else '.' :: ds.drop 1
    ds.take 1 ++ fraction ++ mark ++ Text.decimal e.natAbs

/-- The text of a real number. -/
def writeReal (x : Binary64) : List Char :=
  let body := if x.isZero then ['0', '.', '0'] else writeDecimal x.shortest
  if x.negative then '-' :: body else body

/-- The text of a number. -/
def Number.chars : Number → List Char
  | .integer i => Text.decimalInt i
  | .real x => writeReal x

/-- The text of a number. -/
def Number.render (n : Number) : String := String.ofList n.chars

namespace Value

mutual
/-- The compact text of a value. -/
def chars : Value → List Char
  | .null => ['n', 'u', 'l', 'l']
  | .bool true => ['t', 'r', 'u', 'e']
  | .bool false => ['f', 'a', 'l', 's', 'e']
  | .number n => n.chars
  | .string s => quoted s
  | .array [] => ['[', ']']
  | .array (x :: xs) => '[' :: chars x ++ itemsChars xs
  | .object [] => ['{', '}']
  | .object ((k, v) :: fs) => '{' :: quoted k ++ ':' :: chars v ++ fieldsChars fs
/-- The remaining items of an array, each after a comma, and the closing bracket. -/
def itemsChars : List Value → List Char
  | [] => [']']
  | x :: xs => ',' :: chars x ++ itemsChars xs
/-- The remaining fields of an object, each after a comma, and the closing brace. -/
def fieldsChars : List (String × Value) → List Char
  | [] => ['}']
  | (k, v) :: fs => ',' :: quoted k ++ ':' :: chars v ++ fieldsChars fs
end

/-- The compact text of a value. -/
def render (v : Value) : String := String.ofList v.chars

/-- A line break and two spaces for each level. -/
def newline (depth : Nat) : List Char := '\n' :: List.replicate (2 * depth) ' '

mutual
/-- The text of a value over several lines, two spaces to a level. -/
def indentedChars (depth : Nat) : Value → List Char
  | .array (x :: xs) =>
    '[' :: newline (depth + 1) ++ indentedChars (depth + 1) x ++ indentedItems depth xs
  | .object ((k, v) :: fs) =>
    '{' :: newline (depth + 1) ++ quoted k ++ ':' :: ' ' :: indentedChars (depth + 1) v ++
      indentedFields depth fs
  | v => v.chars
/-- The remaining items of an array over several lines. -/
def indentedItems (depth : Nat) : List Value → List Char
  | [] => newline depth ++ [']']
  | x :: xs =>
    ',' :: newline (depth + 1) ++ indentedChars (depth + 1) x ++ indentedItems depth xs
/-- The remaining fields of an object over several lines. -/
def indentedFields (depth : Nat) : List (String × Value) → List Char
  | [] => newline depth ++ ['}']
  | (k, v) :: fs =>
    ',' :: newline (depth + 1) ++ quoted k ++ ':' :: ' ' :: indentedChars (depth + 1) v ++
      indentedFields depth fs
end

/-- The text of a value over several lines. -/
def indented (v : Value) : String := String.ofList (v.indentedChars 0)

end Value

end Parley.Json
