import Parley.Numeral.Shortest

/-!
# JSON values

Opaque content travels through the program as a JSON value: what an artifact holds, what
a reply carries in its loosely typed fields. Numbers keep apart what JSON text keeps
apart: a whole number of 64 bits is an integer, every other number, `-0` and `1.0`
included, is a binary64 number.

An object is a list of fields. A value that was read has its fields sorted by key and no
key twice (`Value.IsSorted`); a record that is about to be written lists its fields in
the order of its declaration.
-/

namespace Parley.Json

open Numeral

/-- A JSON number. -/
inductive Number
  /-- A whole number from `-2 ^ 63` to `2 ^ 64 - 1`. -/
  | integer (i : Int)
  /-- Any other number. -/
  | real (x : Binary64)
  deriving DecidableEq, Repr, Inhabited

/-- A JSON value. -/
inductive Value
  | null
  | bool (b : Bool)
  | number (n : Number)
  | string (s : String)
  | array (items : List Value)
  | object (fields : List (String × Value))
  deriving Inhabited, Repr, BEq

namespace Number

/-- The number as a whole number of 64 bits with a sign. -/
def int64? : Number → Option Int
  | .integer i => if i < (Nat.pow 2 63 : Nat) then some i else none
  | .real _ => none

/-- The binary64 number nearest to the number. -/
def toReal : Number → Binary64
  | .integer i => Binary64.ofInt i
  | .real x => x

end Number

namespace Value

/-- The text of a string value. -/
def text? : Value → Option String
  | .string s => some s
  | _ => none

/-- The value of a number as a real. -/
def real? : Value → Option Binary64
  | .number n => some n.toReal
  | _ => none

/-- The fields of an object. -/
def fields? : Value → Option (List (String × Value))
  | .object fs => some fs
  | _ => none

/-- The items of an array. -/
def items? : Value → Option (List Value)
  | .array xs => some xs
  | _ => none

/-- The first value under a key in a list of fields. -/
def lookup (key : String) (fields : List (String × Value)) : Option Value :=
  (fields.find? (·.1 == key)).map (·.2)

/-- The value under a key; nothing in anything but an object. -/
def get? (key : String) : Value → Option Value
  | .object fs => lookup key fs
  | _ => none

/-- The value found by following keys inwards. -/
def at? : List String → Value → Option Value
  | [], v => some v
  | k :: ks, v => (v.get? k).bind (at? ks)

/-- Puts a field in its place by key; a field of the same key is replaced. -/
def insertField (key : String) (value : Value) :
    List (String × Value) → List (String × Value)
  | [] => [(key, value)]
  | (k, v) :: rest =>
    if key == k then (key, value) :: rest
    else if key < k then (key, value) :: (k, v) :: rest
    else (k, v) :: insertField key value rest

/-- The fields in the order of their keys, the last of equal keys kept. -/
def sortFields (fields : List (String × Value)) : List (String × Value) :=
  fields.foldl (fun acc f => insertField f.1 f.2 acc) []

/-- The keys of a field list increase. -/
def KeysIncrease (fields : List (String × Value)) : Prop :=
  (fields.map (·.1)).Pairwise (· < ·)

end Value

end Parley.Json
