import Parley.Json.Fault
import Parley.Numeral.Total

/-!
# Reading JSON text

A reading step takes a cursor, the text ahead and the place reached, and yields a value
and the cursor after it, or a fault and its place. The steps here read the lexical parts
(blanks, words, strings, numbers) and whole values. Loops over items and fields consume a
character in every round, so the length of the text ahead bounds them; nesting is bounded
by `maxDepth`.

Numbers are read as their digits come: digits are collected as long as they fit 64 bits,
the rest only shifts the decimal exponent, and the collected significand is scaled by one
power of ten. The result is within one unit of the nearest number and not always the
nearest.
-/

namespace Parley.Json

open Numeral

/-- The text ahead and the place reached. -/
structure Cursor where
  rest : List Char
  place : Place
  deriving Repr, BEq

/-- The cursor at the start of a text. -/
def Cursor.ofString (s : String) : Cursor := ⟨s.toList, .start⟩

/-- A step of reading. -/
abbrev Reading := StateT Cursor (Except ReadError)

namespace Reading

/-- Fails at a place. -/
def failAt {α : Type} (fault : Fault) (place : Place) : Reading α :=
  fun _ => .error ⟨fault, place⟩

/-- Fails at the place reached. -/
def failHere {α : Type} (fault : Fault) : Reading α := fun c => .error ⟨fault, c.place⟩

/-- Fails at the place after the next byte. -/
def failNext {α : Type} (fault : Fault) : Reading α :=
  fun c => .error ⟨fault, c.place.pastByte c.rest⟩

/-- The next character, which stays ahead. -/
def peek : Reading (Option Char) := fun c => .ok (c.rest.head?, c)

/-- Steps over one character. -/
def advance : Reading Unit := fun c =>
  match c.rest with
  | [] => .ok ((), c)
  | d :: r => .ok ((), ⟨r, c.place.past d⟩)

end Reading

open Reading

/-- A blank of JSON text. -/
def isSpace (c : Char) : Bool := c = ' ' || c = '\n' || c = '\t' || c = '\r'

/-- Steps over blanks. -/
def skipSpace : Reading Unit := fun c =>
  .ok ((), ⟨c.rest.dropWhile isSpace, c.place.pastAll (c.rest.takeWhile isSpace)⟩)

/-- The next character that is not a blank. -/
def peekPastSpace : Reading (Option Char) := do
  skipSpace
  peek

/-- Reads the letters of a word, of which the first has been read. -/
def word : List Char → Reading Unit
  | [] => pure ()
  | expected :: more => do
    match ← peek with
    | none => failHere .endInValue
    | some d =>
      if d = expected then do
        advance
        word more
      else failNext .expectedIdentifier

/-! ### Strings -/

/-- The four hexadecimal digits of an escape. -/
def hexUnit? (a b c d : Char) : Option Nat := do
  let a ← Text.hexValue? a
  let b ← Text.hexValue? b
  let c ← Text.hexValue? c
  let d ← Text.hexValue? d
  return ((a * 16 + b) * 16 + c) * 16 + d

/-- The fault of an escape that does not start with four hexadecimal digits: it shows after
four bytes, or at the end if there are fewer. -/
def hexFault (ahead : List Char) (p : Place) : ReadError :=
  if Numeral.total (ahead.map Char.utf8Size) < 4 then ⟨.endInString, p.pastAll ahead⟩
  else ⟨.invalidEscape, p.pastBytes 4 ahead⟩

/-- The first half of a surrogate pair. -/
def isLeadingSurrogate (n : Nat) : Bool := 0xD800 ≤ n && n ≤ 0xDBFF

/-- The second half of a surrogate pair. -/
def isTrailingSurrogate (n : Nat) : Bool := 0xDC00 ≤ n && n ≤ 0xDFFF

/-- The character that a surrogate pair stands for. -/
def surrogatePair (high low : Nat) : Char :=
  Char.ofNat ((high - 0xD800) * 0x400 + (low - 0xDC00) + 0x10000)

/-- The character a one-letter escape stands for. -/
def shortEscape? (c : Char) : Option Char :=
  match c with
  | '"' => some '"'
  | '\\' => some '\\'
  | '/' => some '/'
  | 'b' => some (Char.ofNat 0x08)
  | 'f' => some (Char.ofNat 0x0C)
  | 'n' => some '\n'
  | 'r' => some '\r'
  | 't' => some '\t'
  | _ => none

/-- The characters of a string up to its closing quotation mark, in reverse, after those in
`acc`. With `strict` off, surrogates need not be paired, as where the string is skipped. -/
def stringChars (strict : Bool) : List Char → Place → List Char →
    Except ReadError (List Char × Cursor)
  | [], p, _ => .error ⟨.endInString, p⟩
  | '"' :: r, p, acc => .ok (acc, ⟨r, p.past '"'⟩)
  | '\\' :: 'u' :: a :: b :: c :: d :: r, p, acc =>
    let q := p.pastAll ['\\', 'u']
    match hexUnit? a b c d with
    | none => .error (hexFault (a :: b :: c :: d :: r) q)
    | some n =>
      let q := q.pastAll [a, b, c, d]
      if !strict then stringChars strict r q acc
      else if isTrailingSurrogate n then .error ⟨.loneSurrogate, q⟩
      else if isLeadingSurrogate n then
        match r with
        | '\\' :: 'u' :: e :: f :: g :: h :: r' =>
          let t := q.pastAll ['\\', 'u']
          match hexUnit? e f g h with
          | none => .error (hexFault (e :: f :: g :: h :: r') t)
          | some m =>
            let t := t.pastAll [e, f, g, h]
            if isTrailingSurrogate m then
              stringChars strict r' t (surrogatePair n m :: acc)
            else .error ⟨.loneSurrogate, t⟩
        | '\\' :: 'u' :: r' => .error (hexFault r' (q.pastAll ['\\', 'u']))
        | ['\\'] => .error ⟨.endInString, q.past '\\'⟩
        | '\\' :: r' => .error ⟨.unfinishedSurrogate, (q.past '\\').pastByte r'⟩
        | [] => .error ⟨.endInString, q⟩
        | r' => .error ⟨.unfinishedSurrogate, q.pastByte r'⟩
      else stringChars strict r q (Char.ofNat n :: acc)
  | '\\' :: 'u' :: r, p, _ => .error (hexFault r (p.pastAll ['\\', 'u']))
  | ['\\'], p, _ => .error ⟨.endInString, p.past '\\'⟩
  | '\\' :: c :: r, p, acc =>
    match shortEscape? c with
    | some d => stringChars strict r (p.pastAll ['\\', c]) (d :: acc)
    | none => .error ⟨.invalidEscape, (p.past '\\').pastByte (c :: r)⟩
  | c :: r, p, acc =>
    if c.toNat < 0x20 then .error ⟨.controlCharacter, p.pastByte (c :: r)⟩
    else stringChars strict r (p.past c) (c :: acc)

/-- Reads a string, of which the opening quotation mark has been read. -/
def stringTail : Reading String := fun c => do
  let (acc, c) ← stringChars true c.rest c.place []
  return (String.ofList acc.reverse, c)

/-- Steps over a string, of which the opening quotation mark has been read. -/
def skipStringTail : Reading Unit := fun c => do
  let (_, c) ← stringChars false c.rest c.place []
  return ((), c)

/-! ### Numbers -/

/-- Reads a run of decimal digits. -/
def digitRun : Reading (List Char) := fun c =>
  let ds := c.rest.takeWhile Text.isDigit
  .ok (ds, ⟨c.rest.dropWhile Text.isDigit, c.place.pastAll ds⟩)

/-- Adds digits to a significand while it fits 64 bits; the digits left over are returned. -/
def collect : Nat → List Char → Nat × List Char
  | n, [] => (n, [])
  | n, d :: ds =>
    let next := n * 10 + Text.digitValue d
    if next < Nat.pow 2 64 then collect next ds else (n, d :: ds)

/-- Divides by `10 ^ 308` until the exponent is within the powers of ten; a 64-bit
significand has become zero after three rounds. -/
def scaleDown : Nat → Binary64 → Int → Binary64 × Int
  | 0, x, e => (x, e)
  | fuel + 1, x, e =>
    if -308 ≤ e || x.isZero then (x, e)
    else
      let y := ((Binary64.tenPower 308).bind fun t => x.div t).getD Binary64.zero
      scaleDown fuel y (e + 308)

/-- A significand scaled by a power of ten, each step rounded; nothing if too large. -/
def scaleByTen (significand : Nat) (exponent : Int) : Option Binary64 :=
  let x := Binary64.ofInt significand
  if 308 < exponent then (if x.isZero then some x else none)
  else if 0 ≤ exponent then (Binary64.tenPower exponent.toNat).bind fun t => x.mul t
  else
    let (x, e) := scaleDown 4 x exponent
    if x.isZero then some x
    else (Binary64.tenPower (-e).toNat).bind fun t => x.div t

/-- The number made of a sign, a significand and a decimal exponent. -/
def realOfParts (negative : Bool) (significand : Nat) (exponent : Int) : Reading Number :=
  match scaleByTen significand exponent with
  | none => failHere .numberOutOfRange
  | some x => pure (.real (if negative then x.neg else x))

/-- The digits of an exponent from the first on that takes it out of 31 bits. -/
def exponentOverflow : Nat → List Char → List Char
  | _, [] => []
  | n, d :: ds =>
    let next := n * 10 + Text.digitValue d
    if next < Nat.pow 2 31 then exponentOverflow next ds else d :: ds

/-- Reads the sign of an exponent if one is ahead: whether it is a minus. -/
def exponentSign : Reading Bool := do
  match ← peek with
  | some '+' => advance; pure false
  | some '-' => advance; pure true
  | _ => pure false

/-- Reads the digits of an exponent. -/
def exponentDigits (negative : Bool) (significand : Nat) (exponent : Int) (down : Bool) :
    Reading Number := do
  match ← peek with
  | none => failHere .endInValue
  | some d =>
    if !Text.isDigit d then failNext .invalidNumber
    else
      let before ← get
      let ds ← digitRun
      -- the exponent saturates at 31 bits
      let small := ds.length - (exponentOverflow 0 ds).length
      if small < ds.length then
        if significand ≠ 0 && !down then
          failAt .numberOutOfRange (before.place.pastAll (ds.take (small + 1)))
        else pure (.real ⟨negative, 0, Binary64.minExponent⟩)
      else
        let e : Int := Text.digitsValue ds
        let sum := if down then exponent - e else exponent + e
        realOfParts negative significand (max (-2147483648) (min 2147483647 sum))

/-- Reads an exponent, of which the letter is ahead. -/
def exponentPart (negative : Bool) (significand : Nat) (exponent : Int) : Reading Number := do
  advance
  exponentDigits negative significand exponent (← exponentSign)

/-- Reads an exponent if one is ahead. -/
def exponentIfAny (negative : Bool) (significand : Nat) (exponent : Int) : Reading Number := do
  match ← peek with
  | some 'e' => exponentPart negative significand exponent
  | some 'E' => exponentPart negative significand exponent
  | _ => realOfParts negative significand exponent

/-- Reads a fraction, of which the point is ahead. -/
def fractionPart (negative : Bool) (significand : Nat) (exponent : Int) : Reading Number := do
  advance
  let ds ← digitRun
  if ds.isEmpty then
    match ← peek with
    | none => failHere .endInValue
    | some _ => failNext .invalidNumber
  else
    let (n, surplus) := collect significand ds
    exponentIfAny negative n (exponent - ((ds.length - surplus.length : Nat) : Int))

/-- The number made of a sign and digits alone. -/
def digitsAlone (negative : Bool) (n : Nat) (surplus : List Char) : Reading Number :=
  if !surplus.isEmpty then realOfParts negative n surplus.length
  else if !negative then pure (.integer n)
  else if n = 0 || Nat.pow 2 63 < n then pure (.real (Binary64.ofInt n).neg)
  else pure (.integer (-(n : Int)))

/-- Reads a number without its sign, the first digit ahead. -/
def numberTail (negative : Bool) : Reading Number := do
  match ← peek with
  | none => failHere .endInValue
  | some d =>
    if !Text.isDigit d then failNext .invalidNumber
    else if d = '0' then do
      advance
      match ← peek with
      | some e => if Text.isDigit e then failNext .invalidNumber else afterDigits 0 []
      | none => afterDigits 0 []
    else do
      let ds ← digitRun
      let (n, surplus) := collect 0 ds
      afterDigits n surplus
where
  /-- What follows the digits before the point. -/
  afterDigits (n : Nat) (surplus : List Char) : Reading Number := do
    match ← peek with
    | some '.' => fractionPart negative n surplus.length
    | some 'e' => exponentPart negative n surplus.length
    | some 'E' => exponentPart negative n surplus.length
    | _ => digitsAlone negative n surplus

/-- Reads a number whose first character, a digit or a minus sign, is ahead. -/
def number : Reading Number := do
  match ← peek with
  | some '-' => do
    advance
    numberTail true
  | _ => numberTail false

/-! ### Lists and objects -/

/-- Steps to the next item of an array: says whether there is one. -/
def nextItem (first : Bool) : Reading Bool := do
  match ← peekPastSpace with
  | none => failHere .endInList
  | some ']' => pure false
  | some c =>
    if first then pure true
    else if c = ',' then do
      advance
      match ← peekPastSpace with
      | some ']' => failNext .trailingComma
      | some _ => pure true
      | none => failHere .endInValue
    else failNext .expectedCommaOrBracket

/-- Steps to the next key of an object: says whether there is one. -/
def nextKey (first : Bool) : Reading Bool := do
  match ← peekPastSpace with
  | none => failHere .endInObject
  | some '\x7d' => pure false
  | some c =>
    if !first && c ≠ ',' then failNext .expectedCommaOrBrace
    else do
      let c ← if first then pure (some c) else do
        advance
        peekPastSpace
      match c with
      | some '"' => pure true
      | some '\x7d' => failNext .trailingComma
      | some _ => failNext .keyNotString
      | none => failHere .endInValue

/-- Reads a key whose quotation mark is ahead. -/
def key : Reading String := do
  advance
  stringTail

/-- Steps over the colon after a key. -/
def colon : Reading Unit := do
  match ← peekPastSpace with
  | some ':' => advance
  | some _ => failNext .expectedColon
  | none => failHere .endInObject

/-- Steps over the bracket that closes an array. -/
def closeArray : Reading Unit := do
  match ← peekPastSpace with
  | some ']' => advance
  | some ',' => do
    advance
    match ← peekPastSpace with
    | some ']' => failNext .trailingComma
    | _ => failNext .trailingCharacters
  | some _ => failNext .trailingCharacters
  | none => failHere .endInList

/-- Steps over the brace that closes an object. -/
def closeObject : Reading Unit := do
  match ← peekPastSpace with
  | some '\x7d' => advance
  | some ',' => failNext .trailingComma
  | some _ => failNext .trailingCharacters
  | none => failHere .endInObject

/-- The place reached by a closing step, whether or not it fails: a fault of the whole array
or object is noticed there. -/
def placeAfterClosing (close : Reading Unit) : Reading Place := fun c =>
  match close c with
  | .ok (_, d) => .ok (d.place, c)
  | .error _ => .ok (c.place.pastAll (c.rest.takeWhile isSpace), c)

/-- Reads items one after another; `fuel` exceeds the characters ahead. -/
def items {α : Type} (item : Reading α) : Nat → Bool → List α → Reading (List α)
  | 0, _, _ => failHere .endInList
  | fuel + 1, first, acc => do
    if ← nextItem first then do
      let x ← item
      items item fuel false (x :: acc)
    else pure acc.reverse

/-- Reads fields one after another; `fuel` exceeds the characters ahead. -/
def fields {α : Type} (value : Reading α) : Nat → Bool → List (String × α) →
    Reading (List (String × α))
  | 0, _, _ => failHere .endInObject
  | fuel + 1, first, acc => do
    if ← nextKey first then do
      let k ← key
      colon
      let v ← value
      fields value fuel false ((k, v) :: acc)
    else pure acc.reverse

/-- A bound for the rounds of a loop that consumes a character in each. -/
def roundBound : Reading Nat := do return (← get).rest.length + 1

/-- The number of arrays and objects that may enclose a value. -/
def maxDepth : Nat := 127

/-- Reads a value whose items and fields are read by `inner`; without it the value may not
be an array or an object. -/
def valueWith (inner : Option (Reading Value)) : Reading Value := do
  match ← peekPastSpace with
  | none => failHere .endInValue
  | some 'n' => do
    advance
    word ['u', 'l', 'l']
    pure .null
  | some 't' => do
    advance
    word ['r', 'u', 'e']
    pure (.bool true)
  | some 'f' => do
    advance
    word ['a', 'l', 's', 'e']
    pure (.bool false)
  | some '"' => do
    advance
    return .string (← stringTail)
  | some '[' =>
    match inner with
    | none => failNext .tooDeep
    | some item => do
      advance
      let xs ← items item (← roundBound) true []
      closeArray
      return .array xs
  | some '\x7b' =>
    match inner with
    | none => failNext .tooDeep
    | some item => do
      advance
      let fs ← fields item (← roundBound) true []
      closeObject
      return .object (Value.sortFields fs)
  | some c =>
    if c = '-' || Text.isDigit c then return .number (← number)
    else failNext .expectedValue

/-- Reads a value inside of which `room` more levels may be opened. -/
def value : Nat → Reading Value
  | 0 => valueWith none
  | room + 1 => valueWith (some (value room))

/-- Reads one thing and nothing after it but blanks. -/
def whole {α : Type} (read : Reading α) (text : String) : Except ReadError α := do
  let go : Reading α := do
    let x ← read
    match ← peekPastSpace with
    | none => pure x
    | some _ => failNext .trailingCharacters
  let (x, _) ← go (Cursor.ofString text)
  return x

/-- Reads a JSON text. -/
def parse (text : String) : Except ReadError Value := whole (value maxDepth) text

end Parley.Json
