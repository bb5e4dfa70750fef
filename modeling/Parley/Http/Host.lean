import Parley.Text.Ascii
import Parley.Numeral.Total
import Parley.Text.Utf8

/-!
# Hosts of addresses

The host in the address of a server is a name, four numbers or, in brackets, eight groups of
hexadecimal digits. A name is compared without regard to case, so it is written in small letters;
of the numbers and the groups there are several ways of writing, of which one is the normal form.

Names are not always in ASCII, but each has a form in which it is. How it is found rests on tables
of letters that are not given here, so whoever reads an address says what becomes of its name
(`Parley.Http.Naming`). Without tables no other names are known than those in ASCII
(`Parley.Http.Naming.ascii`).
-/

namespace Parley.Http

open Text Numeral

/-- The values of the hexadecimal digits behind a percent sign at the start, and the rest. -/
def percentByte? : List Char → Option (Nat × List Char)
  | '%' :: a :: b :: rest => do return ((← hexValue? a) * 16 + (← hexValue? b), rest)
  | _ => none

/-- The bytes of a text in which bytes may be written behind percent signs; `fuel` is at
least its length. -/
def percentBytes : Nat → List Char → List Nat
  | 0, _ => []
  | _, [] => []
  | fuel + 1, c :: cs =>
    match percentByte? (c :: cs) with
    | some (b, rest) => b :: percentBytes fuel rest
    | none => utf8Bytes c ++ percentBytes fuel cs

/-- The characters that no host may hold, whatever the scheme. -/
def isForbiddenInHost (c : Char) : Bool :=
  c.toNat = 0 || "\t\n\r #/:<>?@[\\]^|".toList.contains c

/-- The characters that no name of a host may hold. -/
def isForbiddenInName (c : Char) : Bool :=
  isForbiddenInHost c || c.toNat < 0x20 || 0x7F ≤ c.toNat || c = '%'

/-- A text in parts between marks. -/
def partsBetween (mark : Char) : List Char → List (List Char)
  | [] => [[]]
  | c :: cs =>
    if c = mark then [] :: partsBetween mark cs
    else match partsBetween mark cs with
      | [] => [[c]]
      | p :: ps => (c :: p) :: ps

/-! ### Four numbers -/

/-- The number written in digits of a base. -/
def numberInBase (base : Nat) (cs : List Char) : Option Nat :=
  cs.foldlM (fun n c => do
    let d ← hexValue? c
    if d < base then some (n * base + d) else none) 0

/-- A number in one of the bases in which parts of a host may be written. -/
def hostNumber (cs : List Char) : Option Nat :=
  match cs with
  | [] => none
  | '0' :: 'x' :: ds => numberInBase 16 ds
  | '0' :: d :: ds => numberInBase 8 (d :: ds)
  | ds => numberInBase 10 ds

/-- The parts of a host, without an empty one at the end of several. -/
def hostParts (cs : List Char) : List (List Char) :=
  let ps := partsBetween '.' cs
  if 1 < ps.length && ps.getLast? = some [] then ps.dropLast else ps

/-- A host whose last part is a number is meant to be four numbers. -/
def endsInNumber (cs : List Char) : Bool :=
  match (hostParts cs).getLast? with
  | some p => !p.isEmpty && (p.all isDigit || (hostNumber p).isSome)
  | none => false

/-- The number of thirty-two bits that up to four numbers make; the last one fills all the
bytes that are left. -/
def joinNumbers (ns : List Nat) : Option Nat :=
  match ns.reverse with
  | [] => none
  | last :: front =>
    if 4 < ns.length || front.any (255 < ·) || Nat.pow 256 (5 - ns.length) ≤ last then none
    else some (total (front.reverse.zipIdx.map fun (n, i) => n * Nat.pow 256 (3 - i)) + last)

/-- Four numbers in their normal form. -/
def fourNumbers (n : Nat) : List Char :=
  (String.intercalate "." ([n / 16777216, n / 65536 % 256, n / 256 % 256, n % 256].map fun k =>
    String.ofList (decimal k))).toList

/-! ### Eight groups -/

/-- A group of up to four hexadecimal digits. -/
def group? (cs : List Char) : Option Nat :=
  if cs.isEmpty || 4 < cs.length then none else numberInBase 16 cs

/-- A number below 256, without zeros in front of it. -/
def byte? (cs : List Char) : Option Nat :=
  if cs.isEmpty || 3 < cs.length || (cs.head? = some '0' && cs ≠ ['0']) then none
  else (numberInBase 10 cs).filter (· < 256)

/-- The two groups that four numbers between dots amount to. -/
def twoGroups? (cs : List Char) : Option (List Nat) := do
  match ← (partsBetween '.' cs).mapM byte? with
  | [a, b, c, d] => some [a * 256 + b, c * 256 + d]
  | _ => none

/-- The groups that parts stand for; the last part may be four numbers if `mayDot` says so. -/
def groups? (mayDot : Bool) : List (List Char) → Option (List Nat)
  | [] => some []
  | [p] => if mayDot && p.contains '.' then twoGroups? p else (group? p).map ([·])
  | p :: ps => do return (← group? p) :: (← groups? mayDot ps)

/-- A text in front of the first two colons in a row and, if there are any, behind them. -/
def splitAtGap : List Char → List Char × Option (List Char)
  | ':' :: ':' :: cs => ([], some cs)
  | c :: cs => let (front, back) := splitAtGap cs; (c :: front, back)
  | [] => ([], none)

/-- Eight groups between colons. In one place there may be two colons for groups that are zero. -/
def eightGroups? (cs : List Char) : Option (List Nat) :=
  let parts (cs : List Char) : List (List Char) := if cs.isEmpty then [] else partsBetween ':' cs
  match splitAtGap cs with
  | (cs, none) => (groups? true (parts cs)).filter (·.length = 8)
  | (front, some back) => do
    let front ← groups? false (parts front)
    let back ← groups? true (parts back)
    let left := 8 - (front.length + back.length)
    if left = 0 then none else some (front ++ List.replicate left 0 ++ back)

/-- Where the first of the longest runs of zeros begins, and how long it is. -/
def longestZeros (gs : List Nat) : Nat × Nat :=
  (List.range gs.length).foldl (fun best i =>
    let n := ((gs.drop i).takeWhile (· = 0)).length
    if best.2 < n then (i, n) else best) (0, 0)

/-- Groups between colons. -/
def joinGroups (gs : List Nat) : List Char := [':'].intercalate (gs.map (Nat.toDigits 16))

/-- Eight groups in their normal form: two colons stand for the first of the longest runs of zeros,
if it is longer than one. -/
def eightGroups (gs : List Nat) : List Char :=
  let (start, n) := longestZeros gs
  if n < 2 then joinGroups gs
  else joinGroups (gs.take start) ++ "::".toList ++ joinGroups (gs.drop (start + n))

/-- The normal form of a host in brackets. -/
def bracketedHost (cs : List Char) : Option (List Char) := do
  if cs.getLast? ≠ some ']' then none
  let gs ← eightGroups? (cs.drop 1).dropLast
  return '[' :: (eightGroups gs ++ [']'])

/-! ### Hosts of any kind -/

/-- What becomes of the name of a host: its form in ASCII, in small letters, or nothing if it
cannot be one. -/
abbrev Naming := List Char → Option (List Char)

/-- Names in ASCII only. Parts that stand for letters beyond it are taken as they are. -/
def Naming.ascii : Naming := fun name =>
  if name.all (·.toNat < 0x80) then some (name.map lowerChar) else none

/-- The normal form of a host on the web. -/
def normalHost (names : Naming) (cs : List Char) : Option (List Char) := do
  if cs.head? = some '[' then bracketedHost cs
  else
    let name ← names (decodeBytes none (percentBytes cs.length cs))
    if name.isEmpty || name.any isForbiddenInName then none
    else if endsInNumber name then
      return fourNumbers (← joinNumbers (← (hostParts name).mapM hostNumber))
    else return name

end Parley.Http
