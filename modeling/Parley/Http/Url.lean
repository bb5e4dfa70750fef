import Parley.Http.Host
import Parley.Text.Blank

/-!
# Addresses

An address is read once, and in reading it is brought into its normal form: its scheme and
host in small letters, its path without detours, and in path, query and fragment every
character that must not stand there written as bytes behind percent signs. So two spellings of
one address are the same request. What becomes of the name of a host is for the reader of the
address to say.

Schemes of the web have a host; an address of any other scheme may do without, and then no
request can be sent to it.
-/

namespace Parley

open Text Http

/-- An address in its normal form. -/
structure Url where
  scheme : String
  /-- The host and, where it is not the usual one, the port. -/
  authority : Option (String × Option Nat)
  path : String
  query : Option String
  fragment : Option String
  deriving DecidableEq, Repr, Inhabited

namespace Url

/-! ### Characters -/

/-- The bytes of a character, each behind a percent sign. -/
def escapeChar (c : Char) : List Char :=
  (utf8Bytes c).flatMap fun b => ['%', hexDigitUpper (b / 16), hexDigitUpper (b % 16)]

/-- A text with every character of a class written as bytes. -/
def escapeWhere (bad : Char → Bool) (cs : List Char) : List Char :=
  cs.flatMap fun c => if bad c then escapeChar c else [c]

/-- The characters that cannot stand anywhere in an address. -/
def isNeverPlain (c : Char) : Bool := c.toNat < 0x20 || 0x7E < c.toNat

/-- The characters that cannot stand in a fragment. -/
def badInFragment (c : Char) : Bool := isNeverPlain c || " \"<>`".toList.contains c

/-- The characters that cannot stand in a path. -/
def badInPath (c : Char) : Bool := badInFragment c || "#?^\x7b\x7d".toList.contains c

/-- The characters that cannot stand in a query. -/
def badInQuery (isWeb : Bool) (c : Char) : Bool :=
  isNeverPlain c || " \"#<>".toList.contains c || (isWeb && c = '\'')

/-! ### Parts -/

/-- The schemes whose addresses have a host, and their usual ports. -/
def webSchemes : List (String × Option Nat) :=
  [("http", some 80), ("https", some 443), ("ws", some 80), ("wss", some 443), ("ftp", some 21)]

/-- A scheme and what stands behind its colon. -/
def splitScheme (cs : List Char) : Option (String × List Char) :=
  let isPart (c : Char) : Bool := isLetterOrDigit c || c = '+' || c = '-' || c = '.'
  match cs, cs.dropWhile isPart with
  | c :: _, ':' :: rest =>
    if isLetter c then some (String.ofList ((cs.takeWhile isPart).map lowerChar), rest) else none
  | _, _ => none

/-- A slash; in an address of the web it may lean the other way. -/
def isSlash (isWeb : Bool) (c : Char) : Bool := c = '/' || (isWeb && c = '\\')

/-- A text before and behind the first character of its kind, without it. -/
def splitAtFirst (c : Char) (cs : List Char) : List Char × Option (List Char) :=
  match cs.dropWhile (· ≠ c) with
  | [] => (cs, none)
  | _ :: rest => (cs.takeWhile (· ≠ c), some rest)

/-- A path, a query and a fragment. -/
def splitTail (cs : List Char) : List Char × Option (List Char) × Option (List Char) :=
  let (front, fragment) := splitAtFirst '#' cs
  let (path, query) := splitAtFirst '?' front
  (path, query, fragment)

/-- A host and what stands behind the first colon that is not in brackets. -/
def splitPort (inBrackets : Bool) : List Char → List Char × Option (List Char)
  | [] => ([], none)
  | c :: cs =>
    if c = ':' && !inBrackets then ([], some cs)
    else
      let (host, port) := splitPort (c = '[' || (inBrackets && c ≠ ']')) cs
      (c :: host, port)

/-- The normal form of a host, on the web or elsewhere. -/
def host? (names : Naming) (isWeb : Bool) (cs : List Char) : Option (List Char) :=
  if isWeb then normalHost names cs
  else if cs.head? = some '[' then bracketedHost cs
  else if cs.any isForbiddenInHost then none
  else some (escapeWhere isNeverPlain cs)

/-- The host and the port of an authority; what stands before the last at sign is not part of
an address once it is used. -/
def authority? (names : Naming) (scheme : String) (isWeb : Bool) (cs : List Char) :
    Option (String × Option Nat) := do
  let hostPort := (cs.reverse.takeWhile (· ≠ '@')).reverse
  let (host, port) := splitPort false hostPort
  let host ← host? names isWeb host
  let port ← match port with
    | none | some [] => some none
    | some ds =>
      if ds.all isDigit && digitsValue ds < 65536 then
        let n := digitsValue ds
        some (if (webSchemes.find? (·.1 == scheme)).bind (·.2) = some n then none else some n)
      else none
  return (String.ofList host, port)

/-- A part of a path that stays where it is. -/
def isHere (s : List Char) : Bool :=
  ["." , "%2e"].contains (String.ofList (s.map lowerChar))

/-- A part of a path that goes back. -/
def isBack (s : List Char) : Bool :=
  ["..", ".%2e", "%2e.", "%2e%2e"].contains (String.ofList (s.map lowerChar))

/-- The parts of a path, the slashes between them left out. -/
def splitPath (isWeb : Bool) : List Char → List (List Char)
  | [] => [[]]
  | c :: cs =>
    if isSlash isWeb c then [] :: splitPath isWeb cs
    else match splitPath isWeb cs with
      | [] => [[c]]
      | p :: ps => (c :: p) :: ps

/-- The parts of a path without detours; `done` is what comes before them, last part first. -/
def straighten : List (List Char) → List (List Char) → List (List Char)
  | done, [] => done.reverse
  | done, [s] =>
    if isBack s then straighten ([] :: done.tail) []
    else if isHere s then straighten ([] :: done) []
    else straighten (s :: done) []
  | done, s :: t :: ps =>
    if isBack s then straighten done.tail (t :: ps)
    else if isHere s then straighten done (t :: ps)
    else straighten (s :: done) (t :: ps)
termination_by _ ps => ps.length

/-- A path that starts with a slash, in its normal form. -/
def normalPath (isWeb : Bool) (cs : List Char) : List Char :=
  let inner := match cs with
    | c :: rest => if isSlash isWeb c then rest else cs
    | [] => []
  let parts := straighten [] (splitPath isWeb inner)
  parts.flatMap fun p => '/' :: escapeWhere badInPath p

/-! ### Reading and writing -/

/-- The path, query and fragment of an address. -/
def withTail (scheme : String) (authority : Option (String × Option Nat)) (isWeb : Bool)
    (hasPath : Bool) (cs : List Char) : Url :=
  let (path, query, fragment) := splitTail cs
  { scheme
    authority
    path := String.ofList (if hasPath then normalPath isWeb path else escapeWhere isNeverPlain path)
    query := query.map fun q => String.ofList (escapeWhere (badInQuery isWeb) q)
    fragment := fragment.map fun f => String.ofList (escapeWhere badInFragment f) }

/-- Reads an address that stands for itself. -/
def parse (names : Naming) (text : String) : Option Url := do
  let isEdge (c : Char) : Bool := c.toNat ≤ 0x20
  let cs := (dropEndWhile isEdge (text.toList.dropWhile isEdge)).filter fun c =>
    c ≠ '\t' && c ≠ '\n' && c ≠ '\r'
  let (scheme, rest) ← splitScheme cs
  let isWeb := (webSchemes.find? (·.1 == scheme)).isSome
  let ends (c : Char) : Bool := isSlash isWeb c || c = '?' || c = '#'
  if isWeb then
    let rest := rest.dropWhile (isSlash true)
    let a ← authority? names scheme true (rest.takeWhile (!ends ·))
    return withTail scheme (some a) true true (rest.dropWhile (!ends ·))
  else
    match rest with
    | '/' :: '/' :: rest => do
      let a ← authority? names scheme false (rest.takeWhile (!ends ·))
      let tail := rest.dropWhile (!ends ·)
      return withTail scheme (some a) false (tail.head? = some '/') tail
    | '/' :: _ => return withTail scheme none false true rest
    | _ => return withTail scheme none false false rest

/-- A part of an address behind its mark. -/
def marked (mark : String) : Option String → String
  | some s => mark ++ s
  | none => ""

/-- An address as it is written. -/
def render (u : Url) : String :=
  u.scheme ++ ":" ++
    (match u.authority with
      | some (host, port) =>
        "//" ++ host ++ marked ":" (port.map fun n => String.ofList (decimal n))
      | none => "") ++
    u.path ++ marked "?" u.query ++ marked "#" u.fragment

/-- What a server is asked for: the path and the query. -/
def target (u : Url) : String := u.path ++ marked "?" u.query

/-- There is a host that a request could be sent to. -/
def hasHost (u : Url) : Bool :=
  match u.authority with
  | some (host, _) => !host.isEmpty
  | none => false

/-- Requests can be sent to an address of this scheme. -/
def isHttp (u : Url) : Bool := u.scheme == "http" || u.scheme == "https"

/-- Appends pairs of plain names and values to the query. -/
def addPairs (u : Url) (pairs : List (String × String)) : Url :=
  let more := String.intercalate "&" (pairs.map fun (k, v) => k ++ "=" ++ v)
  { u with query := some (match u.query with
      | some q => if q.isEmpty then more else q ++ "&" ++ more
      | none => more) }

end Url

end Parley
