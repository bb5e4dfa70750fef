import Parley.Text.Ascii
import Parley.Text.Entity
import Parley.Text.Fold
import Parley.Markdown.Line

/-!
# Where links lead

A link names its target in place, `(address "title")`, or by a label that a definition
`[label]: address "title"` gives a target to. This module reads labels, addresses, titles
and definitions. Every reader takes the text from where it stands and returns what it read
and the text that follows; at most one line end may stand wherever white space may.
-/

namespace Parley.Markdown

open Parley.Text

/-- An address and a title. -/
structure Target where
  address : List Char
  title : List Char
  deriving Inhabited

/-- White space, line ends included. -/
def isSpaceOrEnd (c : Char) : Bool := isLineSpace c || c = '\n' || c = '\r'

/-! ### Labels -/

/-- The form in which labels are compared: white space runs are one space, there is none at
the ends, and case does not count. -/
def labelKey (s : List Char) : List Char :=
  let words := (splitChars ' ' (s.map fun c => if isSpaceOrEnd c then ' ' else c)).filter
    (!·.isEmpty)
  fold (words.intersperse [' ']).flatten

/-- Reads the characters of a label up to its closing bracket; `n` counts them. -/
def labelFrom (n : Nat) (acc : List Char) : List Char → Option (List Char × List Char)
  | [] => none
  | '\\' :: c :: r => if 999 ≤ n then none else labelFrom (n + 2) (c :: '\\' :: acc) r
  | c :: r =>
    if 1000 ≤ n || c = '[' then none
    else if c = ']' then some (acc.reverse, r)
    else labelFrom (n + 1) (c :: acc) r

/-- Reads a label behind its opening bracket. A label holds something besides white space
and no bracket without a backslash. -/
def label? (s : List Char) : Option (List Char × List Char) :=
  match labelFrom 0 [] s with
  | some (l, r) => if l.all isSpaceOrEnd then none else some (l, r)
  | none => none

/-! ### Addresses and titles -/

/-- Reads an address up to its closing `>`. -/
def pointedFrom (acc : List Char) : List Char → Option (List Char × List Char)
  | [] => none
  | '\\' :: c :: r =>
    if isAsciiMark c then pointedFrom (c :: '\\' :: acc) r
    else if c = '\n' || c = '\r' then none
    else pointedFrom (c :: '\\' :: acc) r
  | c :: r =>
    if c = '\n' || c = '\r' || c = '<' then none
    else if c = '>' then some (acc.reverse, r)
    else pointedFrom (c :: acc) r

/-- Reads an address up to white space or a closing parenthesis of its surroundings; `depth`
counts the parentheses open, of which there may be `room` more. -/
def plainFrom (room depth : Nat) (acc : List Char) :
    List Char → Option (List Char × List Char)
  | [] => if depth = 0 then some (acc.reverse, []) else none
  | '\\' :: c :: r =>
    if isAsciiMark c then plainFrom room depth (c :: '\\' :: acc) r
    else if c.toNat ≤ 0x20 then
      if depth = 0 then some (('\\' :: acc).reverse, c :: r) else none
    else plainFrom room depth (c :: '\\' :: acc) r
  | c :: r =>
    if c.toNat ≤ 0x20 then if depth = 0 then some (acc.reverse, c :: r) else none
    else if c = '(' then
      if room = 0 then none else plainFrom (room - 1) (depth + 1) (c :: acc) r
    else if c = ')' then
      if depth = 0 then some (acc.reverse, c :: r)
      else plainFrom (room + 1) (depth - 1) (c :: acc) r
    else plainFrom room depth (c :: acc) r

/-- Reads an address as it is written, in pointed brackets or bare with at most `room`
parentheses inside one another. -/
def address? (room : Nat) (s : List Char) : Option (List Char × List Char) :=
  match s with
  | '<' :: r => pointedFrom [] r
  | _ => plainFrom room 0 [] s

/-- Reads the characters of a title up to its closing mark; the white space at the start of
a further line is dropped. -/
def titleFrom (opens closes : Char) (acc : List Char) :
    List Char → Option (List Char × List Char)
  | [] => none
  | '\\' :: c :: r =>
    if c = '\n' then titleFrom opens closes ('\n' :: '\\' :: acc) r
    else titleFrom opens closes (c :: '\\' :: acc) r
  | c :: r =>
    if c = closes then some (acc.reverse, r)
    else if c = opens then none
    else if (c = ' ' || c = '\t') && acc.head? = some '\n' then titleFrom opens closes acc r
    else titleFrom opens closes (c :: acc) r

/-- Reads a title in quotes or parentheses, with its escapes resolved. -/
def title? (s : List Char) : Option (List Char × List Char) :=
  match s with
  | c :: r =>
    if c = '"' || c = '\'' then (titleFrom c c [] r).map fun (t, r) => (unescape t, r)
    else if c = '(' then (titleFrom '(' ')' [] r).map fun (t, r) => (unescape t, r)
    else none
  | [] => none

/-- Passes white space with at most one line end in it; says whether there was one. -/
def passGap (s : List Char) : Bool × List Char :=
  match s.dropWhile isLineSpace with
  | '\n' :: r => (true, r.dropWhile isLineSpace)
  | r => (false, r)

/-! ### Targets in place -/

/-- How deep parentheses may be nested in a bare address. -/
def addressDepth : Nat := 6

/-- Reads a target in place, behind the opening parenthesis. -/
def target? (s : List Char) : Option (Target × List Char) := do
  let (address, r) ← address? addressDepth (passGap s).2
  let r := (passGap r).2
  let (title, r) := match title? r with
    | some (t, r') => (t, (passGap r').2)
    | none => ([], r)
  match r with
  | ')' :: rest => some (⟨unescape address, title⟩, rest)
  | _ => none

/-! ### Definitions -/

/-- Reads the definition that a block starts with: its label in comparable form, its target
and the text from the end of its last line on. `s` holds the lines that the definition may
use. What does not read as a title ends the definition if it stands on a line of its own and
spoils it otherwise. -/
def definition? (s : List Char) : Option (List Char × Target × List Char) := do
  let '[' :: s := s | none
  let (label, r) ← label? s
  let ':' :: r := r | none
  let start := (passGap r).2
  let (address, r) ← address? 2 start
  if r.length = start.length then none
  else
    let bare : Target := ⟨unescape address, []⟩
    let lineRest := r.dropWhile isLineSpace
    let atEnd := lineRest.isEmpty || lineRest.head? = some '\n'
    let (_, behind) := passGap r
    if behind.length = r.length && !atEnd then none
    else
      let titled : Option (Target × List Char) := do
        let (t, r') ← title? behind
        let r' := r'.dropWhile isLineSpace
        if r'.isEmpty || r'.head? = some '\n' then some (⟨bare.address, t⟩, r') else none
      match titled with
      | some (target, r') => some (labelKey label, target, r')
      | none => if atEnd then some (labelKey label, bare, lineRest) else none

end Parley.Markdown
