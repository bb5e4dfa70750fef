import Parley.Text.Ascii
import Parley.Text.Entity
import Parley.Markdown.Tree

/-!
# Lines and what may stand at their start

Blocks are recognised line by line from what stands at the start of a line behind its
indentation. Indentation is counted in columns: a tab reaches to the next multiple of four,
and where only part of it is needed the rest counts as spaces.

The recognisers here look at the characters of one line; the two that depend on the next
line, an empty list item and the head of a table, take what they need of it as an argument.
-/

namespace Parley.Markdown

open Parley.Text

/-- A line of a text and the characters that end it: none for a last line without end. -/
structure Line where
  chars : List Char
  ending : List Char
  deriving Inhabited

/-- Splits a text into lines; `acc` is the line so far, reversed. -/
def linesFrom (acc : List Char) : List Char → List Line
  | [] => if acc.isEmpty then [] else [⟨acc.reverse, []⟩]
  | '\r' :: '\n' :: r => ⟨acc.reverse, ['\r', '\n']⟩ :: linesFrom [] r
  | c :: r =>
    if c = '\n' || c = '\r' then ⟨acc.reverse, [c]⟩ :: linesFrom [] r
    else linesFrom (c :: acc) r

/-- The lines of a text. -/
def linesOf (text : List Char) : List Line := linesFrom [] text

/-- The line end as it is kept in code and in lines of HTML. -/
def Line.keptEnding (l : Line) : List Char :=
  if l.ending = ['\r', '\n'] then ['\n'] else l.ending

/-- White space inside a line. -/
def isLineSpace (c : Char) : Bool := c = ' ' || c = '\t' || c = '\x0b' || c = '\x0c'

/-- A line, or the rest of one, with nothing but white space. -/
def isBlankLine (s : List Char) : Bool := s.all isLineSpace

/-- Characters without white space at either end of the line. -/
def trimLine (s : List Char) : List Char :=
  (((s.dropWhile isLineSpace).reverse).dropWhile isLineSpace).reverse

/-! ### Columns -/

/-- A place in a line: what follows, its column, and how many columns of a tab just passed
are still to be counted. -/
structure Cursor where
  rest : List Char
  column : Nat
  slack : Nat
  deriving Inhabited

/-- The start of a line. -/
def Cursor.start (s : List Char) : Cursor := ⟨s, 0, 0⟩

/-- Passes up to `n` columns of space behind column `column`; also says how many are
missing. -/
def passFrom (n column : Nat) : List Char → Nat × Cursor
  | [] => (n, ⟨[], column, 0⟩)
  | c :: r =>
    if n = 0 then (0, ⟨c :: r, column, 0⟩)
    else if c = ' ' then passFrom (n - 1) (column + 1) r
    else if c = '\t' then
      let width := 4 - column % 4
      if width ≤ n then passFrom (n - width) (column + width) r
      else (0, ⟨r, column + width, width - n⟩)
    else (n, ⟨c :: r, column, 0⟩)

/-- Passes up to `n` columns of space; also says how many are missing. -/
def Cursor.pass (c : Cursor) (n : Nat) : Nat × Cursor :=
  if n ≤ c.slack then (0, { c with slack := c.slack - n })
  else passFrom (n - c.slack) c.column c.rest

/-- Passes exactly `n` columns of space. -/
def Cursor.pass? (c : Cursor) (n : Nat) : Option Cursor :=
  match c.pass n with
  | (0, c') => some c'
  | _ => none

/-- Passes one given character. -/
def Cursor.char? (c : Cursor) (x : Char) : Option Cursor :=
  match c.rest with
  | y :: r => if y = x && c.slack = 0 then some ⟨r, c.column + 1, 0⟩ else none
  | [] => none

/-- The spaces that a partly passed tab still stands for. -/
def Cursor.slackSpaces (c : Cursor) : List Char := List.replicate c.slack ' '

/-- Everything that follows, a partly passed tab as spaces. -/
def Cursor.content (c : Cursor) : List Char := c.slackSpaces ++ c.rest

/-- Passes the sign of a quotation: up to three spaces, `>`, and one space if there is one. -/
def Cursor.quoteSign? (c : Cursor) : Option Cursor :=
  ((c.pass 3).2.char? '>').map fun c' => (c'.pass 1).2

/-! ### Rules, headings, fences -/

/-- A line across the page: three or more of one of `*`, `-`, `_` with only spaces between. -/
def isRule (s : List Char) : Bool :=
  match s with
  | c :: _ =>
    (c = '*' || c = '-' || c = '_') && s.all (fun x => x = c || x = ' ' || x = '\t') &&
      3 ≤ s.count c
  | [] => false

/-- The level of a heading that starts with number signs, and what follows them. -/
def headingSign? (s : List Char) : Option (Nat × List Char) :=
  let signs := s.takeWhile (· = '#')
  let rest := s.drop signs.length
  let level := signs.length
  let open? := match rest with
    | [] => true
    | c :: _ => isLineSpace c
  if 1 ≤ level && level ≤ 6 && open? then some (level, rest) else none

/-- The words of a heading line behind its signs: a closing run of number signs goes when a
space stands before it or nothing does. -/
def headingWords (rest : List Char) : List Char :=
  let s := dropSpacesEnd (rest.dropWhile isLineSpace)
  let closer := (s.reverse.dropWhile (· = '#')).reverse
  if closer.isEmpty then []
  else
    let words := dropSpacesEnd closer
    if words.length < closer.length then words else s
where
  dropSpacesEnd (s : List Char) : List Char := (s.reverse.dropWhile (· = ' ')).reverse

/-- The level of the heading whose words are underlined by this line. -/
def underline? (s : List Char) : Option Nat :=
  match s with
  | c :: _ =>
    if c = '=' || c = '-' then
      if isBlankLine (s.dropWhile (· = c)) then some (if c = '=' then 1 else 2) else none
    else none
  | [] => none

/-- An opening fence: its character, its length and the information behind it. -/
def fence? (s : List Char) : Option (Char × Nat × List Char) :=
  match s with
  | c :: _ =>
    let run := s.takeWhile (· = c)
    let info := s.drop run.length
    if (c = '`' || c = '~') && 3 ≤ run.length && !(c = '`' && info.contains '`') then
      some (c, run.length, info)
    else none
  | [] => none

/-- Whether a line closes a fence of `n` characters `c`. -/
def closesFence (c : Char) (n : Nat) (s : List Char) : Bool :=
  let run := s.takeWhile (· = c)
  n ≤ run.length && (s.drop run.length).all (· = ' ')

/-! ### List items -/

/-- The sign in front of a list item: a bullet, or a number with the mark behind it. -/
structure ItemSign where
  mark : Char
  number : Nat
  width : Nat
  deriving Inhabited

/-- A list with this sign is numbered from its number. -/
def ItemSign.start (i : ItemSign) : Option Nat :=
  if i.mark = '.' || i.mark = ')' then some i.number else none

/-- The sign of a list item at the start of a line, with what follows it: a space, a tab or
nothing. -/
def itemSign? (s : List Char) : Option (ItemSign × List Char) :=
  let closed (sign : ItemSign) (rest : List Char) : Option (ItemSign × List Char) :=
    match rest with
    | [] => some (sign, [])
    | c :: _ => if c = ' ' || c = '\t' then some (sign, rest) else none
  match s with
  | c :: r =>
    if c = '-' || c = '+' || c = '*' then closed ⟨c, 0, 1⟩ r
    else
      let digits := s.takeWhile isDigit
      match s.drop digits.length with
      | m :: rest =>
        if 1 ≤ digits.length && digits.length ≤ 9 && (m = '.' || m = ')') then
          closed ⟨m, digitsValue digits, digits.length + 1⟩ rest
        else none
      | [] => none
  | [] => none

/-- Passes the sign of a list item behind `indent` columns; the number is the column, counted
from the enclosing block, at which the item's content stands. -/
def Cursor.itemSign? (c : Cursor) (indent : Nat) : Option (ItemSign × Nat × Cursor) :=
  if c.slack ≠ 0 || isRule c.rest then none
  else (Markdown.itemSign? c.rest).map fun (sign, rest) =>
    let behind := (Cursor.pass ⟨rest, c.column + sign.width, 0⟩ 1).2
    let base := indent + sign.width + 1
    if isBlankLine behind.rest then (sign, base, behind)
    else
      match behind.pass 4 with
      | (0, _) => (sign, base, behind)
      | (missing, inner) => (sign, base + (4 - missing), inner)

/-! ### Lines of HTML -/

/-- The elements whose tags start lines of HTML wherever they stand. -/
def blockElements : List String :=
  ["address", "article", "aside", "base", "basefont", "blockquote", "body", "caption",
    "center", "col", "colgroup", "dd", "details", "dialog", "dir", "div", "dl", "dt",
    "fieldset", "figcaption", "figure", "footer", "form", "frame", "frameset", "h1", "h2",
    "h3", "h4", "h5", "h6", "head", "header", "hr", "html", "iframe", "legend", "li", "link",
    "main", "menu", "menuitem", "nav", "noframes", "ol", "optgroup", "option", "p", "param",
    "search", "section", "summary", "table", "tbody", "td", "tfoot", "th", "thead", "title",
    "tr", "track", "ul"]

/-- Whether `p` stands at the start of `s`, without regard to case. -/
def startsLike (p : String) (s : List Char) : Bool :=
  (s.take p.length).map lowerChar == p.toList

/-- The text that ends lines of HTML whose first line starts with `<` and goes on with `s`. -/
def htmlEnd? (s : List Char) : Option (List Char) :=
  let verbatim := ["pre", "style", "script", "textarea"].find? fun tag =>
    startsLike tag s && match s.drop tag.length with
      | [] => true
      | c :: _ => isLineSpace c || c = '>'
  match verbatim with
  | some tag => some ("</" ++ tag ++ ">").toList
  | none =>
    if "!--".toList.isPrefixOf s then some "-->".toList
    else if s.head? = some '?' then some "?>".toList
    else if "![CDATA[".toList.isPrefixOf s then some "]]>".toList
    else
      match s with
      | '!' :: c :: _ => if isLetter c then some ['>'] else none
      | _ => none

/-- Whether a line that goes on with `s` behind `<` has a tag of a block element. -/
def startsBlockElement (s : List Char) : Bool :=
  let s := if s.head? = some '/' then s.drop 1 else s
  let name := s.takeWhile isLetterOrDigit
  let open? := match s.drop name.length with
    | [] => true
    | c :: r => c = ' ' || c = '\t' || c = '>' || (c = '/' && r.head? = some '>')
  blockElements.contains (lower (String.ofList name)) && open?

/-- Whether `part` occurs in `s`. -/
def occursIn (part : List Char) : List Char → Bool
  | [] => part.isEmpty
  | c :: r => part.isPrefixOf (c :: r) || occursIn part r

/-! ### Tables -/

/-- The alignments that a line under the head of a table gives: columns of hyphens between
bars, with colons at the sides. -/
def tableRule? (s : List Char) : Option (List Alignment) :=
  let (missing, c) := (Cursor.start s).pass 4
  if missing = 0 || c.rest.isEmpty then none
  else
    let (bar, rest) := match c.rest with
      | '|' :: r => (true, r)
      | r => (false, r)
    go bar false false true .natural [] rest
where
  go (bar hyphen hyphenHere fresh : Bool) (current : Alignment) (columns : List Alignment) :
      List Char → Option (List Alignment)
    | [] =>
      let columns := if fresh then columns else current :: columns
      if bar && hyphen then some columns.reverse else none
    | c :: r =>
      if c = ' ' then go bar hyphen hyphenHere fresh current columns r
      else if c = ':' then
        let current := match fresh, current with
          | true, .natural => .left
          | false, .left => .center
          | false, .natural => .right
          | _, a => a
        go bar hyphen hyphenHere false current columns r
      else if c = '-' then go bar true true false current columns r
      else if c = '|' then
        if hyphenHere then go true hyphen false true .natural (current :: columns) r else none
      else none

/-- How many columns the head of a table has: one more than its bars, of which one at the
start of the line and one at its end do not count. -/
def columnCount (bars : Nat) (leading trailing : Bool) : Nat :=
  let bars := if leading then bars - 1 else bars
  if trailing then bars else bars + 1

/-- The bars of a line: how many there are, and what follows the last. With `pairs`, a
backslash takes the mark behind it along, another backslash included; without, every
backslash hides the bar behind it. -/
def barsOf (pairs : Bool) : Bool → Nat → List Char → List Char → Nat × List Char
  | _, n, last, [] => (n, last)
  | hidden, n, last, c :: r =>
    if c = '\\' then barsOf pairs (if pairs then !hidden else true) n last r
    else if c = '|' && !hidden then barsOf pairs false (n + 1) r r
    else barsOf pairs false n last r

/-- Whether `s`, followed by a line `next`, is the head of a table; then its alignments. -/
def tableHead? (pairs : Bool) (s next : List Char) : Option (List Alignment) :=
  let (bars, behind) := barsOf pairs false 0 [] s
  if bars = 0 then none
  else
    match tableRule? next with
    | some columns =>
      let leading := (s.dropWhile isLineSpace).head? = some '|'
      if columns.length = columnCount bars leading (isBlankLine behind) then some columns
      else none
    | none => none

/-- Cuts a row at its bars; a bar behind a backslash does not cut. `acc` is the cell so far,
reversed. -/
def cutRow (acc : List Char) : List Char → List (List Char)
  | [] => [acc.reverse]
  | '\\' :: c :: r => cutRow (c :: '\\' :: acc) r
  | c :: r => if c = '|' then acc.reverse :: cutRow [] r else cutRow (c :: acc) r

/-- The cells of a row. A bar at the start opens the first cell, and white space behind the
last bar is no cell. -/
def cellsOf (s : List Char) : List (List Char) :=
  let cells := cutRow [] (match s with | '|' :: r => r | r => r)
  let cells := match cells.getLast? with
    | some c => if isBlankLine c then cells.dropLast else cells
    | none => cells
  cells.map trimLine

/-- The cells of a row for `n` columns: missing ones are empty, further ones dropped. -/
def rowOf (n : Nat) (s : List Char) : List (List Char) :=
  let cells := cellsOf s
  cells.take n ++ List.replicate (n - cells.length) []

end Parley.Markdown
