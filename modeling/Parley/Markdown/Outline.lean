import Parley.Markdown.Line
import Parley.Markdown.Target
import Parley.Markdown.Tag

/-!
# The blocks of a text

A text is read line by line under a stack of open quotations, lists and list items. A line
first passes the signs of the containers it still belongs to; what it no longer belongs to is
closed; then it may open new containers; and what is left starts a block. The block takes as
many further lines as belong to it, so a paragraph, a piece of code or a table is read in one
go, and the main loop comes back once it is complete.

A list is loose when a blank line stands between two of its items or between two blocks of
one of them. Both are seen only when the next block starts, so the reader remembers whether
the line before was blank.
-/

namespace Parley.Markdown

open Parley.Text

/-- A block whose words are source characters. -/
abbrev Sketch := Block (List Char)

/-- An open container, with the finished blocks in it, latest first. A list item always
stands directly inside a list. -/
inductive Container where
  | quote (done : List Sketch)
  | list (mark : Char) (start : Option Nat) (tight : Bool) (items : List (List Sketch))
  | item (indent : Nat) (done : List Sketch)
  deriving Inhabited

/-- Passes the sign of a container at the start of a line that belongs to it. An item's lines
are indented, blank ones excepted. -/
def Container.pass? (k : Container) (c : Cursor) : Option Cursor :=
  match k with
  | .quote _ => c.quoteSign?
  | .list .. => some c
  | .item n _ =>
    match c.pass n with
    | (0, c') => some c'
    | (_, c') => if c'.rest.isEmpty then some c' else none

/-- Passes the signs of containers, outermost first, as far as the line belongs to them; also
says to how many it does not. -/
def passAll : List Container → Cursor → Nat × Cursor
  | [], c => (0, c)
  | k :: ks, c =>
    match k.pass? c with
    | some c' => passAll ks c'
    | none => (ks.length + 1, c)

/-- Passes the signs of the containers of a stack, given innermost first. -/
def passStack (stack : List Container) (l : Line) : Nat × Cursor :=
  passAll stack.reverse (Cursor.start l.chars)

/-- Passes the signs of all containers of a stack. -/
def passStack? (stack : List Container) (l : Line) : Option Cursor :=
  match passStack stack l with
  | (0, c) => some c
  | _ => none

/-! ### Where a block ends -/

/-- Whether a line of at most three columns' indentation starts a block that a paragraph or
table gives way to. Inside all containers of the paragraph, numbered lists do so only from
one on and items only if something follows on their line or the next. -/
def givesWay (inside inTable : Bool) (s : List Char) (rest : List Line) : Bool :=
  s.isEmpty || isRule s || (headingSign? s).isSome || (fence? s).isSome || s.head? = some '>' ||
    (match itemSign? s with
      | some (sign, behind) =>
        let nextBlank := match rest with
          | l :: _ => isBlankLine l.chars
          | [] => true
        !inside || inTable ||
          ((sign.start.isNone || sign.number = 1) && !(isBlankLine behind && nextBlank))
      | none => false) ||
    (match s with
      | '<' :: r => (htmlEnd? r).isSome || startsBlockElement r
      | _ => false)

/-- The alignments of the table whose head is `s`, if the next line says that it is one. -/
def tableStart? (stack : List Container) (pairs : Bool) (s : List Char) (rest : List Line) :
    Option (List Alignment) :=
  match rest with
  | l :: _ =>
    match passStack? stack l with
    | some c => tableHead? pairs s c.rest
    | none => none
  | [] => none

/-- What a line is to a paragraph above it. -/
inductive Continuation where
  /-- More words; `inside` if the line belongs to all containers of the paragraph. -/
  | words (inside : Bool) (chars : List Char)
  /-- The line under a heading. -/
  | underline (level : Nat)
  /-- No part of it. -/
  | other

/-- What a line, followed by `rest`, is to a paragraph above it. -/
def continuation (stack : List Container) (l : Line) (rest : List Line) : Continuation :=
  let (unmatched, c) := passStack stack l
  let inside := unmatched = 0
  let more : Continuation :=
    if (c.rest.dropWhile fun x => x = ' ' || x = '\t').isEmpty then .other
    else .words inside c.rest
  match c.pass 4 with
  | (0, _) => more
  | (_, c') =>
    let underlined := if inside then underline? c'.rest else none
    match underlined with
    | some level => .underline level
    | none =>
      if givesWay inside false c'.rest rest ||
          (inside && (tableStart? stack false c'.rest rest).isSome) then .other
      else more

/-- The further lines of a paragraph, the level of the heading it is if it is underlined, and
the lines behind it. -/
def paragraphLines (stack : List Container) :
    List Line → List (List Char) × Option Nat × List Line
  | [] => ([], none, [])
  | l :: rest =>
    match continuation stack l rest with
    | .words _ s =>
      let (ws, level, after) := paragraphLines stack rest
      (s :: ws, level, after)
    | .underline level => ([], some level, rest)
    | .other => ([], none, l :: rest)

/-- The further lines that a definition may take. -/
def definitionLines (stack : List Container) : List Line → List (List Char)
  | [] => []
  | l :: rest =>
    match continuation stack l rest with
    | .words true s => s :: definitionLines stack rest
    | _ => []

/-- The further rows of a table, and the lines behind it. -/
def tableRows (stack : List Container) (columns : Nat) :
    List Line → List (List (List Char)) × List Line
  | [] => ([], [])
  | l :: rest =>
    match passStack? stack l with
    | none => ([], l :: rest)
    | some c =>
      let s := c.rest.dropWhile fun x => x = ' ' || x = '\t'
      if givesWay true true s rest || (cellsOf s).isEmpty then ([], l :: rest)
      else
        let (rows, after) := tableRows stack columns rest
        (rowOf columns s :: rows, after)

/-- The further lines of indented code, each with whether it is blank, and the lines behind
it. -/
def indentedLines (stack : List Container) :
    List Line → List (Bool × List Char) × List Line
  | [] => ([], [])
  | l :: rest =>
    match passStack? stack l with
    | none => ([], l :: rest)
    | some c =>
      let (missing, c') := c.pass 4
      if missing = 0 || c'.rest.isEmpty then
        let (ls, after) := indentedLines stack rest
        ((isBlankLine c'.rest, c'.content ++ l.keptEnding) :: ls, after)
      else ([], l :: rest)

/-- The lines of fenced code, and the lines behind the closing fence. -/
def fencedLines (stack : List Container) (mark : Char) (length indent : Nat) :
    List Line → List (List Char) × List Line
  | [] => ([], [])
  | l :: rest =>
    match passStack? stack l with
    | none => ([], l :: rest)
    | some c =>
      let inner := (c.pass indent).2
      let (missing, close) := inner.pass (4 - indent)
      if missing ≠ 0 && closesFence mark length close.rest then ([], rest)
      else
        let (ls, after) := fencedLines stack mark length indent rest
        ((inner.content ++ l.keptEnding) :: ls, after)

/-- The further lines of HTML that ends with a line holding `stop`, and the lines behind.
`last` is the line before. -/
def htmlLinesUntil (stack : List Container) (stop last : List Char) :
    List Line → List (List Char) × List Line
  | [] => ([], [])
  | l :: rest =>
    if occursIn stop last then ([], l :: rest)
    else
      match passStack? stack l with
      | none => ([], l :: rest)
      | some c =>
        let (ls, after) := htmlLinesUntil stack stop c.rest rest
        ((c.content ++ l.keptEnding) :: ls, after)

/-- The further lines of HTML that ends with a blank line, and the lines behind. -/
def htmlLines (stack : List Container) : List Line → List (List Char) × List Line
  | [] => ([], [])
  | l :: rest =>
    match passStack? stack l with
    | none => ([], l :: rest)
    | some c =>
      if isBlankLine c.rest then ([], l :: rest)
      else
        let (ls, after) := htmlLines stack rest
        ((c.content ++ l.keptEnding) :: ls, after)

/-! ### The outline -/

/-- What is known of a text after some of its lines: open containers, innermost first,
finished blocks outside of them, latest first, and the definitions met. -/
structure Outline where
  stack : List Container
  done : List Sketch
  definitions : List (List Char × Target)
  /-- The line before was blank. -/
  blankBefore : Bool
  /-- An item's sign stood alone on its line and no block has followed yet. -/
  bareItem : Bool
  deriving Inhabited

namespace Outline

/-- The text before its first line. -/
def empty : Outline := ⟨[], [], [], false, false⟩

/-- Appends a finished block to the innermost container. -/
def add (o : Outline) (b : Sketch) : Outline :=
  match o.stack with
  | .quote done :: rest => { o with stack := .quote (b :: done) :: rest }
  | .item n done :: rest => { o with stack := .item n (b :: done) :: rest }
  | .list m s t items :: rest => { o with stack := .list m s t ([b] :: items) :: rest }
  | [] => { o with done := b :: o.done }

/-- Closes the innermost container. -/
def close (o : Outline) : Outline :=
  match o.stack with
  | .quote done :: rest => { o with stack := rest }.add (.quote done.reverse)
  | .item _ done :: .list m s t items :: rest =>
    { o with stack := .list m s t (done.reverse :: items) :: rest }
  | .item _ done :: rest => done.reverse.foldl add { o with stack := rest }
  | .list _ s t items :: rest =>
    { o with stack := rest, bareItem := o.bareItem && !t }.add (.list s t items.reverse)
  | [] => o

/-- Closes the `n` innermost containers. -/
def closeMany : Nat → Outline → Outline
  | 0, o => o
  | n + 1, o => closeMany n o.close

/-- Closes an item that began with more than one blank line. -/
def closeBareItem (o : Outline) : Outline :=
  let o' := { o with bareItem := false }
  match o.stack with
  | .item _ _ :: _ => if o.bareItem && o.blankBefore then o'.close else o'
  | _ => o'

/-- The list that the innermost item belongs to is loose if the line before was blank. -/
def loosen (o : Outline) : Outline :=
  if !o.blankBefore then o
  else
    match o.stack with
    | c :: .list m s _ items :: rest =>
      { o with stack := c :: .list m s false items :: rest, blankBefore := false }
    | _ => { o with blankBefore := false }

/-- Before a block that is no item of the innermost list: that list, left open by its items,
ends here. -/
def endList (o : Outline) : Outline :=
  let o := o.closeBareItem
  let o := match o.stack with
    | .list .. :: _ => o.close
    | _ => o
  o.loosen

/-- Before a list item: goes on with a list of the same mark, or starts a new one. -/
def goOnList (o : Outline) (sign : ItemSign) : Outline :=
  let o := o.closeBareItem
  let fresh (o : Outline) : Outline :=
    { o with stack := .list sign.mark sign.start true [] :: o.stack, blankBefore := false }
  match o.stack with
  | .list m s t items :: rest =>
    if m = sign.mark then
      { o with stack := .list m s (t && !o.blankBefore) items :: rest, blankBefore := false }
    else fresh o.endList
  | _ => fresh o.endList

/-- Opens the containers whose signs come next on a line. No place is left when an item's
sign ends the line. `fuel` is at least the length of the line. -/
def openAll : Nat → Outline → Cursor → Outline × Option Cursor
  | 0, o, c => (o, some c)
  | fuel + 1, o, c =>
    let (missing, inner) := c.pass 4
    if missing = 0 then (o, some c)
    else
      match inner.itemSign? (4 - missing) with
      | some (sign, indent, behind) =>
        let o := o.goOnList sign
        let o := { o with stack := .item indent [] :: o.stack }
        if isBlankLine behind.rest then ({ o with bareItem := true }, none)
        else openAll fuel o behind
      | none =>
        match inner.char? '>' with
        | some behind =>
          let o := o.endList
          openAll fuel { o with stack := .quote [] :: o.stack } (behind.pass 1).2
        | none => (o, some c)

/-- Takes in a blank line. It counts for the looseness of lists except directly inside a
quotation, and after it an item without a first line need no longer be indented. -/
def blank (o : Outline) : Outline :=
  match o.stack with
  | .quote _ :: _ => o
  | .item n done :: rest =>
    { o with stack := .item (if o.bareItem then 0 else n) done :: rest, blankBefore := true }
  | _ => { o with blankBefore := true }

/-- The lines of a paragraph as one text. -/
def joinLines (ls : List (List Char)) : List Char := (ls.intersperse ['\n']).flatten

/-- Reads a definition, paragraph, underlined heading or table that starts with `s`. -/
def readWords (o : Outline) (s : List Char) (rest : List Line) : Outline × List Line :=
  match definition? (joinLines (s :: definitionLines o.stack rest)) with
  | some (key, target, behind) =>
    let whole := joinLines (s :: definitionLines o.stack rest)
    let used := (whole.take (whole.length - behind.length)).count '\n'
    ({ o with definitions := o.definitions ++ [(key, target)] }, rest.drop used)
  | none =>
    match tableStart? o.stack true s rest with
    | some alignments =>
      let n := alignments.length
      let (rows, after) := tableRows o.stack n (rest.drop 1)
      (o.add (.table alignments (rowOf n s) rows), after)
    | none =>
      let (ls, level, after) := paragraphLines o.stack rest
      let words := joinLines (s :: ls)
      (o.add (match level with
        | some n => .heading n words
        | none => .paragraph words), after)

/-- Reads the block that starts at `c` in line `l`, with the lines `rest` behind it. -/
def readBlock (o : Outline) (c : Cursor) (l : Line) (rest : List Line) :
    Outline × List Line :=
  let o := o.endList
  let (missing, inner) := c.pass 4
  let indent := 4 - missing
  let s := inner.rest
  let html (ls : List (List Char)) (after : List Line) : Outline × List Line :=
    let first := List.replicate (max c.slack indent) ' ' ++ s ++ l.keptEnding
    (o.add (.raw (first ++ ls.flatten)), after)
  let htmlStop? := match s with
    | '<' :: r => htmlEnd? r
    | _ => none
  let isHtml := match s with
    | '<' :: r => startsBlockElement r || (match passTag? s with
      | some behind => isBlankLine behind
      | none => false)
    | _ => false
  if missing = 0 then
    let (ls, after) := indentedLines o.stack rest
    let kept := (ls.reverse.dropWhile Prod.fst).reverse.map Prod.snd
    let o := { o with blankBefore := (ls.getLast?.map Prod.fst).getD false }
    (o.add (.code none (inner.content ++ l.keptEnding ++ kept.flatten)), after)
  else
    match htmlStop? with
    | some stop =>
      let (ls, after) := htmlLinesUntil o.stack stop s rest
      html ls after
    | none =>
      if isHtml then
        let (ls, after) := htmlLines o.stack rest
        html ls after
      else if isRule s then (o.add .rule, rest)
      else
        match headingSign? s, fence? s with
        | some (level, words), _ => (o.add (.heading level (headingWords words)), rest)
        | none, some (mark, length, info) =>
          let (ls, after) := fencedLines o.stack mark length indent rest
          (o.add (.code (some (unescape (trimLine info))) ls.flatten), after)
        | none, none => o.readWords s rest

/-- Reads what starts with a line: a blank line, or a block with its containers. -/
def readLine (o : Outline) (l : Line) (rest : List Line) : Outline × List Line :=
  let (unmatched, c) := passStack o.stack l
  match openAll (l.chars.length + 1) (o.closeMany unmatched) c with
  | (o, none) => (o, rest)
  | (o, some c) => if isBlankLine c.rest then (o.blank, rest) else o.readBlock c l rest

/-- Reads lines; `fuel` is at least their number. -/
def readLines : Nat → Outline → List Line → Outline
  | 0, o, _ => o
  | _, o, [] => o
  | fuel + 1, o, l :: rest =>
    let (o, after) := o.readLine l rest
    readLines fuel o after

/-- The blocks of the text once it has ended. -/
def finish (o : Outline) : List Sketch := (o.closeMany o.stack.length).done.reverse

end Outline

/-- The outline of a text. -/
def outlineOf (text : List Char) : Outline :=
  let ls := linesOf text
  Outline.empty.readLines ls.length ls

end Parley.Markdown
