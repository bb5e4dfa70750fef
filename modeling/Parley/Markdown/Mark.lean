import Parley.Text.Blank
import Parley.Text.Mark
import Parley.Markdown.Tree

/-!
# Emphasis

Runs of `*`, `_` and `~` open and close emphasis. Whether a run may open or close depends on
the characters beside it; which runs belong together is settled from left to right: a run
that may close looks for the nearest run of its kind that is still open, and everything
opened in between becomes plain characters.

Two runs that could both open and close match only if their lengths do not add up to a
multiple of three, unless both are multiples themselves. Tildes match only in runs of the
same length, one or two.
-/

namespace Parley.Markdown

open Parley.Text

/-- What a line of words is cut into: finished phrases, and runs of marks. -/
inductive Token where
  | phrase (x : Phrase)
  | marks (c : Char) (count : Nat) (opens closes : Bool)
  deriving Inhabited

/-- Whether a run of `count` marks `c` may open emphasis, given its neighbours. -/
def mayOpen (c : Char) (count : Nat) (before after : Option Char) : Bool :=
  match after with
  | none => false
  | some a =>
    if isBlank a then false
    else
      match before with
      | none => true
      | some b =>
        (c = '*' && !isMark a) || (c = '~' && 1 < count) || (c = '~' && b = '~' && !isMark a) ||
          isBlank b || isMark b

/-- Whether a run of `count` marks `c` may close emphasis, given its neighbours. -/
def mayClose (c : Char) (count : Nat) (before after : Option Char) : Bool :=
  match before with
  | none => false
  | some b =>
    if isBlank b then false
    else
      match after with
      | none => true
      | some a =>
        ((c = '*' || (c = '~' && 1 < count)) && !isMark b) || (c = '~' && b = '~') ||
          isBlank a || isMark a

/-- A run that is still open: how many of its marks are left, how many there were, whether
it could have closed as well, and the phrases behind it, latest first. -/
structure Opener where
  mark : Char
  left : Nat
  length : Nat
  both : Bool
  inner : List Phrase
  deriving Inhabited

/-- Phrases under construction: those behind each open run, innermost first, and those in
front of all of them. The lowest `tildeFloor` open runs are out of reach for tildes. -/
structure Nesting where
  openers : List Opener
  base : List Phrase
  tildeFloor : Nat
  deriving Inhabited

/-- Appends a phrase. -/
def Nesting.push (n : Nesting) (x : Phrase) : Nesting :=
  match n.openers with
  | o :: os => { n with openers := { o with inner := x :: o.inner } :: os }
  | [] => { n with base := x :: n.base }

/-- Marks that turned out to be plain characters. -/
def plainMarks (c : Char) (count : Nat) : Phrase := .text (List.replicate count c)

/-- Phrases of open runs with the runs themselves as plain characters, latest first; the runs
are given innermost first. -/
def flattenOpeners : List Opener → List Phrase
  | [] => []
  | o :: os => o.inner ++ plainMarks o.mark o.left :: flattenOpeners os

/-- Whether a closing run of length `length` fits an open one. -/
def Opener.fits (c : Char) (length : Nat) (both : Bool) (o : Opener) : Bool :=
  o.mark = c && (c ≠ '~' || o.length = length) &&
    ((!both && !o.both) || (length + o.length) % 3 ≠ 0 || length % 3 = 0)

/-- Puts `count` pairs of marks around phrases, two at a time from the inside. -/
def wrapMarks (c : Char) (count : Nat) (body : List Phrase) : List Phrase :=
  if c = '~' then [.struck body]
  else
    let strong := (List.range (count / 2)).foldl (fun b _ => [Phrase.strong b]) body
    if count % 2 = 1 then [.emphasis strong] else strong

/-- Closes as much as `left` marks can; returns how many remain. `fuel` is at least `left`. -/
def closeMarks (c : Char) (length : Nat) (both : Bool) :
    Nat → Nat → Nesting → Nat × Nesting
  | 0, left, n => (left, n)
  | fuel + 1, left, n =>
    if left = 0 then (0, n)
    else
      let reach := n.openers.length - (if c = '~' then n.tildeFloor else 0)
      let skipped := (n.openers.take reach).takeWhile fun o => !o.fits c length both
      match (n.openers.take reach).drop skipped.length with
      | [] =>
        (left, { n with tildeFloor := if c = '~' then n.openers.length else n.tildeFloor })
      | o :: _ =>
        let below := n.openers.drop (skipped.length + 1)
        let used := min left o.left
        let body := (flattenOpeners skipped ++ o.inner).reverse
        let wrapped := wrapMarks c used body
        let n : Nesting := { n with
          openers := below, tildeFloor := min n.tildeFloor below.length }
        let n :=
          if used < o.left then
            { n with openers := { o with left := o.left - used, inner := wrapped } :: below }
          else wrapped.foldl Nesting.push n
        closeMarks c length both fuel (left - used) n

/-- Takes in one token. -/
def Nesting.take (n : Nesting) : Token → Nesting
  | .phrase x => n.push x
  | .marks c count opens closes =>
    let both := opens && closes
    let (left, n) := if closes then closeMarks c count both count count n else (count, n)
    if left = 0 then n
    else if opens then
      { n with openers := ⟨c, left, count, both, []⟩ :: n.openers }
    else n.push (plainMarks c left)

/-- The phrases that a sequence of tokens makes. -/
def nest (tokens : List Token) : List Phrase :=
  let n := tokens.foldl Nesting.take ⟨[], [], 0⟩
  (flattenOpeners n.openers ++ n.base).reverse

end Parley.Markdown
