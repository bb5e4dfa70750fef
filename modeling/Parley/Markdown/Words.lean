import Parley.Text.Entity
import Parley.Markdown.Line
import Parley.Markdown.Mark
import Parley.Markdown.Target
import Parley.Markdown.Tag

/-!
# Reading the words of a block

The words of a block are read once from left to right. Code, pointed links and pieces of
HTML are taken as soon as they start, so nothing inside them counts. Brackets wait on a
stack: a closing bracket looks at what follows it, and then either makes a link or a picture
of everything since its opening one, or leaves both as characters. A link made inside another
bracket keeps that one from becoming a link.

Emphasis is settled afterwards, separately inside and outside of every link.
-/

namespace Parley.Markdown

open Parley.Text

/-- What the reading of words depends on: the targets of the known labels, and whether the
words stand in a table, where a backslash before a bar disappears even in code. -/
structure Surroundings where
  lookup : List Char → Option Target
  inTable : Bool

/-! ### Code -/

/-- Finds the next run of exactly `n` backticks: what stands before it and behind it. -/
def codeFrom (n : Nat) : Nat → List Char → List Char → Option (List Char × List Char)
  | 0, _, _ => none
  | _, _, [] => none
  | fuel + 1, acc, c :: r =>
    if c = '`' then
      let run := 1 + (r.takeWhile (· = '`')).length
      if run = n then some (acc.reverse, r.drop (run - 1))
      else codeFrom n fuel (List.replicate run '`' ++ acc) (r.drop (run - 1))
    else codeFrom n fuel (c :: acc) r

/-- Bars without the backslash before them. -/
def unescapeBars : List Char → List Char
  | '\\' :: '|' :: r => '|' :: unescapeBars r
  | c :: r => c :: unescapeBars r
  | [] => []

/-- The characters of a piece of code: line ends are spaces, and one space at both ends goes
if there is one at both and something else besides. -/
def codeChars (inTable : Bool) (s : List Char) : List Char :=
  let s := s.map fun c => if c = '\n' then ' ' else c
  let s := if inTable then unescapeBars s else s
  if s.head? = some ' ' && s.getLast? = some ' ' && !s.all (· = ' ') then
    (s.drop 1).dropLast
  else s

/-! ### Pointed links -/

/-- Reads an address with a scheme, behind `<`. -/
def pointedAddress? (s : List Char) : Option (List Char × List Char) :=
  let scheme := s.takeWhile fun c => isLetterOrDigit c || c = '.' || c = '-' || c = '+'
  let opens := match s with
    | c :: _ => isLetter c
    | [] => false
  match s.drop scheme.length with
  | ':' :: r =>
    let path := r.takeWhile fun c => c ≠ '>' && c ≠ '<' && 0x20 < c.toNat
    match r.drop path.length with
    | '>' :: rest =>
      if opens && 2 ≤ scheme.length && scheme.length ≤ 32 then
        some (scheme ++ ':' :: path, rest)
      else none
    | _ => none
  | _ => none

/-- Whether `s` is a name of a mail host: labels of up to sixty-three letters, digits and
inner hyphens. -/
def isHost (s : List Char) : Bool :=
  (splitChars '.' s).all fun l =>
    1 ≤ l.length && l.length ≤ 63 && l.all (fun c => isLetterOrDigit c || c = '-') &&
      l.head? ≠ some '-' && l.getLast? ≠ some '-'

/-- Reads a mail address, behind `<`. -/
def pointedMail? (s : List Char) : Option (List Char × List Char) :=
  let user := s.takeWhile fun c =>
    isLetterOrDigit c || ".!#$%&'*+/=?^_`{|}~-".toList.contains c
  match s.drop user.length with
  | '@' :: r =>
    let host := r.takeWhile fun c => isLetterOrDigit c || c = '-' || c = '.'
    match r.drop host.length with
    | '>' :: rest =>
      if !user.isEmpty && isHost host then some (user ++ '@' :: host, rest) else none
    | _ => none
  | _ => none

/-! ### Brackets -/

/-- An opening bracket that waits for its closing one: the text behind it, and the tokens in
front of it, latest first. -/
structure Bracket where
  image : Bool
  /-- Whether a link may still be made of it. -/
  live : Bool
  source : List Char
  before : List Token
  deriving Inhabited

/-- The characters of an opening bracket. -/
def Bracket.sign (b : Bracket) : List Char := if b.image then ['!', '['] else ['[']

/-- The words read so far: tokens since the innermost open bracket, latest first, and the
open brackets, innermost first. -/
structure Reading where
  tokens : List Token
  brackets : List Bracket
  deriving Inhabited

/-- Appends a token. -/
def Reading.push (s : Reading) (t : Token) : Reading := { s with tokens := t :: s.tokens }

/-- Appends plain characters. -/
def Reading.text (s : Reading) (cs : List Char) : Reading := s.push (.phrase (.text cs))

/-- Opens a bracket. -/
def Reading.openBracket (s : Reading) (image : Bool) (source : List Char) : Reading :=
  ⟨[], ⟨image, true, source, s.tokens⟩ :: s.brackets⟩

/-- Leaves the innermost open bracket as characters. -/
def Reading.dropBracket (s : Reading) : Reading :=
  match s.brackets with
  | b :: bs => ⟨s.tokens ++ .phrase (.text b.sign) :: b.before, bs⟩
  | [] => s

/-- What follows a closing bracket: the target that the two brackets and what follows them
name, and the text behind. `label` is what stands between the brackets. -/
def followingTarget? (around : Surroundings) (label rest : List Char) :
    Option (Target × List Char) :=
  let inPlace := match rest with
    | '(' :: r => target? r
    | _ => none
  let own : Option Target :=
    match label? (label ++ [']']) with
    | some (l, []) => around.lookup (labelKey l)
    | _ => none
  match inPlace with
  | some t => some t
  | none =>
    match rest with
    | '[' :: ']' :: r => own.map (·, r)
    | '[' :: r =>
      match label? r with
      | some (l, r) => (around.lookup (labelKey l)).map (·, r)
      | none => own.map (·, rest)
    | _ => own.map (·, rest)

/-- Takes in a closing bracket with the text behind it; returns the text still to be read. -/
def Reading.closeBracket (around : Surroundings) (s : Reading) (rest : List Char) :
    Reading × List Char :=
  match s.brackets with
  | [] => (s.text [']'], rest)
  | b :: bs =>
    let label := b.source.take (b.source.length - (rest.length + 1))
    match if b.live then followingTarget? around label rest else none with
    | none => (s.dropBracket.text [']'], rest)
    | some (t, rest) =>
      let body := nest s.tokens.reverse
      if b.image then
        (⟨.phrase (.image t.address t.title body) :: b.before, bs⟩, rest)
      else
        let outer := bs.map fun b => { b with live := b.live && b.image }
        (⟨.phrase (.link t.address t.title body) :: b.before, outer⟩, rest)

/-- All tokens, open brackets as characters. -/
def Reading.finish (s : Reading) : List Token :=
  (s.brackets.foldl (fun ts b => ts ++ .phrase (.text b.sign) :: b.before) s.tokens).reverse

/-! ### The words -/

/-- Reads words; `before` is the character in front unless a line starts here, and `fuel` is
at least the length of the text. -/
def readFrom (around : Surroundings) :
    Nat → Option Char → List Char → Reading → Reading
  | 0, _, _, s => s
  | _, _, [], s => s
  | fuel + 1, before, c :: r, s =>
    let literal := fun (_ : Unit) => readFrom around fuel (some c) r (s.text [c])
    if c = '\\' then
      match r with
      | '\n' :: r =>
        readFrom around fuel none (r.dropWhile isLineSpace) (s.push (.phrase .lineBreak))
      | d :: r => if isAsciiMark d then readFrom around fuel (some d) r (s.text [d]) else literal ()
      | [] => literal ()
    else if c = '\n' then
      readFrom around fuel none (r.dropWhile isLineSpace) (s.push (.phrase .lineBreak))
    else if isLineSpace c then
      match (c :: r).dropWhile isLineSpace with
      | [] => s
      | '\n' :: r =>
        readFrom around fuel none (r.dropWhile isLineSpace) (s.push (.phrase .lineBreak))
      | _ => literal ()
    else if c = '`' then
      let run := 1 + (r.takeWhile (· = '`')).length
      let rest := r.drop (run - 1)
      match codeFrom run (rest.length + 1) [] rest with
      | some (code, rest) =>
        readFrom around fuel (some '`') rest
          (s.push (.phrase (.code (codeChars around.inTable code))))
      | none => readFrom around fuel (some '`') rest (s.text (List.replicate run '`'))
    else if c = '<' then
      match pointedAddress? r with
      | some (a, rest) =>
        readFrom around fuel (some '>') rest (s.push (.phrase (.link a [] [.text a])))
      | none =>
        match pointedMail? r with
        | some (a, rest) =>
          readFrom around fuel (some '>') rest
            (s.push (.phrase (.link ("mailto:".toList ++ a) [] [.text a])))
        | none =>
          match passHtml? (c :: r) with
          | some rest =>
            let raw := (c :: r).take ((c :: r).length - rest.length)
            readFrom around fuel (some '>') rest (s.push (.phrase (.raw raw)))
          | none => literal ()
    else if c = '!' && r.head? = some '[' then
      readFrom around fuel (some '[') (r.drop 1) (s.openBracket true (r.drop 1))
    else if c = '[' then readFrom around fuel (some '[') r (s.openBracket false r)
    else if c = ']' then
      let (s, rest) := s.closeBracket around r
      let last := (r.take (r.length - rest.length)).getLast?.getD ']'
      readFrom around fuel (some last) rest s
    else if c = '&' then
      match entity? r with
      | some (cs, rest) => readFrom around fuel (some ';') rest (s.text cs)
      | none => literal ()
    else if c = '*' || c = '_' || c = '~' then
      let count := 1 + (r.takeWhile (· = c)).length
      let rest := r.drop (count - 1)
      let opens := mayOpen c count before rest.head?
      let closes := mayClose c count before rest.head?
      if (opens || closes) && (c ≠ '~' || count ≤ 2) then
        readFrom around fuel (some c) rest (s.push (.marks c count opens closes))
      else readFrom around fuel (some c) rest (s.text (List.replicate count c))
    else literal ()

/-- The phrases of a block's words, whose lines are separated by line feeds. -/
def phrasesOf (around : Surroundings) (s : List Char) : List Phrase :=
  let s := s.dropWhile isLineSpace
  nest (readFrom around (s.length + 1) none s ⟨[], []⟩).finish

end Parley.Markdown
