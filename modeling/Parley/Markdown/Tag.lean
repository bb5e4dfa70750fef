import Parley.Text.Ascii
import Parley.Markdown.Target

/-!
# HTML written in a text

Tags, comments, instructions and declarations are recognised so that nothing inside them is
read as a mark. Each function takes the text from where the piece starts and returns what
stands behind it.
-/

namespace Parley.Markdown

open Parley.Text

/-- What stands behind the first occurrence of `part`. -/
def behind? (part : List Char) : List Char → Option (List Char)
  | [] => none
  | c :: r => if part.isPrefixOf (c :: r) then some ((c :: r).drop part.length) else behind? part r

/-- Passes white space, line ends included. -/
def passSpace (s : List Char) : List Char := s.dropWhile isSpaceOrEnd

/-- Passes the value of an attribute. -/
def passValue? (s : List Char) : Option (List Char) :=
  match s with
  | [] => none
  | c :: r =>
    if c = '"' || c = '\'' then behind? [c] r
    else
      let value := s.takeWhile fun c => !("\"' =><`\n\r".toList.contains c)
      if " =><`\n\r".toList.contains c then none else some (s.drop value.length)

/-- Passes an attribute of a tag. -/
def passAttribute? (s : List Char) : Option (List Char) :=
  match s with
  | c :: r =>
    if isLetter c || c = '_' || c = ':' then
      let rest := r.dropWhile fun c =>
        isLetterOrDigit c || c = '_' || c = '.' || c = ':' || c = '-'
      match passSpace rest with
      | '=' :: v => passValue? (passSpace v)
      | _ => some rest
    else none
  | [] => none

/-- Passes the attributes and the end of an opening tag; `fuel` is at least the length of the
text. -/
def passAttributes? : Nat → List Char → Option (List Char)
  | 0, _ => none
  | fuel + 1, s =>
    match passSpace s with
    | '>' :: r => some r
    | '/' :: '>' :: r => some r
    | t => if t.length = s.length then none else passAttribute? t >>= passAttributes? fuel

/-- Passes a tag, from its `<` on. -/
def passTag? (s : List Char) : Option (List Char) :=
  match s with
  | '<' :: '/' :: c :: r =>
    if isLetter c then
      match passSpace (r.dropWhile fun c => isLetterOrDigit c || c = '-') with
      | '>' :: rest => some rest
      | _ => none
    else none
  | '<' :: c :: r =>
    if isLetter c then
      let rest := r.dropWhile fun c => isLetterOrDigit c || c = '-'
      passAttributes? (rest.length + 1) rest
    else none
  | _ => none

/-- Passes a tag, comment, instruction or declaration, from its `<` on. -/
def passHtml? (s : List Char) : Option (List Char) :=
  match s with
  | '<' :: '!' :: '-' :: '-' :: r =>
    match r with
    | '>' :: rest => some rest
    | '-' :: '>' :: rest => some rest
    | _ => behind? "-->".toList r
  | '<' :: '!' :: '[' :: r =>
    if "CDATA[".toList.isPrefixOf r then behind? "]]>".toList (r.drop 6) else none
  | '<' :: '!' :: c :: r => if isLetter c then behind? ['>'] r else none
  | '<' :: '?' :: r => behind? "?>".toList r
  | _ => passTag? s

end Parley.Markdown
