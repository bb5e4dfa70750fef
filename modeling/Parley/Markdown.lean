import Parley.Text.Blank
import Parley.Markdown.Html
import Parley.Markdown.Outline
import Parley.Markdown.Words

/-!
# Marked-up text as HTML

Answers of the assistant are written in a light markup: paragraphs, headings, lists,
quotations, code, tables, emphasis, links and pictures. `Markdown.toHtml` turns such a text
into HTML. HTML in the text itself is shown as text, and every line end inside a paragraph
is a line break.
-/

namespace Parley.Markdown

open Parley.Text

mutual

/-- Reads the words of a block. -/
def readWords (lookup : List Char → Option Target) : Sketch → Block (List Phrase)
  | .table as head rows =>
    let cell := phrasesOf ⟨lookup, true⟩
    .table as (head.map cell) (rows.map (·.map cell))
  | .quote bs => .quote (readWordsAll lookup bs)
  | .list start tight items => .list start tight (readWordsItems lookup items)
  | .paragraph w => .paragraph (phrasesOf ⟨lookup, false⟩ w)
  | .heading n w => .heading n (phrasesOf ⟨lookup, false⟩ w)
  | .rule => .rule
  | .code i s => .code i s
  | .raw s => .raw s

/-- Reads the words of every block. -/
def readWordsAll (lookup : List Char → Option Target) :
    List Sketch → List (Block (List Phrase))
  | [] => []
  | b :: bs => readWords lookup b :: readWordsAll lookup bs

/-- Reads the words of every item. -/
def readWordsItems (lookup : List Char → Option Target) :
    List (List Sketch) → List (List (Block (List Phrase)))
  | [] => []
  | i :: is => readWordsAll lookup i :: readWordsItems lookup is

end

/-- The blocks of a text. Of two definitions of a label the first counts. -/
def blocksOf (text : List Char) : List (Block (List Phrase)) :=
  let o := outlineOf text
  readWordsAll (fun key => (o.definitions.find? (·.1 == key)).map (·.2)) o.finish

/-- The text as HTML. -/
def toHtml (text : String) : String := String.ofList (htmlOf (blocksOf text.toList))

/-- HTML with nothing worth showing: none at all, or an empty paragraph. -/
def isBlankHtml (html : String) : Bool :=
  (trim html).isEmpty || trim html == "<p></p>"

end Parley.Markdown
