/-!
# The tree of a marked-up text

A text is a sequence of *blocks*; the words inside a block are a sequence of *phrases*.
Blocks are read first and phrases only when every link definition of the text is known, so
a block is generic in what it holds for its words: source characters at first, phrases in
the end.
-/

namespace Parley.Markdown

/-- The words inside a block. -/
inductive Phrase where
  /-- Plain characters. -/
  | text (chars : List Char)
  /-- Characters to be shown literally. -/
  | code (chars : List Char)
  /-- A tag, comment or other piece of HTML written in the text. -/
  | raw (chars : List Char)
  /-- The end of a source line inside a block. -/
  | lineBreak
  | emphasis (body : List Phrase)
  | strong (body : List Phrase)
  | struck (body : List Phrase)
  | link (destination title : List Char) (body : List Phrase)
  | image (source title : List Char) (body : List Phrase)
  deriving Inhabited

/-- How the cells of a column are set. -/
inductive Alignment where
  | natural
  | left
  | center
  | right
  deriving DecidableEq, Repr, Inhabited

/-- The blocks of a text, over what they hold for their words. -/
inductive Block (φ : Type) where
  | paragraph (words : φ)
  | heading (level : Nat) (words : φ)
  /-- A line across the page. -/
  | rule
  /-- Code, with the information given behind an opening fence. -/
  | code (info : Option (List Char)) (chars : List Char)
  /-- Lines of HTML written in the text. -/
  | raw (chars : List Char)
  | quote (body : List (Block φ))
  /-- A list, numbered from `start` or with bullets. In a tight list the items' own
  paragraphs are set without space around them. -/
  | list (start : Option Nat) (tight : Bool) (items : List (List (Block φ)))
  | table (alignments : List Alignment) (head : List φ) (rows : List (List φ))
  deriving Inhabited

end Parley.Markdown
