import Parley.Text.Ascii
import Parley.Markdown.Tree

/-!
# Writing a tree as HTML

The output is a sequence of *pieces*: tags from a fixed set with attributes from a fixed
set, characters of the text, and line ends. Only tags bring `<` and `>` into the output;
whatever comes from the text passes one of three escapes, chosen by where it lands:
between tags, inside a quoted attribute, or as an address.

Pieces of HTML written in the text are text like any other: they are shown, not obeyed.
-/

namespace Parley.Markdown

open Parley.Text

/-! ### Escapes -/

/-- A character between tags. -/
def escapeBodyChar (c : Char) : List Char :=
  if c = '&' then "&amp;".toList
  else if c = '<' then "&lt;".toList
  else if c = '>' then "&gt;".toList
  else [c]

/-- A character inside a quoted attribute. -/
def escapeAttributeChar (c : Char) : List Char :=
  if c = '"' then "&quot;".toList else escapeBodyChar c

/-- The characters that an address holds as they are. -/
def isAddressChar (c : Char) : Bool :=
  isLetterOrDigit c || "!#$%()*+,-./:;=?@_~".toList.contains c

/-- A byte as a percent sign and two capital hexadecimal digits. -/
def percentByte (b : Nat) : List Char := ['%', hexDigitUpper (b / 16), hexDigitUpper b]

/-- A character of an address: safe ones as they are, `&` and `'` as references, all others
byte by byte. -/
def escapeAddressChar (c : Char) : List Char :=
  if isAddressChar c then [c]
  else if c = '&' then "&amp;".toList
  else if c = '\'' then "&#x27;".toList
  else (String.singleton c).toUTF8.toList.flatMap fun b => percentByte b.toNat

/-! ### Tags -/

/-- The elements a text can give rise to. -/
inductive Element where
  | p | heading (level : Nat) | hr | pre | code | blockquote | ol | ul | li
  | table | thead | tbody | tr | th | td | em | strong | del | a | img | br
  deriving DecidableEq, Repr, Inhabited

/-- The name of an element. -/
def Element.name : Element → List Char
  | .p => ['p']
  | .heading n => 'h' :: decimal n
  | .hr => "hr".toList
  | .pre => "pre".toList
  | .code => "code".toList
  | .blockquote => "blockquote".toList
  | .ol => "ol".toList
  | .ul => "ul".toList
  | .li => "li".toList
  | .table => "table".toList
  | .thead => "thead".toList
  | .tbody => "tbody".toList
  | .tr => "tr".toList
  | .th => "th".toList
  | .td => "td".toList
  | .em => "em".toList
  | .strong => "strong".toList
  | .del => "del".toList
  | .a => ['a']
  | .img => "img".toList
  | .br => "br".toList

/-- The attributes a tag can carry. -/
inductive Attribute where
  | href (address : List Char)
  | src (address : List Char)
  | alt (chars : List Char)
  | title (chars : List Char)
  /-- The language of a piece of code. -/
  | language (name : List Char)
  /-- The number of a list's first item. -/
  | start (number : Nat)
  /-- How a cell is set. -/
  | align (side : List Char)
  deriving Inhabited

/-- The value of an attribute as it stands between its quotes. -/
def Attribute.value : Attribute → List Char
  | .href s | .src s => s.flatMap escapeAddressChar
  | .alt s | .title s => s.flatMap escapeAttributeChar
  | .language s => "language-".toList ++ s.flatMap escapeAttributeChar
  | .start n => decimal n
  | .align s => "text-align: ".toList ++ s

/-- The name of an attribute. -/
def Attribute.name : Attribute → List Char
  | .href _ => "href".toList
  | .src _ => "src".toList
  | .alt _ => "alt".toList
  | .title _ => "title".toList
  | .language _ => "class".toList
  | .start _ => "start".toList
  | .align _ => "style".toList

/-- An attribute with the space in front of it. -/
def Attribute.spell (a : Attribute) : List Char :=
  ' ' :: a.name ++ '=' :: '"' :: a.value ++ ['"']

/-- What the output is made of. -/
inductive Piece where
  | opening (e : Element) (attributes : List Attribute)
  | closing (e : Element)
  /-- An element without content. -/
  | lone (e : Element) (attributes : List Attribute)
  /-- Characters that come from the text. -/
  | chars (s : List Char)
  | newline
  /-- A line end unless the output stands at the start of a line. -/
  | freshLine
  deriving Inhabited

/-- The characters of a piece, given whether it starts a line. -/
def Piece.spell (atStart : Bool) : Piece → List Char
  | .opening e attrs => '<' :: e.name ++ attrs.flatMap Attribute.spell ++ ['>']
  | .closing e => '<' :: '/' :: e.name ++ ['>']
  | .lone e attrs => '<' :: e.name ++ attrs.flatMap Attribute.spell ++ " />".toList
  | .chars s => s.flatMap escapeBodyChar
  | .newline => ['\n']
  | .freshLine => if atStart then [] else ['\n']

/-- Whether output that stood at the start of a line or not does so after `s`. -/
def startsLine (atStart : Bool) (s : List Char) : Bool :=
  match s.getLast? with
  | some c => c == '\n'
  | none => atStart

/-- The characters of a sequence of pieces. -/
def spellAll (atStart : Bool) : List Piece → List Char
  | [] => []
  | p :: ps =>
    let s := p.spell atStart
    s ++ spellAll (startsLine atStart s) ps

/-! ### Phrases -/

mutual

/-- The words of a phrase without their marks, as they stand in place of a picture. -/
def Phrase.plain : Phrase → List Char
  | .text s | .code s | .raw s => s
  | .lineBreak => [' ']
  | .emphasis b | .strong b | .struck b => plainAll b
  | .link _ _ b | .image _ _ b => plainAll b

/-- The words of a sequence of phrases without their marks. -/
def plainAll : List Phrase → List Char
  | [] => []
  | x :: xs => x.plain ++ plainAll xs

end

/-- A title attribute, when there is a title. -/
def titleAttribute (title : List Char) : List Attribute :=
  if title.isEmpty then [] else [.title title]

mutual

/-- The pieces of a phrase. -/
def Phrase.pieces : Phrase → List Piece
  | .text s | .raw s => [.chars s]
  | .code s => [.opening .code [], .chars s, .closing .code]
  | .lineBreak => [.lone .br [], .newline]
  | .emphasis b => .opening .em [] :: (phrasePieces b ++ [.closing .em])
  | .strong b => .opening .strong [] :: (phrasePieces b ++ [.closing .strong])
  | .struck b => .opening .del [] :: (phrasePieces b ++ [.closing .del])
  | .link d t b => .opening .a (.href d :: titleAttribute t) :: (phrasePieces b ++ [.closing .a])
  | .image s t b => [.lone .img (.src s :: .alt (plainAll b) :: titleAttribute t)]

/-- The pieces of a sequence of phrases. -/
def phrasePieces : List Phrase → List Piece
  | [] => []
  | x :: xs => x.pieces ++ phrasePieces xs

end

/-! ### Blocks -/

/-- The attribute for how a cell is set. -/
def Alignment.attributes : Alignment → List Attribute
  | .natural => []
  | .left => [.align "left".toList]
  | .center => [.align "center".toList]
  | .right => [.align "right".toList]

/-- The cells of a row under their alignments. -/
def cellPieces (e : Element) (alignments : List Alignment) (cells : List (List Phrase)) :
    List Piece :=
  (cells.zip (alignments ++ List.replicate cells.length .natural)).flatMap fun (words, a) =>
    .opening e a.attributes :: (phrasePieces words ++ [.closing e])

/-- The attribute of a code block: the language is what comes before the first space of the
information behind its fence. -/
def languageAttribute : Option (List Char) → List Attribute
  | none => []
  | some info =>
    let name := info.takeWhile (· ≠ ' ')
    if name.isEmpty then [] else [.language name]

/-- The tag that opens a list. -/
def listOpening : Option Nat → Piece
  | none => .opening .ul []
  | some n => .opening .ol (if n = 1 then [] else [.start n])

/-- The tag that closes a list. -/
def listClosing : Option Nat → Piece
  | none => .closing .ul
  | some _ => .closing .ol

mutual

/-- The pieces of a block; `bare` paragraphs, those of a tight list's items, have no tags of
their own. -/
def blockPieces (bare : Bool) : Block (List Phrase) → List Piece
  | .paragraph w =>
    if bare then phrasePieces w
    else [.freshLine, .opening .p []] ++ phrasePieces w ++ [.closing .p, .newline]
  | .heading n w =>
    [.freshLine, .opening (.heading n) []] ++ phrasePieces w ++ [.closing (.heading n), .newline]
  | .rule => [.freshLine, .lone .hr [], .newline]
  | .code info s =>
    [.freshLine, .opening .pre [], .opening .code (languageAttribute info), .chars s,
      .closing .code, .closing .pre, .newline]
  | .raw s => [.chars s]
  | .quote bs =>
    [.freshLine, .opening .blockquote [], .newline] ++ blocksPieces false bs ++
      [.closing .blockquote, .newline]
  | .list start tight items =>
    [.freshLine, listOpening start, .newline] ++ itemsPieces tight items ++
      [listClosing start, .newline]
  | .table as head rows =>
    [.opening .table [], .opening .thead [], .opening .tr []] ++ cellPieces .th as head ++
      [.closing .tr, .closing .thead, .opening .tbody [], .newline] ++
      rows.flatMap (fun row =>
        .opening .tr [] :: (cellPieces .td as row ++ [.closing .tr, .newline])) ++
      [.closing .tbody, .closing .table, .newline]

/-- The pieces of a sequence of blocks. -/
def blocksPieces (bare : Bool) : List (Block (List Phrase)) → List Piece
  | [] => []
  | b :: bs => blockPieces bare b ++ blocksPieces bare bs

/-- The pieces of the items of a list. -/
def itemsPieces (tight : Bool) : List (List (Block (List Phrase))) → List Piece
  | [] => []
  | i :: is =>
    [.freshLine, .opening .li []] ++ blocksPieces tight i ++ [.closing .li, .newline] ++
      itemsPieces tight is

end

/-- The HTML of a text's tree. -/
def htmlOf (blocks : List (Block (List Phrase))) : List Char :=
  spellAll true (blocksPieces false blocks)

end Parley.Markdown
