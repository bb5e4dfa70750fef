import Parley.Proofs.Markdown.Levels
import Parley.Proofs.Markdown.Marks

/-!
# The tags that a text gives rise to

The HTML of a text has tags of a fixed set, with attributes of a fixed set
(`Parley.Markdown.IsPermitted`), and each of them is there because of a block or a phrase. All the
rest of it is characters, however much they look like tags in the text: nothing in words, code,
HTML, titles, addresses, or in what stands in place of an image, begins or ends a tag or a value.
The pieces of phrases and blocks are gone through one by one for that
(`Parley.Markdown.areProper_phrasePieces`, `Parley.Markdown.areProper_blocksPieces`), and pieces are
read as what they say.
-/

namespace Parley.Markdown

open Parley.Text
open Html (Mark)

/-! ### What may be written -/

/-- The elements that need no attributes. -/
def bareNames : List (List Char) :=
  ["p", "h1", "h2", "h3", "h4", "h5", "h6", "pre", "code", "blockquote", "ol", "ul", "li", "table",
    "thead", "tbody", "tr", "th", "td", "em", "strong", "del"].map String.toList

/-- **What may be written**: any character, and the tags of a fixed set, each with attributes of a
fixed set. -/
inductive IsPermitted : Mark → Prop
  | char (c : Char) : IsPermitted (.char c)
  | closing {name : List Char} (h : name ∈ "a".toList :: bareNames) : IsPermitted (.closing name)
  | bare {name : List Char} (h : name ∈ bareNames) : IsPermitted (.opening ⟨name, []⟩ false)
  /-- A line across the page, or the end of a line. -/
  | lone {name : List Char} (h : name ∈ ["hr".toList, "br".toList]) :
      IsPermitted (.opening ⟨name, []⟩ true)
  /-- A piece of code in a language. -/
  | code (language : List Char) : IsPermitted
      (.opening ⟨"code".toList, [("class".toList, "language-".toList ++ language)]⟩ false)
  /-- A list that is not numbered from one. -/
  | numbered (n : Nat) :
      IsPermitted (.opening ⟨"ol".toList, [("start".toList, decimal n)]⟩ false)
  /-- A cell that is not set as usual. -/
  | cell {name side : List Char} (h : name ∈ ["th".toList, "td".toList])
      (hside : side ∈ ["left".toList, "center".toList, "right".toList]) : IsPermitted
      (.opening ⟨name, [("style".toList, "text-align: ".toList ++ side)]⟩ false)
  | link (address : List Char) :
      IsPermitted (.opening ⟨"a".toList, [("href".toList, address)]⟩ false)
  | titledLink (address title : List Char) : IsPermitted
      (.opening ⟨"a".toList, [("href".toList, address), ("title".toList, title)]⟩ false)
  | image (address alt : List Char) : IsPermitted
      (.opening ⟨"img".toList, [("src".toList, address), ("alt".toList, alt)]⟩ true)
  | titledImage (address alt title : List Char) : IsPermitted
      (.opening ⟨"img".toList,
        [("src".toList, address), ("alt".toList, alt), ("title".toList, title)]⟩ true)

/-- A piece as it may be written. -/
structure Piece.IsProper (p : Piece) : Prop where
  attributes : ∀ a ∈ p.attributes, a.IsProper
  permitted : ∀ atStart, ∀ m ∈ p.marks atStart, IsPermitted m

namespace Piece

variable {e : Element} {attributes : List Attribute}

theorem isProper_chars (s : List Char) : (chars s).IsProper where
  attributes := nofun
  permitted _ m hm := by
    obtain ⟨c, -, rfl⟩ := List.mem_map.mp hm
    exact .char c

theorem isProper_newline : newline.IsProper where
  attributes := nofun
  permitted _ m hm := by
    obtain rfl := List.mem_singleton.mp hm
    exact .char '\n'

theorem isProper_freshLine : freshLine.IsProper where
  attributes := nofun
  permitted atStart m hm := by
    rw [marks] at hm
    split at hm
    · cases hm
    · obtain rfl := List.mem_singleton.mp hm
      exact .char '\n'

theorem isProper_opening (hattributes : ∀ a ∈ attributes, a.IsProper)
    (h : IsPermitted (.opening (e.tag attributes) false)) : (opening e attributes).IsProper where
  attributes := hattributes
  permitted _ m hm := by
    obtain rfl := List.mem_singleton.mp hm
    exact h

theorem isProper_lone (hattributes : ∀ a ∈ attributes, a.IsProper)
    (h : IsPermitted (.opening (e.tag attributes) true)) : (lone e attributes).IsProper where
  attributes := hattributes
  permitted _ m hm := by
    obtain rfl := List.mem_singleton.mp hm
    exact h

theorem isProper_closing (h : e.name ∈ "a".toList :: bareNames) : (closing e).IsProper where
  attributes := nofun
  permitted _ m hm := by
    obtain rfl := List.mem_singleton.mp hm
    exact .closing h

end Piece

/-- Pieces that may be written, one after the other. -/
def AreProper (ps : List Piece) : Prop := ∀ p ∈ ps, p.IsProper

/-- The tags of an element that needs no attributes may be written. -/
theorem Piece.isProper_bare {e : Element} (he : e.name ∈ bareNames) :
    (opening e []).IsProper ∧ (closing e).IsProper :=
  ⟨isProper_opening nofun (.bare he), isProper_closing (List.mem_cons_of_mem _ he)⟩

namespace AreProper

variable {p : Piece} {ps ps' : List Piece} {e : Element}

theorem nil : AreProper [] := nofun

theorem cons (hp : p.IsProper) (hps : AreProper ps) : AreProper (p :: ps) :=
  List.forall_mem_cons.mpr ⟨hp, hps⟩

theorem append (hps : AreProper ps) (hps' : AreProper ps') : AreProper (ps ++ ps') :=
  List.forall_mem_append.mpr ⟨hps, hps'⟩

/-- Pieces between the tags of an element that needs no attributes. -/
theorem enclose (he : e.name ∈ bareNames) (hps : AreProper ps) :
    AreProper (.opening e [] :: (ps ++ [.closing e])) :=
  cons (Piece.isProper_bare he).1 (hps.append (cons (Piece.isProper_bare he).2 nil))

/-- The tags of an element that needs no attributes, on lines of their own. -/
theorem tags (he : e.name ∈ bareNames) :
    AreProper [.freshLine, .opening e []] ∧ AreProper [.closing e, .newline] :=
  ⟨cons Piece.isProper_freshLine (cons (Piece.isProper_bare he).1 nil),
    cons (Piece.isProper_bare he).2 (cons Piece.isProper_newline nil)⟩

end AreProper

/-! ### Phrases -/

theorem isProper_titleAttribute {title : List Char} {a : Attribute} (h : a ∈ titleAttribute title) :
    a.IsProper := by
  unfold titleAttribute at h
  split at h
  · cases h
  · obtain rfl := List.mem_singleton.mp h
    trivial

/-- The tag of a link may be written. -/
theorem isProper_link (address title : List Char) :
    (Piece.opening .a (.href address :: titleAttribute title)).IsProper := by
  refine Piece.isProper_opening
    (List.forall_mem_cons.mpr ⟨trivial, fun a => isProper_titleAttribute⟩) ?_
  unfold titleAttribute
  split
  · exact .link _
  · exact .titledLink _ _

/-- The tag of an image may be written. -/
theorem isProper_image (source alt title : List Char) :
    (Piece.lone .img (.src source :: .alt alt :: titleAttribute title)).IsProper := by
  refine Piece.isProper_lone (List.forall_mem_cons.mpr ⟨trivial,
    List.forall_mem_cons.mpr ⟨trivial, fun a => isProper_titleAttribute⟩⟩) ?_
  unfold titleAttribute
  split
  · exact .image _ _
  · exact .titledImage _ _ _

mutual

theorem areProper_pieces : ∀ x : Phrase, AreProper x.pieces
  | .text s | .raw s => .cons (Piece.isProper_chars s) .nil
  | .code s => .enclose (e := .code) (by decide) (.cons (Piece.isProper_chars s) .nil)
  | .lineBreak =>
    .cons (Piece.isProper_lone nofun (.lone (by decide))) (.cons Piece.isProper_newline .nil)
  | .emphasis b => .enclose (by decide) (areProper_phrasePieces b)
  | .strong b => .enclose (by decide) (areProper_phrasePieces b)
  | .struck b => .enclose (by decide) (areProper_phrasePieces b)
  | .link d t b => .cons (isProper_link d t) ((areProper_phrasePieces b).append
      (.cons (Piece.isProper_closing (by decide)) .nil))
  | .image s t b => .cons (isProper_image s (plainAll b) t) .nil

theorem areProper_phrasePieces : ∀ xs : List Phrase, AreProper (phrasePieces xs)
  | [] => .nil
  | x :: xs => (areProper_pieces x).append (areProper_phrasePieces xs)

end

/-! ### Blocks -/

/-- The cells of a row may be written. -/
theorem areProper_cellPieces {e : Element} (he : e.name ∈ ["th".toList, "td".toList])
    (alignments : List Alignment) (cells : List (List Phrase)) :
    AreProper (cellPieces e alignments cells) := by
  have hbare : e.name ∈ bareNames := by
    simp only [List.mem_cons, List.not_mem_nil, or_false] at he
    obtain he | he := he <;> rw [he] <;> decide
  intro p hp
  obtain ⟨⟨words, a⟩, -, hp⟩ := List.mem_flatMap.mp hp
  have hopening : (Piece.opening e a.attributes).IsProper := by
    cases a with
    | natural => exact Piece.isProper_opening nofun (.bare hbare)
    | left | center | right =>
      exact Piece.isProper_opening (List.forall_mem_singleton.mpr (by simp [Attribute.IsProper]))
        (.cell he (by decide))
  have hcell : AreProper (.opening e a.attributes :: (phrasePieces words ++ [.closing e])) :=
    .cons hopening ((areProper_phrasePieces words).append
      (.cons (Piece.isProper_closing (List.mem_cons_of_mem _ hbare)) .nil))
  exact hcell p hp

/-- The tag of a piece of code may be written. -/
theorem isProper_languageAttribute (info : Option (List Char)) :
    (Piece.opening .code (languageAttribute info)).IsProper := by
  cases info with
  | none => exact Piece.isProper_opening nofun (.bare (by decide))
  | some info =>
    rw [languageAttribute]
    split
    · exact Piece.isProper_opening nofun (.bare (by decide))
    · exact Piece.isProper_opening (List.forall_mem_singleton.mpr trivial) (.code _)

/-- The tags of a list may be written. -/
theorem isProper_listOpening (start : Option Nat) :
    (listOpening start).IsProper ∧ (listClosing start).IsProper := by
  cases start with
  | none =>
    exact ⟨Piece.isProper_opening nofun (.bare (by decide)), Piece.isProper_closing (by decide)⟩
  | some n =>
    refine ⟨?_, Piece.isProper_closing (by decide)⟩
    rw [listOpening]
    split
    · exact Piece.isProper_opening nofun (.bare (by decide))
    · exact Piece.isProper_opening (List.forall_mem_singleton.mpr trivial) (.numbered n)

/-- The name of a heading of one of the six levels. -/
theorem name_heading {n : Nat} (h : 1 ≤ n ∧ n ≤ 6) : (Element.heading n).name ∈ bareNames := by
  obtain rfl | rfl | rfl | rfl | rfl | rfl : n = 1 ∨ n = 2 ∨ n = 3 ∨ n = 4 ∨ n = 5 ∨ n = 6 := by
    omega
  all_goals decide

/-- The pieces of a row may be written. -/
theorem areProper_row (alignments : List Alignment) (row : List (List Phrase)) :
    AreProper (.opening .tr [] :: (cellPieces .td alignments row ++ [.closing .tr, .newline])) :=
  have hcells := areProper_cellPieces (e := .td) (by decide) alignments row
  .cons (Piece.isProper_bare (by decide)).1 (hcells.append (AreProper.tags (by decide)).2)

/-- The pieces of a table may be written. -/
theorem areProper_table (bare : Bool) (alignments : List Alignment) (head : List (List Phrase))
    (rows : List (List (List Phrase))) :
    AreProper (blockPieces bare (.table alignments head rows)) := by
  have htags : ∀ e ∈ [Element.table, .thead, .tbody, .tr],
      (Piece.opening e []).IsProper ∧ (Piece.closing e).IsProper :=
    fun e he => Piece.isProper_bare (by revert e; decide)
  have hopening : AreProper [.opening .table [], .opening .thead [], .opening .tr []] :=
    .cons (htags .table (by decide)).1 (.cons (htags .thead (by decide)).1
      (.cons (htags .tr (by decide)).1 .nil))
  have hbetween : AreProper [.closing .tr, .closing .thead, .opening .tbody [], .newline] :=
    .cons (htags .tr (by decide)).2 (.cons (htags .thead (by decide)).2
      (.cons (htags .tbody (by decide)).1 (.cons Piece.isProper_newline .nil)))
  have hclosing : AreProper [.closing .tbody, .closing .table, .newline] :=
    .cons (htags .tbody (by decide)).2 (.cons (htags .table (by decide)).2
      (.cons Piece.isProper_newline .nil))
  have hrows : AreProper (rows.flatMap fun row =>
      .opening .tr [] :: (cellPieces .td alignments row ++ [.closing .tr, .newline])) := by
    intro p hp
    obtain ⟨row, -, hp⟩ := List.mem_flatMap.mp hp
    exact areProper_row alignments row p hp
  rw [blockPieces]
  exact (((hopening.append (areProper_cellPieces (by decide) alignments head)).append
    hbetween).append hrows).append hclosing

mutual

/-- **The pieces of a block may be written**, if its headings have one of the six levels. -/
theorem areProper_blockPieces (bare : Bool) :
    ∀ b : Block (List Phrase), b.IsLevelled → AreProper (blockPieces bare b)
  | .paragraph w, _ => by
    rw [blockPieces]
    split
    · exact areProper_phrasePieces w
    · exact ((AreProper.tags (by decide)).1.append (areProper_phrasePieces w)).append
        (AreProper.tags (by decide)).2
  | .heading n w, h =>
    ((AreProper.tags (name_heading h)).1.append (areProper_phrasePieces w)).append
      (AreProper.tags (name_heading h)).2
  | .rule, _ =>
    .cons Piece.isProper_freshLine (.cons (Piece.isProper_lone nofun (.lone (by decide)))
      (.cons Piece.isProper_newline .nil))
  | .code info s, _ =>
    have hpre := AreProper.tags (e := .pre) (by decide)
    have hcode : AreProper [.opening .code (languageAttribute info), .chars s, .closing .code] :=
      .cons (isProper_languageAttribute info) (.cons (Piece.isProper_chars s)
        (.cons (Piece.isProper_closing (by decide)) .nil))
    hpre.1.append (hcode.append hpre.2)
  | .raw s, _ => .cons (Piece.isProper_chars s) .nil
  | .quote bs, h =>
    have htags := Piece.isProper_bare (e := .blockquote) (by decide)
    have hopening : AreProper [.freshLine, .opening .blockquote [], .newline] :=
      .cons Piece.isProper_freshLine (.cons htags.1 (.cons Piece.isProper_newline .nil))
    (hopening.append (areProper_blocksPieces false bs h)).append
      (.cons htags.2 (.cons Piece.isProper_newline .nil))
  | .list start tight items, h =>
    have htags := isProper_listOpening start
    have hopening : AreProper [.freshLine, listOpening start, .newline] :=
      .cons Piece.isProper_freshLine (.cons htags.1 (.cons Piece.isProper_newline .nil))
    (hopening.append (areProper_itemsPieces tight items h)).append
      (.cons htags.2 (.cons Piece.isProper_newline .nil))
  | .table alignments head rows, _ => areProper_table bare alignments head rows

theorem areProper_blocksPieces (bare : Bool) :
    ∀ bs : List (Block (List Phrase)), AreLevelled bs → AreProper (blocksPieces bare bs)
  | [], _ => .nil
  | b :: bs, h => (areProper_blockPieces bare b h.1).append (areProper_blocksPieces bare bs h.2)

theorem areProper_itemsPieces (tight : Bool) :
    ∀ items : List (List (Block (List Phrase))), ItemsAreLevelled items →
      AreProper (itemsPieces tight items)
  | [], _ => .nil
  | i :: is, h =>
    have htags := AreProper.tags (e := .li) (by decide)
    ((htags.1.append (areProper_blocksPieces tight i h.1)).append htags.2).append
      (areProper_itemsPieces tight is h.2)

end

/-! ### The HTML of a text -/

/-- What a tree says. -/
def marksOf (bs : List (Block (List Phrase))) : List Mark := marksAll true (blocksPieces false bs)

theorem isPermitted_of_mem_marksAll {ps : List Piece} (h : AreProper ps) {atStart : Bool} {m : Mark}
    (hm : m ∈ marksAll atStart ps) : IsPermitted m := by
  induction ps generalizing atStart with
  | nil => cases hm
  | cons p ps ih =>
    obtain ⟨hp, hps⟩ := List.forall_mem_cons.mp h
    obtain hm | hm := List.mem_append.mp hm
    · exact hp.permitted atStart m hm
    · exact ih hps hm

/-- **HTML says something and nothing else.** -/
structure Says (html : List Char) (ms : List Mark) : Prop where
  /-- That is how it is read. -/
  read : Html.read html = some ms
  /-- It is made of characters and of the tags of a fixed set. -/
  permitted : ∀ m ∈ ms, IsPermitted m
  /-- Wherever there is a `<`, one of those tags begins. -/
  begins : ∀ before after, html = before ++ '<' :: after →
    ∃ ms₁ m ms₂, Html.read before = some ms₁ ∧ m.IsTag ∧ ms = ms₁ ++ m :: ms₂
  /-- Wherever there is a `>`, one of those tags ends. -/
  ends : ∀ before after, html = before ++ '>' :: after →
    ∃ ms₁ m ms₂, Html.read (before ++ ['>']) = some (ms₁ ++ [m]) ∧ m.IsTag ∧ ms = ms₁ ++ m :: ms₂

/-- The HTML of a tree says what the tree says. -/
theorem says_htmlOf {bs : List (Block (List Phrase))} (h : AreLevelled bs) :
    Says (htmlOf bs) (marksOf bs) := by
  have hproper := areProper_blocksPieces false bs h
  have hread : Html.read (htmlOf bs) = some (marksOf bs) :=
    Html.read_eq_some.mpr (goes_spellAll (fun p hp => (hproper p hp).attributes) true)
  refine ⟨hread, fun m => isPermitted_of_mem_marksAll hproper, fun before after heq => ?_,
    fun before after heq => ?_⟩
  · exact Html.exists_tag_of_lt (heq ▸ hread)
  · exact Html.exists_tag_of_gt (heq ▸ hread)

/-- **No HTML in a text is HTML in what it is turned into.** Whatever the tree of a text is, with
headings of the six levels there are, its HTML says what is in the tree and nothing else: the tags
of its blocks and phrases, which are of a fixed set and carry attributes of a fixed set, the
characters of its words, code, HTML and titles as they are, and its addresses with what they cannot
hold given byte by byte. The trees of texts are like that, whatever the text is. -/
theorem html_says_tree :
    (∀ bs : List (Block (List Phrase)), AreLevelled bs → Says (htmlOf bs) (marksOf bs)) ∧
      ∀ text : String, AreLevelled (blocksOf text.toList) ∧
        Says (toHtml text).toList (marksOf (blocksOf text.toList)) := by
  refine ⟨fun bs => says_htmlOf, fun text => ⟨areLevelled_blocksOf text.toList, ?_⟩⟩
  rw [toHtml, String.toList_ofList]
  exact says_htmlOf (areLevelled_blocksOf text.toList)

/-- A heading with a tag in it, and with a link whose address and title hold quotes. -/
theorem html_says_tree_of_heading :
    let t : List (Block (List Phrase)) :=
      [.heading 6 [.raw "<b>".toList, .link ['"'] "\">".toList [.text ['&']]]]
    AreLevelled t ∧ Html.read (htmlOf t) = some [.opening ⟨"h6".toList, []⟩ false,
      .char '<', .char 'b', .char '>',
      .opening ⟨"a".toList, [("href".toList, "%22".toList), ("title".toList, "\">".toList)]⟩ false,
      .char '&', .closing "a".toList, .closing "h6".toList, .char '\n'] := by
  intro t
  have ht : AreLevelled t := ⟨⟨by decide, by decide⟩, trivial⟩
  refine ⟨ht, (html_says_tree.1 t ht).read.trans ?_⟩
  decide +kernel

end Parley.Markdown
