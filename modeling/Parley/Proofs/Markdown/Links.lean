import Parley.Chat.Message
import Parley.Proofs.Markdown.Tags
import Parley.Proofs.Text.Case

/-!
# Where the links of a text lead

A link of a text leads to an address and an image shows what is at one; so do their tags in the HTML
of the text. The addresses of the tags are those of the text, in their order
(`Parley.Markdown.destinations_marksOf`), except that a character that an address cannot hold is
given byte by byte. What an address begins with plays no part in that, and it does not change
either: a letter or a colon is written as it is, and what is given byte by byte begins with a
percent sign. So the HTML of a text leads to scripts if the text does, however that is written
there, and to no other scripts.
-/

namespace Parley.Html

/-- The addresses that a tag leads to or shows. -/
def Mark.destinations : Mark → List (List Char)
  | .opening t _ =>
    (t.attributes.filter fun a => a.1 = "href".toList || a.1 = "src".toList).map Prod.snd
  | .closing _ | .char _ => []

/-- The addresses that HTML leads to or shows. -/
def destinations (ms : List Mark) : List (List Char) := ms.flatMap Mark.destinations

end Parley.Html

namespace Parley.Markdown

open Parley.Text
open Html (Mark)

/-! ### Addresses -/

/-- What runs where it is followed, or is there without being fetched. -/
def scriptSchemes : List String := ["javascript:", "vbscript:", "data:"]

/-- An address has one of those schemes, in letters of any size. -/
def isScript (address : List Char) : Bool := scriptSchemes.any (startsLike · address)

theorem startsLike_iff {p : String} {s : List Char} :
    startsLike p s = true ↔ p.toList <+: s.map lowerChar := by
  rw [startsLike, beq_iff_eq, List.prefix_iff_eq_take, ← List.map_take, String.length_toList,
    eq_comm]

/-- The characters that an address holds are the same in small letters. -/
theorem isAddressChar_lowerChar (c : Char) : isAddressChar (lowerChar c) = isAddressChar c := by
  refine char_cases (P := fun c => isAddressChar (lowerChar c) = isAddressChar c)
    (by decide +kernel) ?_ c
  intro c h
  rw [lowerChar_of_le h]

/-- The bytes that are listed are those that are there. -/
theorem toList_loop (bs : ByteArray) (i : Nat) (r : List UInt8) :
    ByteArray.toList.loop bs i r = r.reverse ++ bs.data.toList.drop i := by
  fun_induction ByteArray.toList.loop bs i r with
  | case1 i r h ih =>
    have hi : i < bs.data.toList.length := h
    have hget : bs.get! i = bs.data.toList[i] := getElem!_pos bs.data i hi
    rw [ih, List.drop_eq_getElem_cons hi, List.reverse_cons, List.append_assoc, hget,
      List.singleton_append]
  | case2 i r h =>
    have hi : bs.data.toList.length ≤ i := Nat.le_of_not_lt h
    rw [List.drop_eq_nil_of_le hi, List.append_nil]

/-- A character is written as it is, or begins with a percent sign from then on. -/
theorem addressChar_cases (c : Char) :
    addressChar c = [c] ∨ isAddressChar c = false ∧ ∃ s, addressChar c = '%' :: s := by
  unfold addressChar
  split
  · exact .inl rfl
  · rename_i h
    simp only [Bool.or_eq_true, not_or, Bool.not_eq_true] at h
    refine .inr ⟨h.1.1, ?_⟩
    have hbytes : (String.singleton c).toUTF8.toList = String.utf8EncodeChar c := by
      rw [ByteArray.toList, toList_loop, List.reverse_nil, List.nil_append, List.drop_zero]
      simp [List.utf8Encode]
    obtain ⟨b, bs, hb⟩ := List.exists_cons_of_ne_nil (String.utf8EncodeChar_ne_nil (c := c))
    rw [hbytes, hb, List.flatMap_cons]
    exact ⟨_, rfl⟩

/-- **An address begins with the same letters once it is written**, if what it begins with is made
of characters that an address holds. -/
theorem prefix_written_iff {p s : List Char} (hp : ∀ c ∈ p, isAddressChar c = true ∧ c ≠ '%') :
    p <+: (written s).map lowerChar ↔ p <+: s.map lowerChar := by
  induction p generalizing s with
  | nil => simp only [List.nil_prefix]
  | cons c p ih =>
    obtain ⟨⟨hc, hpercent⟩, hp⟩ := List.forall_mem_cons.mp hp
    cases s with
    | nil => rfl
    | cons x s =>
      rw [written, List.flatMap_cons, List.map_append, List.map_cons]
      obtain hx | ⟨hx, t, ht⟩ := addressChar_cases x
      · -- as it is, so both go on alike
        rw [hx, List.map_singleton, List.singleton_append, List.cons_prefix_cons,
          List.cons_prefix_cons]
        exact and_congr_right fun _ => ih hp
      · -- neither the percent sign nor the character, small or not, is what it should begin with
        rw [ht, List.map_cons, List.cons_append, List.cons_prefix_cons, List.cons_prefix_cons]
        constructor
        · rintro ⟨h, -⟩
          exact absurd h hpercent
        · rintro ⟨rfl, -⟩
          rw [isAddressChar_lowerChar, hx] at hc
          cases hc

/-- **An address has the same scheme once it is written.** -/
theorem isScript_written (s : List Char) : isScript (written s) = isScript s := by
  have hschemes : ∀ p ∈ scriptSchemes, ∀ c ∈ p.toList, isAddressChar c = true ∧ c ≠ '%' := by
    have hall : ∀ p ∈ scriptSchemes,
        (p.toList.all fun c => isAddressChar c && c != '%') = true := by decide
    intro p hp c hc
    simpa using List.all_eq_true.mp (hall p hp) c hc
  rw [Bool.eq_iff_iff, isScript, isScript, List.any_eq_true, List.any_eq_true]
  refine exists_congr fun p => and_congr_right fun hp => ?_
  rw [startsLike_iff, startsLike_iff, prefix_written_iff (hschemes p hp)]

/-! ### The addresses of a tree -/

mutual

/-- Where the links of a phrase lead, and what its images show. -/
def Phrase.destinations : Phrase → List (List Char)
  | .text _ | .code _ | .raw _ | .lineBreak => []
  | .emphasis b | .strong b | .struck b => phrasesDestinations b
  | .link d _ b => d :: phrasesDestinations b
  | .image s _ _ => [s]

/-- Where the links of a sequence of phrases lead, and what its images show. -/
def phrasesDestinations : List Phrase → List (List Char)
  | [] => []
  | x :: xs => x.destinations ++ phrasesDestinations xs

end

mutual

/-- Where the links of a block lead, and what its images show. -/
def blockDestinations : Block (List Phrase) → List (List Char)
  | .paragraph w | .heading _ w => phrasesDestinations w
  | .rule | .code _ _ | .raw _ => []
  | .quote bs => blocksDestinations bs
  | .list _ _ items => itemsDestinations items
  | .table _ head rows =>
    head.flatMap phrasesDestinations ++ rows.flatMap fun row => row.flatMap phrasesDestinations

/-- Where the links of a sequence of blocks lead, and what its images show. -/
def blocksDestinations : List (Block (List Phrase)) → List (List Char)
  | [] => []
  | b :: bs => blockDestinations b ++ blocksDestinations bs

/-- Where the links of the items of a list lead, and what their images show. -/
def itemsDestinations : List (List (Block (List Phrase))) → List (List Char)
  | [] => []
  | i :: is => blocksDestinations i ++ itemsDestinations is

end

/-! ### The addresses of pieces -/

/-- The address that an attribute holds. -/
def Attribute.address? : Attribute → Option (List Char)
  | .href s | .src s => some s
  | _ => none

/-- The addresses in a piece. -/
def Piece.addresses (p : Piece) : List (List Char) := p.attributes.filterMap Attribute.address?

/-- The tag of an element leads to the addresses in its attributes. -/
theorem destinations_tag (e : Element) (attributes : List Attribute) (lone : Bool) :
    (Mark.opening (e.tag attributes) lone).destinations =
      (attributes.filterMap Attribute.address?).map written := by
  rw [Mark.destinations, Element.tag]
  induction attributes with
  | nil => rfl
  | cons a attributes ih =>
    rw [List.map_cons, List.filter_cons, List.filterMap_cons]
    cases a with
    | href s | src s => exact congrArg (written s :: ·) ih
    | _ => exact ih

/-- **A piece leads to the addresses in it.** -/
theorem destinations_marks (p : Piece) (atStart : Bool) :
    Html.destinations (p.marks atStart) = p.addresses.map written := by
  cases p with
  | opening e attributes | lone e attributes =>
    exact (List.flatMap_singleton ..).trans (destinations_tag e attributes _)
  | closing e | newline => rfl
  | freshLine => cases atStart <;> rfl
  | chars s =>
    have hchars : ∀ m ∈ s.map Mark.char, m.destinations = [] := by
      intro m hm
      obtain ⟨c, -, rfl⟩ := List.mem_map.mp hm
      rfl
    exact List.flatMap_eq_nil_iff.mpr hchars

theorem destinations_marksAll (ps : List Piece) (atStart : Bool) :
    Html.destinations (marksAll atStart ps) = (ps.flatMap Piece.addresses).map written := by
  induction ps generalizing atStart with
  | nil => rfl
  | cons p ps ih =>
    rw [marksAll, Html.destinations, List.flatMap_append, List.flatMap_cons, List.map_append,
      ← destinations_marks p atStart]
    exact congrArg _ (ih _)

/-- Pieces between two tags, the first of which holds some addresses. -/
theorem addresses_enclosed {p p' : Piece} (ps : List Piece) (h : p'.addresses = []) :
    (p :: (ps ++ [p'])).flatMap Piece.addresses = p.addresses ++ ps.flatMap Piece.addresses := by
  rw [List.flatMap_cons, List.flatMap_append, List.flatMap_singleton, h, List.append_nil]

/-- Pieces between others that lead nowhere. -/
theorem addresses_between {before ps after : List Piece}
    (hbefore : before.flatMap Piece.addresses = [])
    (hafter : after.flatMap Piece.addresses = []) :
    (before ++ ps ++ after).flatMap Piece.addresses = ps.flatMap Piece.addresses := by
  rw [List.flatMap_append, List.flatMap_append, hbefore, hafter, List.nil_append, List.append_nil]

theorem addresses_titleAttribute (title : List Char) :
    (titleAttribute title).filterMap Attribute.address? = [] := by
  unfold titleAttribute
  split <;> rfl

mutual

theorem addresses_pieces : ∀ x : Phrase, x.pieces.flatMap Piece.addresses = x.destinations
  | .text _ | .code _ | .raw _ | .lineBreak => rfl
  | .emphasis b | .strong b | .struck b => by
    rw [Phrase.pieces, addresses_enclosed _ rfl, addresses_phrasePieces b]
    rfl
  | .link d t b => by
    have hopening : (Piece.opening .a (.href d :: titleAttribute t)).addresses = [d] :=
      congrArg (d :: ·) (addresses_titleAttribute t)
    rw [Phrase.pieces, addresses_enclosed _ rfl, addresses_phrasePieces b, hopening]
    rfl
  | .image s t _ => congrArg (s :: · ++ []) (addresses_titleAttribute t)

/-- **The addresses in the pieces of phrases are those of the phrases.** -/
theorem addresses_phrasePieces :
    ∀ xs : List Phrase, (phrasePieces xs).flatMap Piece.addresses = phrasesDestinations xs
  | [] => rfl
  | x :: xs => by
    rw [phrasePieces, List.flatMap_append, addresses_pieces x, addresses_phrasePieces xs]
    rfl

end

/-- However its cells are set, a row leads where its cells do. -/
theorem addresses_cellPieces (e : Element) (alignments : List Alignment)
    (cells : List (List Phrase)) : (cellPieces e alignments cells).flatMap Piece.addresses =
      cells.flatMap phrasesDestinations := by
  have hcell : ∀ (a : Alignment) (words : List Phrase),
      (Piece.opening e a.attributes :: (phrasePieces words ++ [.closing e])).flatMap
        Piece.addresses = phrasesDestinations words := by
    intro a words
    have hopening : (Piece.opening e a.attributes).addresses = [] := by cases a <;> rfl
    rw [addresses_enclosed _ rfl, hopening, addresses_phrasePieces, List.nil_append]
  -- there are never fewer alignments than cells, so no cell is lost
  have hcells : (cells.zip (alignments ++ List.replicate cells.length .natural)).map Prod.fst =
      cells := by
    refine List.map_fst_zip ?_
    rw [List.length_append, List.length_replicate]
    omega
  calc (cellPieces e alignments cells).flatMap Piece.addresses
      = (cells.zip (alignments ++ List.replicate cells.length .natural)).flatMap
          fun c => phrasesDestinations c.1 := by
        rw [cellPieces, List.flatMap_assoc]
        exact List.flatMap_congr fun c _ => hcell c.2 c.1
    _ = cells.flatMap phrasesDestinations := by rw [← List.flatMap_map, hcells]

theorem addresses_table (bare : Bool) (alignments : List Alignment) (head : List (List Phrase))
    (rows : List (List (List Phrase))) :
    (blockPieces bare (.table alignments head rows)).flatMap Piece.addresses =
      blockDestinations (.table alignments head rows) := by
  have hrow : ∀ row : List (List Phrase),
      (Piece.opening .tr [] :: (cellPieces .td alignments row ++ [.closing .tr, .newline])).flatMap
        Piece.addresses = row.flatMap phrasesDestinations := by
    intro row
    rw [List.flatMap_cons, List.flatMap_append, addresses_cellPieces]
    exact List.append_nil _
  have hrows : (rows.flatMap fun row =>
      .opening .tr [] :: (cellPieces .td alignments row ++ [.closing .tr, .newline])).flatMap
        Piece.addresses = rows.flatMap fun row => row.flatMap phrasesDestinations := by
    rw [List.flatMap_assoc]
    exact List.flatMap_congr fun row _ => hrow row
  have hclosing : ([.closing .tbody, .closing .table, .newline] : List Piece).flatMap
      Piece.addresses = [] := rfl
  rw [blockPieces, List.flatMap_append, List.flatMap_append, addresses_between rfl rfl, hrows,
    addresses_cellPieces, hclosing, List.append_nil]
  rfl

mutual

theorem addresses_blockPieces (bare : Bool) :
    ∀ b : Block (List Phrase), (blockPieces bare b).flatMap Piece.addresses = blockDestinations b
  | .paragraph w => by
    rw [blockPieces, blockDestinations]
    split
    · exact addresses_phrasePieces w
    · exact (addresses_between rfl rfl).trans (addresses_phrasePieces w)
  | .heading _ w => (addresses_between rfl rfl).trans (addresses_phrasePieces w)
  | .rule | .raw _ => rfl
  | .code info _ => by
    have hlanguage : (languageAttribute info).filterMap Attribute.address? = [] := by
      cases info with
      | none => rfl
      | some info =>
        rw [languageAttribute]
        split <;> rfl
    exact congrArg (· ++ []) hlanguage
  | .quote bs => (addresses_between rfl rfl).trans (addresses_blocksPieces false bs)
  | .list start tight items => by
    have hopening : ([.freshLine, listOpening start, .newline] : List Piece).flatMap
        Piece.addresses = [] := by
      cases start with
      | none => rfl
      | some n =>
        rw [listOpening]
        split <;> rfl
    have hclosing : ([listClosing start, .newline] : List Piece).flatMap Piece.addresses = [] := by
      cases start <;> rfl
    exact (addresses_between hopening hclosing).trans (addresses_itemsPieces tight items)
  | .table alignments head rows => addresses_table bare alignments head rows

/-- **The addresses in the pieces of blocks are those of the blocks.** -/
theorem addresses_blocksPieces (bare : Bool) : ∀ bs : List (Block (List Phrase)),
    (blocksPieces bare bs).flatMap Piece.addresses = blocksDestinations bs
  | [] => rfl
  | b :: bs => by
    rw [blocksPieces, List.flatMap_append, addresses_blockPieces bare b,
      addresses_blocksPieces bare bs]
    rfl

theorem addresses_itemsPieces (tight : Bool) : ∀ items : List (List (Block (List Phrase))),
    (itemsPieces tight items).flatMap Piece.addresses = itemsDestinations items
  | [] => rfl
  | i :: is => by
    rw [itemsPieces, List.flatMap_append, addresses_between rfl rfl, addresses_blocksPieces tight i,
      addresses_itemsPieces tight is]
    rfl

end

/-! ### Where the HTML of a text leads -/

/-- **HTML leads where the tree it is made of leads.** -/
theorem destinations_marksOf (bs : List (Block (List Phrase))) :
    Html.destinations (marksOf bs) = (blocksDestinations bs).map written := by
  rw [marksOf, destinations_marksAll, addresses_blocksPieces]

/-- HTML leads to a script if the tree it is made of does. -/
theorem any_isScript_marksOf (bs : List (Block (List Phrase))) :
    (Html.destinations (marksOf bs)).any isScript = (blocksDestinations bs).any isScript := by
  rw [destinations_marksOf, List.any_map]
  exact congrArg (blocksDestinations bs).any (funext isScript_written)

/-- What a message shows is the HTML of its text. -/
theorem read_snapshot {role : Role} {content html : String}
    (h : role.snapshot content = some html) :
    Html.read html.toList = some (marksOf (blocksOf content.toList)) := by
  cases role with
  | agent =>
    simp only [Role.snapshot, snapshot] at h
    split at h
    · cases h
    · rw [← Option.some.inj h, toHtml, String.toList_ofList]
      exact (says_htmlOf (areLevelled_blocksOf content.toList)).read
  | user | system => cases h

/-- **What a message shows leads where its text leads.** Its addresses are those of the links and
images in the text, in their order, whatever they begin with: there is a script among them exactly
if there is one in the text. -/
theorem snapshot_leads_as_text {role : Role} {content html : String}
    (h : role.snapshot content = some html) : ∃ ms, Html.read html.toList = some ms ∧
      Html.destinations ms = (blocksDestinations (blocksOf content.toList)).map written ∧
      (Html.destinations ms).any isScript =
        (blocksDestinations (blocksOf content.toList)).any isScript :=
  ⟨_, read_snapshot h, destinations_marksOf _, any_isScript_marksOf _⟩

/-- A link whose colon is escaped, an address between pointed brackets, and an image defined further
below, with its colon given by number. -/
theorem snapshot_leads_as_text_of_scripts :
    let text := "[x](JavaScript\\:a) <vbscript:b>\n\n![y][z]\n\n[z]: DATA&#58;c"
    Role.agent.snapshot text = some (toHtml text) ∧ ∃ ms,
      Html.read (toHtml text).toList = some ms ∧
      Html.destinations ms = ["JavaScript:a".toList, "vbscript:b".toList, "DATA:c".toList] ∧
      (Html.destinations ms).any isScript = true := by
  intro text
  have h : Role.agent.snapshot text = some (toHtml text) := by decide +kernel
  obtain ⟨ms, hread, hdestinations, hscript⟩ := snapshot_leads_as_text h
  refine ⟨h, ms, hread, hdestinations.trans ?_, hscript.trans ?_⟩
  · decide +kernel
  · decide +kernel

/-- **A message may lead to a script.** What it shows does not always lead to something else. -/
theorem snapshot_leads_to_script : ¬ ∀ (content html : String) (ms : List Mark),
    Role.agent.snapshot content = some html → Html.read html.toList = some ms →
      ∀ address ∈ Html.destinations ms, isScript address = false := by
  intro h
  have hsnapshot : Role.agent.snapshot "[x](javascript:alert(1))" =
      some (toHtml "[x](javascript:alert(1))") := by decide +kernel
  have hscript := h _ _ _ hsnapshot (read_snapshot hsnapshot) "javascript:alert(1)".toList (by
    rw [destinations_marksOf]
    decide +kernel)
  exact absurd hscript (by decide +kernel)

end Parley.Markdown
