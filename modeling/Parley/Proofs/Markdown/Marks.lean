import Parley.Markdown.Html
import Parley.Proofs.Markdown.Reader
import Parley.Proofs.Text.Decimal

/-!
# Pieces of HTML are read as what they say

HTML is written in pieces: tags, characters, and line ends. A piece says the marks that a reader is
meant to find in it, its tag with what its attributes hold or its characters as they are. Whatever
the characters, the escapes are such that the reader of `Parley.Proofs.Markdown.Reader` finds just
that (`Parley.Markdown.Piece.goes_spell`), and so it does in pieces one after the other
(`Parley.Markdown.goes_spellAll`). That reader takes no `<`, `>` or `"` in a value; so none of the
text stands in one.

Two things are not read as they are in the text. An address is given byte by byte where it holds
what an address cannot hold, and the alignment of a cell is not escaped at all, as it is one of
three words (`Parley.Markdown.Attribute.IsProper`).
-/

namespace Parley.Markdown

open Parley.Text
open Html (Goes Mark Place Tag)

/-! ### What a piece says -/

/-- A character of an address as it is written: one that an address cannot hold is given byte by
byte. -/
def addressChar (c : Char) : List Char :=
  if isAddressChar c || c = '&' || c = '\'' then [c]
  else (String.singleton c).toUTF8.toList.flatMap fun b => percentByte b.toNat

/-- An address as it is written. -/
def written (address : List Char) : List Char := address.flatMap addressChar

/-- What the value of an attribute says. -/
def Attribute.shown : Attribute → List Char
  | .href s | .src s => written s
  | .alt s | .title s => s
  | .language s => "language-".toList ++ s
  | .start n => decimal n
  | .align s => "text-align: ".toList ++ s

/-- The tag of an element with attributes. -/
def Element.tag (e : Element) (attributes : List Attribute) : Tag :=
  ⟨e.name, attributes.map fun a => (a.name, a.shown)⟩

/-- What a piece says, given whether it starts a line. -/
def Piece.marks (atStart : Bool) : Piece → List Mark
  | .opening e attrs => [.opening (e.tag attrs) false]
  | .closing e => [.closing e.name]
  | .lone e attrs => [.opening (e.tag attrs) true]
  | .chars s => s.map .char
  | .newline => [.char '\n']
  | .freshLine => if atStart then [] else [.char '\n']

/-- Whether what is read stands at the start of a line after more of it. -/
def marksStartLine (atStart : Bool) (ms : List Mark) : Bool :=
  match ms.getLast? with
  | some m => m == .char '\n'
  | none => atStart

/-- What a sequence of pieces says. -/
def marksAll (atStart : Bool) : List Piece → List Mark
  | [] => []
  | p :: ps => p.marks atStart ++ marksAll (marksStartLine atStart (p.marks atStart)) ps

/-! ### Escapes are read as what they stand for -/

variable {t : Tag} {n v s : List Char} {c : Char}

theorem goes_escapeBodyChar (c : Char) : Goes .text (escapeBodyChar c) .text [.char c] := by
  unfold escapeBodyChar
  split
  · rename_i h
    exact h ▸ rfl
  · split
    · rename_i h
      exact h ▸ rfl
    · split
      · rename_i h
        exact h ▸ rfl
      · rename_i hamp hlt hgt
        refine Goes.single (m := some (.char c)) ?_
        rw [Place.step, if_neg hlt, if_neg hgt, if_neg hamp]

/-- The characters of a text are read as they are. -/
theorem goes_escapeBody (s : List Char) :
    Goes .text (s.flatMap escapeBodyChar) .text (s.map .char) := by
  induction s with
  | nil => exact .nil .text
  | cons c s ih => exact (goes_escapeBodyChar c).append ih

/-- A character that is nothing special in the value of an attribute. -/
def IsPlain (c : Char) : Prop := c ≠ '"' ∧ c ≠ '<' ∧ c ≠ '>' ∧ c ≠ '&'

theorem goes_plain (h : ∀ c ∈ s, IsPlain c) (v : List Char) :
    Goes (.value t n v) s (.value t n (v ++ s)) [] := by
  induction s generalizing v with
  | nil =>
    rw [List.append_nil]
    exact .nil _
  | cons c s ih =>
    rw [List.forall_mem_cons] at h
    obtain ⟨⟨hquote, hlt, hgt, hamp⟩, hs⟩ := h
    have hstep : (Place.value t n v).step c = (.value t n (v ++ [c]), none) := by
      simp [Place.step, hquote, hlt, hgt, hamp]
    have hrest := ih hs (v ++ [c])
    rw [List.append_assoc] at hrest
    exact .skip hstep hrest

/-- Characters are escaped one by one. -/
theorem goes_flatMap {f g : Char → List Char}
    (h : ∀ c v, Goes (.value t n v) (f c) (.value t n (v ++ g c)) []) (s v : List Char) :
    Goes (.value t n v) (s.flatMap f) (.value t n (v ++ s.flatMap g)) [] := by
  induction s generalizing v with
  | nil =>
    rw [List.flatMap_nil, List.flatMap_nil, List.append_nil]
    exact .nil _
  | cons c s ih =>
    rw [List.flatMap_cons, List.flatMap_cons, ← List.append_assoc]
    exact (h c v).append (ih (v ++ g c))

theorem goes_escapeAttributeChar (c : Char) (v : List Char) :
    Goes (.value t n v) (escapeAttributeChar c) (.value t n (v ++ [c])) [] := by
  unfold escapeAttributeChar escapeBodyChar
  split
  · rename_i h
    exact h ▸ rfl
  · split
    · rename_i h
      exact h ▸ rfl
    · split
      · rename_i h
        exact h ▸ rfl
      · split
        · rename_i h
          exact h ▸ rfl
        · rename_i hquote hamp hlt hgt
          exact goes_plain (List.forall_mem_singleton.mpr ⟨hquote, hlt, hgt, hamp⟩) v

/-- The characters of a title are read as they are. -/
theorem goes_escapeAttribute (s v : List Char) :
    Goes (.value t n v) (s.flatMap escapeAttributeChar) (.value t n (v ++ s)) [] := by
  simpa using goes_flatMap (g := fun c => [c]) goes_escapeAttributeChar s v

theorem isPlain_of_isAddressChar (h : isAddressChar c = true) : IsPlain c := by
  refine ⟨?_, ?_, ?_, ?_⟩ <;> rintro rfl <;> exact absurd h (by decide)

theorem isPlain_of_mem_percentByte {b : Nat} (h : c ∈ percentByte b) : IsPlain c := by
  have hdigit : ∀ k < 16, IsPlain (upperChar (Nat.digitChar k)) := by
    unfold IsPlain
    decide
  simp only [percentByte, List.mem_cons, List.not_mem_nil, or_false] at h
  obtain rfl | rfl | rfl := h
  · unfold IsPlain
    decide
  · exact hdigit _ (Nat.mod_lt _ (by decide))
  · exact hdigit _ (Nat.mod_lt _ (by decide))

theorem isPlain_of_isDigit (h : isDigit c = true) : IsPlain c := by
  refine ⟨?_, ?_, ?_, ?_⟩ <;> rintro rfl <;> exact absurd h (by decide)

theorem goes_escapeAddressChar (c : Char) (v : List Char) :
    Goes (.value t n v) (escapeAddressChar c) (.value t n (v ++ addressChar c)) [] := by
  unfold escapeAddressChar addressChar
  split
  · rename_i h
    rw [if_pos (by rw [h]; rfl)]
    exact goes_plain (List.forall_mem_singleton.mpr (isPlain_of_isAddressChar h)) v
  · split
    · rename_i h
      subst h
      rfl
    · split
      · rename_i h
        subst h
        rfl
      · rename_i haddress hamp hquote
        rw [if_neg (by simp [haddress, hamp, hquote])]
        refine goes_plain (fun x hx => ?_) v
        obtain ⟨b, -, hx⟩ := List.mem_flatMap.mp hx
        exact isPlain_of_mem_percentByte hx

/-- The alignments that a cell can have are the only ones that are written. -/
def Attribute.IsProper : Attribute → Prop
  | .align side => side ∈ ["left".toList, "center".toList, "right".toList]
  | _ => True

/-- **The value of an attribute is read as what it says.** -/
theorem Attribute.goes_value {a : Attribute} (ha : a.IsProper) :
    Goes (.value t n []) a.value (.value t n a.shown) [] := by
  cases a with
  | href s | src s => exact goes_flatMap goes_escapeAddressChar s []
  | alt s | title s => exact goes_escapeAttribute s []
  | language s =>
    have hlanguage : Goes (.value t n []) "language-".toList (.value t n "language-".toList) [] :=
      rfl
    exact hlanguage.append (goes_escapeAttribute s _)
  | start k => exact goes_plain (fun c hc => isPlain_of_isDigit (isDigit_of_mem_decimal hc)) []
  | align side =>
    simp only [Attribute.IsProper, List.mem_cons, List.not_mem_nil, or_false] at ha
    obtain rfl | rfl | rfl := ha <;> rfl

/-! ### Tags -/

/-- Where a reader stands in a tag behind what it has read of it. -/
def placeIn (t : Tag) : Place := if t.attributes = [] then .opening t.name else .behind t

theorem placeIn_add (t : Tag) (n v : List Char) : placeIn (t.add n v) = .behind (t.add n v) :=
  if_neg (by simp [Tag.add])

/-- A tag goes on with a space, or ends. -/
theorem step_placeIn (t : Tag) : (placeIn t).step ' ' = (.space t, none) ∧
    (placeIn t).step '>' = (.text, some (.opening t false)) := by
  obtain ⟨name, attributes⟩ := t
  unfold placeIn
  split
  · rename_i h
    obtain rfl : attributes = [] := h
    exact ⟨rfl, rfl⟩
  · exact ⟨rfl, rfl⟩

/-- **An attribute is read as what it says.** -/
theorem goes_attribute {a : Attribute} (ha : a.IsProper) (t : Tag) :
    Goes (placeIn t) a.spell (placeIn (t.add a.name a.shown)) [] := by
  have hname : Goes (.space t) a.name (.attribute t a.name) [] := by cases a <;> rfl
  have hvalue : Goes (.attribute t a.name) ('=' :: '"' :: a.value) (.value t a.name a.shown) [] :=
    .skip rfl (.skip rfl (Attribute.goes_value ha))
  have hquote : Goes (.value t a.name a.shown) ['"'] (.behind (t.add a.name a.shown)) [] := rfl
  rw [placeIn_add, Attribute.spell]
  exact Goes.skip (step_placeIn t).1 ((hname.append hvalue).append hquote)

theorem goes_attributes {attributes : List Attribute} (h : ∀ a ∈ attributes, a.IsProper) (t : Tag) :
    Goes (placeIn t) (attributes.flatMap Attribute.spell)
      (placeIn { t with attributes := t.attributes ++ attributes.map fun a => (a.name, a.shown) })
      [] := by
  induction attributes generalizing t with
  | nil =>
    rw [List.map_nil, List.append_nil]
    exact .nil _
  | cons a attributes ih =>
    obtain ⟨ha, hrest⟩ := List.forall_mem_cons.mp h
    have hgoes := (goes_attribute ha t).append (ih hrest (t.add a.name a.shown))
    simpa [Tag.add] using hgoes

/-- The name of an element is that of a tag. -/
theorem Element.exists_name (e : Element) : ∃ c s, e.name = c :: s ∧ isLetter c = true ∧
    ∀ x ∈ s, isLetterOrDigit x = true := by
  cases e with
  | heading k =>
    refine ⟨'h', decimal k, rfl, by decide, fun x hx => ?_⟩
    rw [isLetterOrDigit, isDigit_of_mem_decimal hx, Bool.or_true]
  | _ => exact ⟨_, _, rfl, rfl, List.all_eq_true.mp rfl⟩

theorem goes_letters (h : ∀ c ∈ s, isLetterOrDigit c = true) (name : List Char) :
    Goes (.opening name) s (.opening (name ++ s)) [] ∧
      Goes (.closing name) s (.closing (name ++ s)) [] := by
  induction s generalizing name with
  | nil =>
    rw [List.append_nil]
    exact ⟨.nil _, .nil _⟩
  | cons c s ih =>
    obtain ⟨hc, hs⟩ := List.forall_mem_cons.mp h
    obtain ⟨hopening, hclosing⟩ := ih hs (name ++ [c])
    rw [List.append_assoc] at hopening hclosing
    -- letters and digits are neither the end of a tag nor a space
    have hend : c ≠ '>' := by
      rintro rfl
      exact absurd hc (by decide)
    have hspace : c ≠ ' ' := by
      rintro rfl
      exact absurd hc (by decide)
    exact ⟨.skip (by rw [Place.step, if_neg hend, if_neg hspace, if_pos hc]) hopening,
      .skip (by rw [Place.step, if_neg hend, if_pos hc]) hclosing⟩

/-- **The name of an element is read as it is.** -/
theorem Element.goes_name (e : Element) :
    Goes .sign e.name (.opening e.name) [] ∧ Goes .closingSign e.name (.closing e.name) [] := by
  obtain ⟨c, s, hname, hc, hs⟩ := e.exists_name
  obtain ⟨hopening, hclosing⟩ := goes_letters hs [c]
  have hslash : c ≠ '/' := by
    rintro rfl
    exact absurd hc (by decide)
  rw [hname]
  exact ⟨.skip (by rw [Place.step, if_neg hslash, if_pos hc]) hopening,
    .skip (by rw [Place.step, if_pos hc]) hclosing⟩

/-- A tag is read up to its end. -/
theorem goes_tag (e : Element) {attributes : List Attribute} (h : ∀ a ∈ attributes, a.IsProper) :
    Goes .text ('<' :: e.name ++ attributes.flatMap Attribute.spell) (placeIn (e.tag attributes))
      [] := by
  have hname : Goes .text ('<' :: e.name) (placeIn ⟨e.name, []⟩) [] := .skip rfl e.goes_name.1
  exact hname.append (goes_attributes h ⟨e.name, []⟩)

/-! ### Pieces -/

/-- The attributes of a piece. -/
def Piece.attributes : Piece → List Attribute
  | .opening _ attributes | .lone _ attributes => attributes
  | _ => []

/-- **A piece is read as what it says.** -/
theorem Piece.goes_spell {p : Piece} (h : ∀ a ∈ p.attributes, a.IsProper) (atStart : Bool) :
    Goes .text (p.spell atStart) .text (p.marks atStart) := by
  cases p with
  | opening e attributes =>
    exact (goes_tag e h).append (Goes.single (step_placeIn (e.tag attributes)).2)
  | closing e =>
    have hname : Goes .text ('<' :: '/' :: e.name) (.closing e.name) [] :=
      .skip rfl (.skip rfl e.goes_name.2)
    exact hname.append (Goes.single (m := some (.closing e.name)) rfl)
  | lone e attributes =>
    have hend : Goes (placeIn (e.tag attributes)) " />".toList .text
        [.opening (e.tag attributes) true] := .skip (step_placeIn (e.tag attributes)).1 rfl
    exact (goes_tag e h).append hend
  | chars s => exact goes_escapeBody s
  | newline => rfl
  | freshLine => cases atStart <;> rfl

theorem startsLine_concat (atStart : Bool) (s : List Char) (c : Char) :
    startsLine atStart (s ++ [c]) = (c == '\n') := by
  rw [startsLine, List.getLast?_concat]

theorem marksStartLine_concat (atStart : Bool) (ms : List Mark) (m : Mark) :
    marksStartLine atStart (ms ++ [m]) = (m == .char '\n') := by
  rw [marksStartLine, List.getLast?_concat]

/-- A character between tags ends a line exactly if its escape does. -/
theorem exists_escapeBodyChar (c : Char) :
    ∃ s x, escapeBodyChar c = s ++ [x] ∧ (x == '\n') = (Mark.char c == .char '\n') := by
  unfold escapeBodyChar
  split
  · rename_i h
    exact ⟨"&amp".toList, ';', rfl, h ▸ rfl⟩
  · split
    · rename_i h
      exact ⟨"&lt".toList, ';', rfl, h ▸ rfl⟩
    · split
      · rename_i h
        exact ⟨"&gt".toList, ';', rfl, h ▸ rfl⟩
      · refine ⟨[], c, rfl, ?_⟩
        rw [Bool.eq_iff_iff, beq_iff_eq, beq_iff_eq, Mark.char.injEq]

/-- Whether a line starts is told by what is read as well as by what is written. -/
theorem Piece.startsLine_spell (p : Piece) (atStart : Bool) :
    startsLine atStart (p.spell atStart) = marksStartLine atStart (p.marks atStart) := by
  cases p with
  | opening e attributes => exact startsLine_concat _ _ _
  | closing e => exact startsLine_concat _ ('<' :: '/' :: e.name) _
  | lone e attributes =>
    have hend : Piece.spell atStart (.lone e attributes) =
        ('<' :: e.name ++ attributes.flatMap Attribute.spell ++ [' ', '/']) ++ ['>'] := by
      rw [Piece.spell, List.append_assoc _ [' ', '/']]
      rfl
    rw [hend]
    exact startsLine_concat _ _ _
  | newline => rfl
  | freshLine => cases atStart <;> rfl
  | chars s =>
    obtain rfl | ⟨s, c, rfl⟩ := s.eq_nil_or_concat
    · rfl
    · obtain ⟨l, x, hescape, hx⟩ := exists_escapeBodyChar c
      rw [Piece.spell, Piece.marks, List.concat_eq_append, List.flatMap_append,
        List.flatMap_singleton, hescape, ← List.append_assoc, startsLine_concat, List.map_append,
        List.map_singleton, marksStartLine_concat, hx]

/-- **Pieces are read as what they say.** -/
theorem goes_spellAll {ps : List Piece} (h : ∀ p ∈ ps, ∀ a ∈ p.attributes, a.IsProper)
    (atStart : Bool) : Goes .text (spellAll atStart ps) .text (marksAll atStart ps) := by
  induction ps generalizing atStart with
  | nil => exact .nil .text
  | cons p ps ih =>
    obtain ⟨hp, hps⟩ := List.forall_mem_cons.mp h
    rw [spellAll, marksAll, p.startsLine_spell]
    exact (Piece.goes_spell hp atStart).append (ih hps _)

end Parley.Markdown
