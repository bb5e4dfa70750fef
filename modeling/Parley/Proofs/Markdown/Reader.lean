import Mathlib.Data.List.Basic
import Parley.Text.Ascii

/-!
# A reader of HTML

What HTML says is a matter of who reads it. Here is a reader that takes in one character after the
other and yields *marks*: the tags, with their attributes, and the characters between them. A
reference such as `&lt;` is read as the character it stands for, between tags and in the value of an
attribute.

The reader is a strict one. It knows five references, its tags and attributes have names of letters
and digits and values in double quotes, and whatever is not written like that is no HTML to it
(`Parley.Html.Place.lost`). A `<` that begins no tag, a `>` that ends none, and either of them in a
value are not forgiven. So where it reads something there is nothing that a reader would have to
guess at: `<` is to be found at the start of tags and nowhere else (`Parley.Html.exists_tag_of_lt`),
and `>` at their end (`Parley.Html.exists_tag_of_gt`).
-/

namespace Parley.Html

open Parley.Text

/-- A tag that opens an element, with its attributes: their names, and what their values say. -/
structure Tag where
  name : List Char
  attributes : List (List Char × List Char)
  deriving DecidableEq, Repr

/-- What is read. -/
inductive Mark where
  /-- A tag; one that is lone closes what it opens. -/
  | opening (t : Tag) (lone : Bool)
  | closing (name : List Char)
  /-- A character between tags. -/
  | char (c : Char)
  deriving DecidableEq, Repr

/-- A mark is a tag. -/
def Mark.IsTag : Mark → Prop
  | .opening _ _ | .closing _ => True
  | .char _ => False

/-- A tag with one more attribute. -/
def Tag.add (t : Tag) (name value : List Char) : Tag :=
  { t with attributes := t.attributes ++ [(name, value)] }

/-- What a reference stands for, given what is between its `&` and its `;`. -/
def referent? (s : List Char) : Option Char :=
  if s = "amp".toList then some '&'
  else if s = "lt".toList then some '<'
  else if s = "gt".toList then some '>'
  else if s = "quot".toList then some '"'
  else if s = "#x27".toList then some '\''
  else none

/-- Where a reader stands. -/
inductive Place where
  /-- Between tags. -/
  | text
  /-- In a reference between tags. -/
  | reference (s : List Char)
  /-- Behind the `<` of a tag. -/
  | sign
  /-- Behind the `</` of a tag. -/
  | closingSign
  /-- In the name of a tag that closes an element. -/
  | closing (name : List Char)
  /-- In the name of any other tag. -/
  | opening (name : List Char)
  /-- Behind a space in a tag. -/
  | space (t : Tag)
  /-- In the name of an attribute. -/
  | attribute (t : Tag) (name : List Char)
  /-- Behind the `=` of an attribute. -/
  | equals (t : Tag) (name : List Char)
  /-- In the value of an attribute. -/
  | value (t : Tag) (name v : List Char)
  /-- In a reference in the value of an attribute. -/
  | valueReference (t : Tag) (name v s : List Char)
  /-- Behind an attribute. -/
  | behind (t : Tag)
  /-- Behind the `/` of a lone tag. -/
  | slash (t : Tag)
  /-- In what is no HTML. -/
  | lost
  deriving DecidableEq, Repr

namespace Place

/-- Reads one character: where the reader stands behind it, and what it yields. -/
def step : Place → Char → Place × Option Mark
  | .text, c =>
    if c = '<' then (.sign, none)
    else if c = '>' then (.lost, none)
    else if c = '&' then (.reference [], none)
    else (.text, some (.char c))
  | .reference s, c =>
    if c = ';' then match referent? s with
      | some x => (.text, some (.char x))
      | none => (.lost, none)
    else if isLetterOrDigit c || c = '#' then (.reference (s ++ [c]), none)
    else (.lost, none)
  | .sign, c =>
    if c = '/' then (.closingSign, none)
    else if isLetter c then (.opening [c], none)
    else (.lost, none)
  | .closingSign, c => if isLetter c then (.closing [c], none) else (.lost, none)
  | .closing name, c =>
    if c = '>' then (.text, some (.closing name))
    else if isLetterOrDigit c then (.closing (name ++ [c]), none)
    else (.lost, none)
  | .opening name, c =>
    if c = '>' then (.text, some (.opening ⟨name, []⟩ false))
    else if c = ' ' then (.space ⟨name, []⟩, none)
    else if isLetterOrDigit c then (.opening (name ++ [c]), none)
    else (.lost, none)
  | .space t, c =>
    if c = '/' then (.slash t, none)
    else if isLetter c then (.attribute t [c], none)
    else (.lost, none)
  | .attribute t name, c =>
    if c = '=' then (.equals t name, none)
    else if isLetter c then (.attribute t (name ++ [c]), none)
    else (.lost, none)
  | .equals t name, c => if c = '"' then (.value t name [], none) else (.lost, none)
  | .value t name v, c =>
    if c = '"' then (.behind (t.add name v), none)
    else if c = '<' || c = '>' then (.lost, none)
    else if c = '&' then (.valueReference t name v [], none)
    else (.value t name (v ++ [c]), none)
  | .valueReference t name v s, c =>
    if c = ';' then match referent? s with
      | some x => (.value t name (v ++ [x]), none)
      | none => (.lost, none)
    else if isLetterOrDigit c || c = '#' then (.valueReference t name v (s ++ [c]), none)
    else (.lost, none)
  | .behind t, c =>
    if c = '>' then (.text, some (.opening t false))
    else if c = ' ' then (.space t, none)
    else (.lost, none)
  | .slash t, c => if c = '>' then (.text, some (.opening t true)) else (.lost, none)
  | .lost, _ => (.lost, none)

/-- A place inside a tag. -/
def IsInTag : Place → Prop
  | .text | .reference _ | .lost => False
  | _ => True

end Place

/-- Reads characters: where the reader stands behind them, and what it yields. -/
def run : Place → List Char → Place × List Mark
  | p, [] => (p, [])
  | p, c :: s =>
    let (q, m) := p.step c
    let (q', ms) := run q s
    (q', m.toList ++ ms)

/-- What a text says as HTML, if it is HTML. -/
def read (s : List Char) : Option (List Mark) :=
  match run .text s with
  | (.text, ms) => some ms
  | _ => none

variable {p q q' : Place} {s s' before after : List Char} {c : Char} {m : Mark} {ms ms' : List Mark}

/-! ### Reading on -/

/-- A reader goes over characters from one place to another, and yields marks. -/
def Goes (p : Place) (s : List Char) (q : Place) (ms : List Mark) : Prop := run p s = (q, ms)

theorem read_eq_some : read s = some ms ↔ Goes .text s .text ms := by
  unfold read Goes
  split
  · rename_i ms' h
    rw [h, Option.some.injEq, Prod.mk.injEq]
    exact ⟨fun hms => ⟨rfl, hms⟩, And.right⟩
  · rename_i hne
    exact iff_of_false nofun fun h => hne ms h

namespace Goes

theorem nil (p : Place) : Goes p [] p [] := rfl

theorem cons {m : Option Mark} (h : p.step c = (q, m)) (hs : Goes q s q' ms) :
    Goes p (c :: s) q' (m.toList ++ ms) := by
  unfold Goes at hs ⊢
  rw [run, h]
  dsimp only
  rw [hs]

/-- A character that yields nothing. -/
theorem skip (h : p.step c = (q, none)) (hs : Goes q s q' ms) : Goes p (c :: s) q' ms :=
  cons h hs

/-- A single character. -/
theorem single {m : Option Mark} (h : p.step c = (q, m)) : Goes p [c] q m.toList := by
  simpa using cons h (nil q)

theorem append (h : Goes p s q ms) (h' : Goes q s' q' ms') : Goes p (s ++ s') q' (ms ++ ms') := by
  induction s generalizing p ms with
  | nil =>
    cases h
    exact h'
  | cons c s ih =>
    unfold Goes at h
    rw [run] at h
    rcases hstep : p.step c with ⟨r, m⟩
    rw [hstep] at h
    cases h
    rw [List.append_assoc]
    exact cons hstep (ih rfl)

/-- What was gone over can be parted anywhere. -/
theorem exists_of_append (h : Goes p (s ++ s') q ms) :
    ∃ r ms₁ ms₂, Goes p s r ms₁ ∧ Goes r s' q ms₂ ∧ ms = ms₁ ++ ms₂ := by
  have hs : Goes p s (run p s).1 (run p s).2 := rfl
  have hs' : Goes (run p s).1 s' _ _ := rfl
  cases h.symm.trans (hs.append hs')
  exact ⟨_, _, _, hs, hs', rfl⟩

/-- From what is no HTML nothing leads back. -/
theorem of_lost (h : Goes .lost s q ms) : q = .lost := by
  induction s generalizing ms with
  | nil =>
    cases h
    rfl
  | cons c s ih =>
    unfold Goes at h
    rw [run] at h
    cases h
    exact ih rfl

end Goes

/-! ### Where tags begin and end -/

/-- A `<` is read between tags and nowhere else. -/
theorem step_lt (h : p ≠ .text) : p.step '<' = (.lost, none) := by
  cases p with
  | text => exact absurd rfl h
  | _ => rfl

/-- A `>` ends a tag. -/
theorem step_gt (p : Place) :
    p.step '>' = (.lost, none) ∨ ∃ m : Mark, m.IsTag ∧ p.step '>' = (.text, some m) := by
  cases p with
  | closing name => exact .inr ⟨.closing name, trivial, rfl⟩
  | opening name => exact .inr ⟨.opening ⟨name, []⟩ false, trivial, rfl⟩
  | behind t => exact .inr ⟨.opening t false, trivial, rfl⟩
  | slash t => exact .inr ⟨.opening t true, trivial, rfl⟩
  | _ => exact .inl rfl

/-- **What is read inside a tag** belongs to the tag, or is its end. -/
theorem step_of_isInTag (hp : p.IsInTag) (c : Char) :
    p.step c = (.lost, none) ∨ (∃ q : Place, q.IsInTag ∧ p.step c = (q, none)) ∨
      ∃ m : Mark, m.IsTag ∧ p.step c = (.text, some m) := by
  cases p with
  | text | reference | lost => cases hp
  | _ =>
    simp only [Place.step]
    repeat' split
    all_goals first
      | exact .inl rfl
      | exact .inr (.inl ⟨_, by trivial, rfl⟩)
      | exact .inr (.inr ⟨_, by trivial, rfl⟩)

/-- The first mark that is read from inside a tag is that tag. -/
theorem Goes.exists_tag (hp : p.IsInTag) (h : Goes p s .text ms) :
    ∃ m ms', m.IsTag ∧ ms = m :: ms' := by
  induction s generalizing p ms with
  | nil =>
    cases h
    cases hp
  | cons c s ih =>
    obtain ⟨r, ms₁, ms₂, hc, hs, rfl⟩ := exists_of_append (s := [c]) h
    rcases step_of_isInTag hp c with hstep | ⟨q, hq, hstep⟩ | ⟨m, hm, hstep⟩ <;>
      cases hc.symm.trans (single hstep)
    · cases hs.of_lost
    · exact ih hq hs
    · exact ⟨m, ms₂, hm, rfl⟩

/-- **Every `<` begins a tag.** -/
theorem exists_tag_of_lt (h : read (before ++ '<' :: after) = some ms) :
    ∃ ms₁ m ms₂, read before = some ms₁ ∧ m.IsTag ∧ ms = ms₁ ++ m :: ms₂ := by
  rw [read_eq_some] at h
  obtain ⟨r, ms₁, ms₂, hbefore, hlt, rfl⟩ := h.exists_of_append
  obtain ⟨r', _, ms₂, hsign, hafter, rfl⟩ := Goes.exists_of_append (s := ['<']) hlt
  by_cases hr : r = .text
  · subst hr
    cases hsign
    obtain ⟨m, ms', hm, rfl⟩ := hafter.exists_tag (p := .sign) trivial
    exact ⟨ms₁, m, ms', read_eq_some.mpr hbefore, hm, rfl⟩
  · -- anywhere but between tags a reader is lost at a sign, and stays so
    cases hsign.symm.trans (Goes.single (step_lt hr))
    cases hafter.of_lost

/-- **Every `>` ends a tag.** -/
theorem exists_tag_of_gt (h : read (before ++ '>' :: after) = some ms) :
    ∃ ms₁ m ms₂, read (before ++ ['>']) = some (ms₁ ++ [m]) ∧ m.IsTag ∧ ms = ms₁ ++ m :: ms₂ := by
  rw [read_eq_some] at h
  obtain ⟨r, ms₁, ms₂, hbefore, hgt, rfl⟩ := h.exists_of_append
  obtain ⟨r', _, ms₂, hsign, hafter, rfl⟩ := Goes.exists_of_append (s := ['>']) hgt
  rcases step_gt r with hstep | ⟨m, hm, hstep⟩
  · cases hsign.symm.trans (Goes.single hstep)
    cases hafter.of_lost
  · have hend := Goes.single hstep
    cases hsign.symm.trans hend
    exact ⟨ms₁, m, ms₂, read_eq_some.mpr (hbefore.append hend), hm, rfl⟩

end Parley.Html
