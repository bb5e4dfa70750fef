import Parley.Json.Reader

/-!
# What JSON text is

The grammar of JSON, apart from how it is read. A production relates a text to what the text begins
with and to what is left of it (`Parley.Json.Phrase`), so that productions one after the other hand
on the text between them. It says nothing of what is left: a text `12` begins with a one as well as
with a twelve, and only what has to come after a value makes the difference.

The grammar gives each text its value. A string is made of the characters its escapes stand for, so
that there is none with half of a surrogate pair; a number is made of its digits as far as they count,
so that there is none too large for a binary64 number (`Parley.Json.Decimal.number?`); and an object
has its fields in the order of their keys, the last of those with the same key.

Values are nested to any depth, but the depth is counted: inside of `Nested k` there are at most `k`
arrays and objects around a value. A text is JSON (`Parley.Json.IsText`) if it is a value with blanks
around it.
-/

namespace Parley.Json

open Numeral

/-- What texts begin with: the text, what it says, and what is left of it. -/
abbrev Phrase (α : Type) := List Char → α → List Char → Prop

/-! ### Blanks -/

/-- A text begins with blanks. -/
inductive Blanks : List Char → List Char → Prop
  | nil {t : List Char} : Blanks t t
  | cons {c : Char} {s t : List Char} (hc : isSpace c = true) (h : Blanks s t) : Blanks (c :: s) t

/-- Something with blanks before it. -/
def Spaced {α : Type} (G : Phrase α) : Phrase α := fun s x t => ∃ s', Blanks s s' ∧ G s' x t

/-! ### Strings -/

/-- The characters of a string and the quotation mark that closes it. -/
inductive Chars : Phrase (List Char)
  | close {t : List Char} : Chars ('"' :: t) [] t
  | plain {c : Char} {s cs t : List Char} (hquote : c ≠ '"') (hescape : c ≠ '\\')
      (hcontrol : 0x20 ≤ c.toNat) (h : Chars s cs t) : Chars (c :: s) (c :: cs) t
  | short {c d : Char} {s cs t : List Char} (hc : shortEscape? c = some d) (h : Chars s cs t) :
      Chars ('\\' :: c :: s) (d :: cs) t
  | unit {a b c d : Char} {n : Nat} {s cs t : List Char} (hn : hexUnit? a b c d = some n)
      (hleading : isLeadingSurrogate n = false) (htrailing : isTrailingSurrogate n = false)
      (h : Chars s cs t) : Chars ('\\' :: 'u' :: a :: b :: c :: d :: s) (Char.ofNat n :: cs) t
  | pair {a b c d e f g h : Char} {m n : Nat} {s cs t : List Char} (hm : hexUnit? a b c d = some m)
      (hleading : isLeadingSurrogate m = true) (hn : hexUnit? e f g h = some n)
      (htrailing : isTrailingSurrogate n = true) (hs : Chars s cs t) :
      Chars ('\\' :: 'u' :: a :: b :: c :: d :: '\\' :: 'u' :: e :: f :: g :: h :: s)
        (surrogatePair m n :: cs) t

/-! ### Numbers -/

/-- One or more digits. -/
def Digits : Phrase (List Char) := fun s ds t =>
  s = ds ++ t ∧ ds ≠ [] ∧ ∀ d ∈ ds, Text.isDigit d = true

/-- The digits before the point: no zero stands in front of others. -/
inductive Whole : Phrase (List Char)
  | zero {t : List Char} : Whole ('0' :: t) ['0'] t
  | digits {d : Char} {s ds t : List Char} (hd : d ≠ '0') (h : Digits s (d :: ds) t) :
      Whole s (d :: ds) t

/-- The digits after the point, if there is one. -/
inductive Fraction : Phrase (List Char)
  | none {t : List Char} : Fraction t [] t
  | digits {s ds t : List Char} (h : Digits s ds t) : Fraction ('.' :: s) ds t

/-- The sign of an exponent: whether it is a minus. -/
inductive ExponentSign : Phrase Bool
  | none {t : List Char} : ExponentSign t false t
  | plus {t : List Char} : ExponentSign ('+' :: t) false t
  | minus {t : List Char} : ExponentSign ('-' :: t) true t

/-- The sign and the digits of an exponent, if there is one. -/
inductive Exponent : Phrase (Option (Bool × List Char))
  | none {t : List Char} : Exponent t none t
  | digits {c : Char} {down : Bool} {s u ds t : List Char} (hc : c = 'e' ∨ c = 'E')
      (hdown : ExponentSign s down u) (h : Digits u ds t) : Exponent (c :: s) (some (down, ds)) t

/-- A number as it is written. -/
structure Decimal where
  negative : Bool
  whole : List Char
  fraction : List Char
  exponent : Option (Bool × List Char)

/-- A significand with a sign, scaled by a power of ten that comes to less or more by an exponent as
it is written. An exponent of more than 31 bits leaves nothing or zero. -/
def scaled? (negative : Bool) (significand : Nat) (shift : Int) :
    Option (Bool × List Char) → Option Number
  | none => signed shift
  | some (down, ds) =>
    if Text.digitsValue ds < Nat.pow 2 31 then
      let e : Int := Text.digitsValue ds
      signed (max (-2147483648) (min 2147483647 (if down then shift - e else shift + e)))
    else if significand ≠ 0 && !down then none
    else some (.real ⟨negative, 0, Binary64.minExponent⟩)
where
  /-- The number with its sign. -/
  signed (exponent : Int) : Option Number :=
    (scaleByTen significand exponent).map fun x => .real (if negative then x.neg else x)

/-- The number that is written after a sign, of which the significand has been collected from the
digits before the point. Without a fraction, an exponent or digits that did not fit it is a whole
number, except below the range of those, and except for a negative zero. -/
def completed? (negative : Bool) (significand : Nat) (surplus fraction : List Char)
    (exponent : Option (Bool × List Char)) : Option Number :=
  if surplus = [] ∧ fraction = [] ∧ exponent = none then
    if !negative then some (.integer significand)
    else if significand = 0 || Nat.pow 2 63 < significand then
      some (.real (Binary64.ofInt significand).neg)
    else some (.integer (-(significand : Int)))
  else
    let (n, unread) := collect significand fraction
    scaled? negative n (surplus.length - ((fraction.length - unread.length : Nat) : Int)) exponent

/-- The number that is written, unless it is too large. -/
def Decimal.number? (d : Decimal) : Option Number :=
  let (n, surplus) := collect 0 d.whole
  completed? d.negative n surplus d.fraction d.exponent

/-- A number. -/
inductive Unsigned (negative : Bool) : Phrase Decimal
  | mk {s s' u t whole fraction : List Char} {exponent : Option (Bool × List Char)}
      (hwhole : Whole s whole s') (hfraction : Fraction s' fraction u)
      (hexponent : Exponent u exponent t) :
      Unsigned negative s ⟨negative, whole, fraction, exponent⟩ t

/-- A number, with a minus sign if it is negative. -/
inductive Signed : Phrase Decimal
  | plain {d : Decimal} {s t : List Char} (h : Unsigned false s d t) : Signed s d t
  | minus {d : Decimal} {s t : List Char} (h : Unsigned true s d t) : Signed ('-' :: s) d t

/-! ### Arrays and objects -/

/-- What stands before a thing in a list: blanks, and a comma among them unless it is the first. -/
inductive Separator : Bool → List Char → List Char → Prop
  | first {s t : List Char} (h : Blanks s t) : Separator true s t
  | comma {s s' t : List Char} (hcomma : Blanks s (',' :: s')) (h : Blanks s' t) :
      Separator false s t

/-- Things one after the other and the bracket that closes them; `first` if none has gone before. -/
inductive Listed {α : Type} (bracket : Char) (G : Phrase α) : Bool → Phrase (List α)
  | close {first : Bool} {s t : List Char} (h : Blanks s (bracket :: t)) :
      Listed bracket G first s [] t
  | cons {first : Bool} {x : α} {xs : List α} {s s' u t : List Char}
      (hbefore : Separator first s s') (hx : G s' x u) (h : Listed bracket G false u xs t) :
      Listed bracket G first s (x :: xs) t

/-- A key, a colon and a value. -/
inductive KeyAndValue {α : Type} (G : Phrase α) : Phrase (String × α)
  | mk {key : String} {x : α} {s s' u t : List Char} (hkey : Chars s key.toList s')
      (hcolon : Blanks s' (':' :: u)) (hx : Spaced G u x t) : KeyAndValue G ('"' :: s) (key, x) t

/-- A value, with items and fields of a kind; without one there are no arrays and objects. -/
inductive ValueOf (inner : Option (Phrase Value)) : Phrase Value
  | null {t : List Char} : ValueOf inner ('n' :: 'u' :: 'l' :: 'l' :: t) .null t
  | true {t : List Char} : ValueOf inner ('t' :: 'r' :: 'u' :: 'e' :: t) (.bool true) t
  | false {t : List Char} : ValueOf inner ('f' :: 'a' :: 'l' :: 's' :: 'e' :: t) (.bool false) t
  | number {d : Decimal} {n : Number} {s t : List Char} (hd : Signed s d t) (hn : d.number? = some n) :
      ValueOf inner s (.number n) t
  | string {x : String} {s t : List Char} (h : Chars s x.toList t) :
      ValueOf inner ('"' :: s) (.string x) t
  | array {G : Phrase Value} {xs : List Value} {s t : List Char} (hinner : inner = some G)
      (h : Listed ']' G Bool.true s xs t) : ValueOf inner ('[' :: s) (.array xs) t
  | object {G : Phrase Value} {fs : List (String × Value)} {s t : List Char}
      (hinner : inner = some G) (h : Listed '\x7d' (KeyAndValue G) Bool.true s fs t) :
      ValueOf inner ('\x7b' :: s) (.object (Value.sortFields fs)) t

/-- What may stand in an array or object around which `room` more may be put, less one. -/
def Inside : Nat → Option (Phrase Value)
  | 0 => none
  | room + 1 => some (ValueOf (Inside room))

/-- A value with at most so many arrays and objects one inside the other. -/
def Nested (room : Nat) : Phrase Value := ValueOf (Inside room)

/-! ### What is left is shorter -/

/-- What is left of a text is shorter than the text. -/
def Phrase.Shortens {α : Type} (G : Phrase α) : Prop :=
  ∀ ⦃s : List Char⦄ ⦃x : α⦄ ⦃t : List Char⦄, G s x t → t.length < s.length

section Length

variable {s t : List Char}

theorem Blanks.length_le (h : Blanks s t) : t.length ≤ s.length := by
  induction h with
  | nil => exact Nat.le_refl _
  | cons _ _ ih => exact Nat.le_succ_of_le ih

theorem Chars.length_lt {cs : List Char} (h : Chars s cs t) : t.length < s.length := by
  induction h with
  | close => exact Nat.lt_succ_self _
  | plain | short | unit | pair =>
    simp only [List.length_cons]
    omega

theorem Digits.length_lt {ds : List Char} (h : Digits s ds t) : t.length < s.length := by
  obtain ⟨rfl, hne, -⟩ := h
  have hpos := List.length_pos_iff.mpr hne
  rw [List.length_append]
  omega

theorem Exponent.length_le {e : Option (Bool × List Char)} (h : Exponent s e t) :
    t.length ≤ s.length := by
  cases h with
  | none => exact Nat.le_refl _
  | digits _ hsign hds =>
    have hlt := hds.length_lt
    cases hsign <;> simp only [List.length_cons] at * <;> omega

theorem Unsigned.length_lt {negative : Bool} {d : Decimal} (h : Unsigned negative s d t) :
    t.length < s.length := by
  obtain ⟨hwhole, hfraction, hexponent⟩ := h
  have hle := hexponent.length_le
  cases hwhole with
  | zero =>
    cases hfraction with
    | none => exact Nat.lt_succ_of_le hle
    | digits hds =>
      have hlt := hds.length_lt
      simp only [List.length_cons]
      omega
  | digits _ hwhole =>
    have hlt := hwhole.length_lt
    cases hfraction with
    | none => omega
    | digits hds =>
      have hlt' := hds.length_lt
      simp only [List.length_cons] at hlt
      omega

theorem Signed.length_lt {d : Decimal} (h : Signed s d t) : t.length < s.length := by
  cases h with
  | plain h => exact h.length_lt
  | minus h => exact Nat.lt_succ_of_lt h.length_lt

theorem Separator.length_le {first : Bool} (h : Separator first s t) : t.length ≤ s.length := by
  cases h with
  | first h => exact h.length_le
  | comma hcomma h =>
    have hle := hcomma.length_le
    have hle' := h.length_le
    simp only [List.length_cons] at hle
    omega

/-- A list is longer than the number of its things. -/
theorem Listed.length_add_lt {α : Type} {bracket : Char} {G : Phrase α} {first : Bool} {xs : List α}
    (hG : G.Shortens) (h : Listed bracket G first s xs t) : t.length + xs.length < s.length := by
  induction h with
  | close h => exact h.length_le
  | cons hbefore hx _ ih =>
    have hle := hbefore.length_le
    have hlt := hG hx
    simp only [List.length_cons]
    omega

theorem shortens_keyAndValue {α : Type} {G : Phrase α} (hG : G.Shortens) :
    Phrase.Shortens (KeyAndValue G) := by
  rintro _ f t ⟨hkey, hcolon, _, hblanks, hx⟩
  have hkey := hkey.length_lt
  have hcolon := hcolon.length_le
  have hblanks := hblanks.length_le
  have hx := hG hx
  simp only [List.length_cons] at hcolon ⊢
  omega

theorem shortens_valueOf {inner : Option (Phrase Value)}
    (hinner : ∀ G, inner = some G → G.Shortens) : Phrase.Shortens (ValueOf inner) := by
  intro s v t h
  cases h with
  | null | true | false =>
    simp only [List.length_cons]
    omega
  | number hd => exact hd.length_lt
  | string h => exact Nat.lt_succ_of_lt h.length_lt
  | array hG h =>
    have hlt := h.length_add_lt (hinner _ hG)
    simp only [List.length_cons]
    omega
  | object hG h =>
    have hlt := h.length_add_lt (shortens_keyAndValue (hinner _ hG))
    simp only [List.length_cons]
    omega

/-- **What is left of a text after a value is shorter.** -/
theorem shortens_nested (room : Nat) : (Nested room).Shortens := by
  induction room with
  | zero => exact shortens_valueOf nofun
  | succ room ih =>
    refine shortens_valueOf fun G hG => ?_
    cases hG
    exact ih

end Length

/-- **JSON text**: a value with blanks around it. -/
def IsText (room : Nat) (text : String) (v : Value) : Prop :=
  ∃ t, Spaced (Nested room) text.toList v t ∧ Blanks t []

/-- The text of an object, with its fields as they are written. -/
def IsObject (room : Nat) (text : String) (fs : List (String × Value)) : Prop :=
  ∃ G s t, Inside room = some G ∧ Blanks text.toList ('\x7b' :: s) ∧
    Listed '\x7d' (KeyAndValue G) true s fs t ∧ Blanks t []

/-- An object has its fields in the order of their keys, the last of those with the same key. -/
theorem isText_object {room : Nat} {text : String} {gs : List (String × Value)} :
    IsText room text (.object gs) ↔ ∃ fs, IsObject room text fs ∧ Value.sortFields fs = gs := by
  constructor
  · rintro ⟨t, ⟨s, hs, hvalue⟩, ht⟩
    cases hvalue with
    | object hinner h => exact ⟨_, ⟨_, _, t, hinner, hs, h, ht⟩, rfl⟩
  · rintro ⟨fs, ⟨G, s, t, hinner, hs, h, ht⟩, rfl⟩
    exact ⟨t, ⟨_, hs, .object hinner h⟩, ht⟩

end Parley.Json
