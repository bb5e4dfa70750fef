import Parley.Proofs.Json.Text

/-!
# JSON text as it stands

The grammar of values leaves out what no value can hold. Whoever reads a record does not ask for that
much of what it has no use for: a number may be of any size there, a string may have half of a surrogate
pair in it, and arrays and objects may be nested to any depth. So beside the value of a text there is
its tree, in which numbers are digits and strings are letters, and in which an object has its fields
one by one as they were given (`Parley.Json.Written`).

A text has one tree at most (`Parley.Json.IsWritten.unique`). Whether the tree has a value, and which,
is told by the tree alone (`Parley.Json.Tree.value?`), so the text of a value is the text of a tree
that has it (`Parley.Json.nested_iff`).
-/

namespace Parley.Json

open Numeral

variable {α β : Type} {s t u : List Char} {c : Char} {first : Bool} {bracket : Char}

/-! ### Letters -/

/-- A letter of a string as it is written: a character, or a unit of 16 bits that may be half of one. -/
inductive Letter
  | char (c : Char)
  | unit (n : Nat)

/-- The letters of a string and the quotation mark that closes it. -/
inductive Letters : Phrase (List Letter)
  | close {t : List Char} : Letters ('"' :: t) [] t
  | plain {c : Char} {s t : List Char} {ls : List Letter} (hquote : c ≠ '"') (hescape : c ≠ '\\')
      (hcontrol : 0x20 ≤ c.toNat) (h : Letters s ls t) : Letters (c :: s) (.char c :: ls) t
  | short {c d : Char} {s t : List Char} {ls : List Letter} (hc : shortEscape? c = some d)
      (h : Letters s ls t) : Letters ('\\' :: c :: s) (.char d :: ls) t
  | unit {a b c d : Char} {n : Nat} {s t : List Char} {ls : List Letter}
      (hn : hexUnit? a b c d = some n) (h : Letters s ls t) :
      Letters ('\\' :: 'u' :: a :: b :: c :: d :: s) (.unit n :: ls) t

/-- The characters that letters make, unless there is half of a surrogate pair among them. -/
def chars? : List Letter → Option (List Char)
  | [] => some []
  | .char c :: ls => (chars? ls).map (c :: ·)
  | .unit n :: ls =>
    if isTrailingSurrogate n then none
    else if isLeadingSurrogate n then
      match ls with
      | .unit m :: ls =>
        if isTrailingSurrogate m then (chars? ls).map (surrogatePair n m :: ·) else none
      | _ => none
    else (chars? ls).map (Char.ofNat n :: ·)

/-- The text that letters make. -/
def spelling? (letters : List Letter) : Option String := (chars? letters).map String.ofList

theorem Chars.letters {cs : List Char} (h : Chars s cs t) :
    ∃ ls, Letters s ls t ∧ chars? ls = some cs := by
  induction h with
  | close => exact ⟨[], .close, rfl⟩
  | plain hquote hescape hcontrol _ ih =>
    obtain ⟨ls, hls, hcs⟩ := ih
    exact ⟨_, .plain hquote hescape hcontrol hls, by rw [chars?, hcs]; rfl⟩
  | short hc _ ih =>
    obtain ⟨ls, hls, hcs⟩ := ih
    exact ⟨_, .short hc hls, by rw [chars?, hcs]; rfl⟩
  | unit hn hleading htrailing _ ih =>
    obtain ⟨ls, hls, hcs⟩ := ih
    refine ⟨_, .unit hn hls, ?_⟩
    unfold chars?
    simp [hleading, htrailing, hcs]
  | pair hm hleading hn htrailing _ ih =>
    obtain ⟨ls, hls, hcs⟩ := ih
    have hfirst := isTrailingSurrogate_of_isLeadingSurrogate hleading
    refine ⟨_, .unit hm (.unit hn hls), ?_⟩
    simp [chars?, hleading, hfirst, htrailing, hcs]

theorem Letters.chars {ls : List Letter} {cs : List Char} (h : Letters s ls t)
    (hcs : chars? ls = some cs) : Chars s cs t := by
  fun_induction chars? ls generalizing s cs with
  | case1 =>
    cases h
    cases hcs
    exact .close
  | case2 c ls ih =>
    obtain ⟨cs, hls, rfl⟩ := Option.map_eq_some_iff.mp hcs
    cases h with
    | plain hquote hescape hcontrol h => exact .plain hquote hescape hcontrol (ih h hls)
    | short hc h => exact .short hc (ih h hls)
  | case4 n htrailing hleading m ls hpair ih =>
    obtain ⟨cs, hls, rfl⟩ := Option.map_eq_some_iff.mp hcs
    cases h with
    | unit hn h =>
      cases h with
      | unit hm h => exact .pair hn hleading hm hpair (ih h hls)
  | case7 n ls htrailing hleading ih =>
    obtain ⟨cs, hls, rfl⟩ := Option.map_eq_some_iff.mp hcs
    cases h with
    | unit hn h => exact .unit hn (by simpa using hleading) (by simpa using htrailing) (ih h hls)
  | _ => cases hcs

/-- **The characters of a string are made of its letters.** -/
theorem chars_iff {cs : List Char} : Chars s cs t ↔ ∃ ls, Letters s ls t ∧ chars? ls = some cs :=
  ⟨Chars.letters, fun ⟨_, h, hcs⟩ => h.chars hcs⟩

theorem chars_toList_iff {x : String} :
    Chars s x.toList t ↔ ∃ ls, Letters s ls t ∧ spelling? ls = some x := by
  rw [chars_iff]
  refine exists_congr fun ls => and_congr_right fun _ => ?_
  rw [spelling?, Option.map_eq_some_iff]
  constructor
  · exact fun h => ⟨_, h, String.ofList_toList⟩
  · rintro ⟨cs, h, rfl⟩
    rw [h, String.toList_ofList]

/-- A string has its letters in one way. -/
theorem Letters.unique {ls ls' : List Letter} {t' : List Char} (h : Letters s ls t)
    (h' : Letters s ls' t') : ls = ls' ∧ t = t' := by
  have hu : shortEscape? 'u' = none := rfl
  induction h generalizing ls' with
  | close =>
    cases h' with
    | close => exact ⟨rfl, rfl⟩
    | plain hquote => exact absurd rfl hquote
  | plain hquote hescape _ _ ih =>
    cases h' with
    | close => exact absurd rfl hquote
    | plain _ _ _ h' => exact ⟨congrArg _ (ih h').1, (ih h').2⟩
    | short => exact absurd rfl hescape
    | unit => exact absurd rfl hescape
  | short hc _ ih =>
    cases h' with
    | plain _ hescape => exact absurd rfl hescape
    | short hc' h' =>
      obtain rfl : _ = _ := Option.some.inj (hc.symm.trans hc')
      exact ⟨congrArg _ (ih h').1, (ih h').2⟩
    | unit => cases hu.symm.trans hc
  | unit hn _ ih =>
    cases h' with
    | plain _ hescape => exact absurd rfl hescape
    | short hc' => cases hu.symm.trans hc'
    | unit hn' h' =>
      obtain rfl : _ = _ := Option.some.inj (hn.symm.trans hn')
      exact ⟨congrArg _ (ih h').1, (ih h').2⟩

theorem Letters.length_lt {ls : List Letter} (h : Letters s ls t) : t.length < s.length := by
  induction h with
  | close => exact Nat.lt_succ_self _
  | plain | short | unit =>
    simp only [List.length_cons]
    omega

/-- The letters of a text of which each character stands for itself. -/
def letters (x : String) : List Letter := x.toList.map .char

theorem spelling?_letters (x : String) : spelling? (letters x) = some x := by
  have hchars : ∀ cs : List Char, chars? (cs.map .char) = some cs := fun cs => by
    induction cs with
    | nil => rfl
    | cons c cs ih => rw [List.map_cons, chars?, ih]; rfl
  rw [spelling?, letters, hchars]
  exact congrArg some String.ofList_toList

/-- A character that needs no escape. -/
def isPlain (c : Char) : Bool := c != '"' && c != '\\' && 0x20 ≤ c.toNat

/-- Characters that need no escape are written as they are. -/
theorem Letters.of_plain {cs : List Char} (h : cs.all isPlain = true) :
    Letters (cs ++ '"' :: t) (cs.map .char) t := by
  induction cs with
  | nil => exact .close
  | cons c cs ih =>
    rw [List.all_cons, Bool.and_eq_true] at h
    obtain ⟨hc, hcs⟩ := h
    simp only [isPlain, Bool.and_eq_true, bne_iff_ne, decide_eq_true_eq] at hc
    exact .plain hc.1.1 hc.1.2 hc.2 (ih hcs)

/-! ### Trees -/

/-- JSON text as it stands, but for blanks and for how characters are written. -/
inductive Tree
  | null
  | bool (b : Bool)
  | number (d : Decimal)
  | string (letters : List Letter)
  | array (items : List Tree)
  | object (fields : List (List Letter × Tree))

/-- A key, a colon and a thing. -/
inductive LetteredField (G : Phrase α) : Phrase (List Letter × α)
  | mk {ls : List Letter} {x : α} {s s' u t : List Char} (hkey : Letters s ls s')
      (hcolon : Blanks s' (':' :: u)) (hx : Spaced G u x t) : LetteredField G ('"' :: s) (ls, x) t

/-- A field of which the key needs no escape. -/
theorem LetteredField.of_plain {G : Phrase α} {x : α} (key : String)
    (hkey : key.toList.all isPlain = true) (hx : G s x t) :
    LetteredField G ('"' :: (key.toList ++ '"' :: ':' :: s)) (letters key, x) t :=
  .mk (.of_plain hkey) .nil ⟨s, .nil, hx⟩

/-- The text of a tree, with items and fields of a kind. -/
inductive TreeOf (G : Phrase Tree) : Phrase Tree
  | null {t : List Char} : TreeOf G ('n' :: 'u' :: 'l' :: 'l' :: t) .null t
  | true {t : List Char} : TreeOf G ('t' :: 'r' :: 'u' :: 'e' :: t) (.bool true) t
  | false {t : List Char} : TreeOf G ('f' :: 'a' :: 'l' :: 's' :: 'e' :: t) (.bool false) t
  | number {d : Decimal} {s t : List Char} (hd : Signed s d t) : TreeOf G s (.number d) t
  | string {ls : List Letter} {s t : List Char} (h : Letters s ls t) :
      TreeOf G ('"' :: s) (.string ls) t
  | array {ts : List Tree} {s t : List Char} (h : Listed ']' G Bool.true s ts t) :
      TreeOf G ('[' :: s) (.array ts) t
  | object {fs : List (List Letter × Tree)} {s t : List Char}
      (h : Listed '\x7d' (LetteredField G) Bool.true s fs t) : TreeOf G ('\x7b' :: s) (.object fs) t

/-- The text of a tree that is less than so high. -/
def Grown : Nat → Phrase Tree
  | 0 => fun _ _ _ => False
  | height + 1 => TreeOf (Grown height)

/-- **The text of a tree.** -/
def Written : Phrase Tree := fun s d t => ∃ height, Grown height s d t

/-- A text is the text of a tree, with blanks around it. -/
def IsWritten (text : String) (d : Tree) : Prop :=
  ∃ t, Spaced Written text.toList d t ∧ Blanks t []

section Mono

variable {G G' : Phrase α} (h : ∀ ⦃s x t⦄, G s x t → G' s x t)

include h

theorem Spaced.mono {x : α} (hx : Spaced G s x t) : Spaced G' s x t := by
  obtain ⟨s', hblanks, hx⟩ := hx
  exact ⟨s', hblanks, h hx⟩

theorem Listed.mono {xs : List α} (hlist : Listed bracket G first s xs t) :
    Listed bracket G' first s xs t := by
  induction hlist with
  | close hclose => exact .close hclose
  | cons hbefore hx _ ih => exact .cons hbefore (h hx) ih

theorem KeyAndValue.mono {f : String × α} (hf : KeyAndValue G s f t) : KeyAndValue G' s f t := by
  obtain ⟨hkey, hcolon, hx⟩ := hf
  exact .mk hkey hcolon (hx.mono h)

theorem LetteredField.mono {f : List Letter × α} (hf : LetteredField G s f t) :
    LetteredField G' s f t := by
  obtain ⟨hkey, hcolon, hx⟩ := hf
  exact .mk hkey hcolon (hx.mono h)

end Mono

theorem TreeOf.mono {G G' : Phrase Tree} (h : ∀ ⦃s d t⦄, G s d t → G' s d t) {d : Tree}
    (hd : TreeOf G s d t) : TreeOf G' s d t := by
  cases hd with
  | null => exact .null
  | true => exact .true
  | false => exact .false
  | number hd => exact .number hd
  | string hls => exact .string hls
  | array hlist => exact .array (hlist.mono h)
  | object hlist => exact .object (hlist.mono fun _ _ _ hf => hf.mono h)

theorem Grown.le {m n : Nat} {d : Tree} (h : Grown m s d t) (hle : m ≤ n) : Grown n s d t := by
  induction m generalizing n s d t with
  | zero => exact h.elim
  | succ m ih =>
    cases n with
    | zero => exact absurd hle (Nat.not_succ_le_zero m)
    | succ n => exact TreeOf.mono (fun _ _ _ hd => ih hd (Nat.le_of_succ_le_succ hle)) h

/-- A text that is nothing but a tree. -/
theorem isWritten_of_toList {text : String} {d : Tree} (h : Written s d []) (hs : text.toList = s) :
    IsWritten text d := by
  subst hs
  exact ⟨[], ⟨_, .nil, h⟩, .nil⟩

/-- Of finitely many things none is higher than some height. -/
theorem Listed.exists_height {H : Nat → Phrase α} (hle : ∀ ⦃m n s x t⦄, H m s x t → m ≤ n → H n s x t)
    {xs : List α} (h : Listed bracket (fun s x t => ∃ n, H n s x t) first s xs t) :
    ∃ n, Listed bracket (H n) first s xs t := by
  induction h with
  | close hclose => exact ⟨0, .close hclose⟩
  | cons hbefore hx _ ih =>
    obtain ⟨m, hx⟩ := hx
    obtain ⟨n, hxs⟩ := ih
    exact ⟨max m n, .cons hbefore (hle hx (Nat.le_max_left m n))
      (hxs.mono fun _ _ _ hy => hle hy (Nat.le_max_right m n))⟩

/-- **A tree is made of trees.** -/
theorem written_iff {d : Tree} : Written s d t ↔ TreeOf Written s d t := by
  constructor
  · rintro ⟨height, h⟩
    cases height with
    | zero => exact h.elim
    | succ height => exact TreeOf.mono (fun _ _ _ h => ⟨height, h⟩) h
  · intro h
    cases h with
    | null => exact ⟨1, .null⟩
    | true => exact ⟨1, .true⟩
    | false => exact ⟨1, .false⟩
    | number hd => exact ⟨1, .number hd⟩
    | string hls => exact ⟨1, .string hls⟩
    | array h =>
      obtain ⟨height, h⟩ := h.exists_height (H := Grown) fun _ _ _ _ _ => Grown.le
      exact ⟨height + 1, .array h⟩
    | object h =>
      have hfields : Listed '\x7d' (fun s f t => ∃ n, LetteredField (Grown n) s f t) true _ _ _ :=
        h.mono fun s f t hf => by
          obtain ⟨hkey, hcolon, s', hblanks, n, hx⟩ := hf
          exact ⟨n, .mk hkey hcolon ⟨s', hblanks, hx⟩⟩
      obtain ⟨height, h⟩ := hfields.exists_height
        fun _ _ _ _ _ hf hle => hf.mono fun _ _ _ hx => Grown.le hx hle
      exact ⟨height + 1, .object h⟩

/-- **What holds of a tree if it holds of its items and fields holds of all.** -/
theorem Written.induction {P : List Char → Tree → List Char → Prop}
    (step : ∀ ⦃s d t⦄, TreeOf (fun s d t => Written s d t ∧ P s d t) s d t → P s d t) {d : Tree}
    (h : Written s d t) : P s d t := by
  obtain ⟨height, h⟩ := h
  induction height generalizing s d t with
  | zero => exact h.elim
  | succ height ih => exact step (TreeOf.mono (fun _ _ _ hd => ⟨⟨height, hd⟩, ih hd⟩) h)

theorem shortens_letteredField {G : Phrase α} (hG : G.Shortens) :
    Phrase.Shortens (LetteredField G) := by
  rintro _ f t ⟨hkey, hcolon, _, hblanks, hx⟩
  have hkey := hkey.length_lt
  have hcolon := hcolon.length_le
  have hblanks := hblanks.length_le
  have hx := hG hx
  simp only [List.length_cons] at hcolon ⊢
  omega

/-- What is left of a text after a tree is shorter. -/
theorem shortens_written : Phrase.Shortens Written := by
  intro s d t h
  refine Written.induction (P := fun s _ t => t.length < s.length) (fun s d t h => ?_) h
  have hinner : Phrase.Shortens fun s d t => Written s d t ∧ t.length < s.length :=
    fun _ _ _ h => h.2
  cases h with
  | null | true | false =>
    simp only [List.length_cons]
    omega
  | number hd => exact hd.length_lt
  | string h => exact Nat.lt_succ_of_lt h.length_lt
  | array h =>
    have hlt := h.length_add_lt hinner
    simp only [List.length_cons]
    omega
  | object h =>
    have hlt := h.length_add_lt (shortens_letteredField hinner)
    simp only [List.length_cons]
    omega

/-! ### A text has one tree -/

/-- Two phrases do not say different things of a text that is read to where they end. -/
def Phrase.Agrees (G G' : Phrase α) : Prop :=
  ∀ ⦃s x t x' t'⦄, G s x t → Parted t → G' s x' t' → Parted t' → x = x' ∧ t = t'

theorem Blanks.unique {c' : Char} {t' : List Char} (h : Blanks s (c :: t)) (hc : isSpace c = false)
    (h' : Blanks s (c' :: t')) (hc' : isSpace c' = false) : c = c' ∧ t = t' := by
  have heq := (h.dropWhile_eq_cons hc).symm.trans (h'.dropWhile_eq_cons hc')
  exact List.cons.inj heq

theorem Spaced.agrees {G G' : Phrase α} (hG : ∀ ⦃s x t⦄, G s x t → BeginsWith BeginsItem s)
    (hG' : ∀ ⦃s x t⦄, G' s x t → BeginsWith BeginsItem s) (h : G.Agrees G') :
    Phrase.Agrees (Spaced G) (Spaced G') := by
  rintro s x t x' t' ⟨u, hu, hx⟩ ht ⟨u', hu', hx'⟩ ht'
  obtain ⟨c, v, rfl, hc, -⟩ := hG hx
  obtain ⟨c', v', rfl, hc', -⟩ := hG' hx'
  obtain ⟨rfl, rfl⟩ := hu.unique hc hu' hc'
  exact h hx ht hx' ht'

/-! #### Numbers -/

theorem ExponentSign.unique {down down' : Bool} {u u' ds ds' : List Char} {t' : List Char}
    (h : ExponentSign s down u) (hds : Digits u ds t) (h' : ExponentSign s down' u')
    (hds' : Digits u' ds' t') : down = down' ∧ u = u' := by
  obtain ⟨c, v, rfl, hc⟩ := hds.exists_cons
  obtain ⟨c', v', rfl, hc'⟩ := hds'.exists_cons
  have hplus : Text.isDigit '+' = false := rfl
  have hminus : Text.isDigit '-' = false := rfl
  cases h <;> cases h' <;> simp_all

theorem Exponent.unique {e e' : Option (Bool × List Char)} {t' : List Char} (h : Exponent s e t)
    (ht : Parted t) (h' : Exponent s e' t') (ht' : Parted t') : e = e' ∧ t = t' := by
  cases h with
  | none =>
    cases h' with
    | none => exact ⟨rfl, rfl⟩
    | digits hc => exact absurd hc (not_or.mpr (ht _ _ rfl).2.2)
  | digits hc hdown hds =>
    cases h' with
    | none => exact absurd hc (not_or.mpr (ht' _ _ rfl).2.2)
    | digits _ hdown' hds' =>
      obtain ⟨rfl, rfl⟩ := hdown.unique hds hdown' hds'
      obtain ⟨rfl, rfl⟩ := hds.span ht.noDigit
      obtain ⟨rfl, rfl⟩ := hds'.span ht'.noDigit
      exact ⟨rfl, rfl⟩

/-- What follows a fraction does not begin with a point. -/
theorem Exponent.noPoint {e : Option (Bool × List Char)} (h : Exponent s e t) (ht : Parted t)
    (hs : s = c :: u) : c ≠ '.' := by
  cases h with
  | none => exact (ht c u hs).2.1
  | digits hc =>
    cases hs
    rintro rfl
    rcases hc with hc | hc <;> cases hc

theorem Fraction.unique {ds ds' : List Char} {e e' : Option (Bool × List Char)} {u u' t' : List Char}
    (h : Fraction s ds u) (he : Exponent u e t) (ht : Parted t) (h' : Fraction s ds' u')
    (he' : Exponent u' e' t') (ht' : Parted t') : ds = ds' ∧ u = u' := by
  cases h with
  | none =>
    cases h' with
    | none => exact ⟨rfl, rfl⟩
    | digits => exact absurd rfl (he.noPoint ht rfl)
  | digits hds =>
    cases h' with
    | none => exact absurd rfl (he'.noPoint ht' rfl)
    | digits hds' =>
      obtain ⟨rfl, rfl⟩ := hds.span (he.noDigit ht)
      obtain ⟨rfl, rfl⟩ := hds'.span (he'.noDigit ht')
      exact ⟨rfl, rfl⟩

theorem Whole.unique {ds ds' : List Char} {u u' : List Char} (h : Whole s ds u) (hu : NoDigit u)
    (h' : Whole s ds' u') (hu' : NoDigit u') : ds = ds' ∧ u = u' := by
  cases h with
  | zero =>
    cases h' with
    | zero => exact ⟨rfl, rfl⟩
    | digits hd hds =>
      cases hds.1
      exact absurd rfl hd
  | digits hd hds =>
    cases h' with
    | zero =>
      cases hds.1
      exact absurd rfl hd
    | digits _ hds' =>
      obtain ⟨htake, rfl⟩ := hds.span hu
      obtain ⟨htake', rfl⟩ := hds'.span hu'
      exact ⟨htake.symm.trans htake', rfl⟩

theorem Unsigned.unique {negative : Bool} {d d' : Decimal} {t' : List Char}
    (h : Unsigned negative s d t) (ht : Parted t) (h' : Unsigned negative s d' t')
    (ht' : Parted t') : d = d' ∧ t = t' := by
  obtain ⟨hwhole, hfraction, he⟩ := h
  obtain ⟨hwhole', hfraction', he'⟩ := h'
  obtain ⟨rfl, rfl⟩ := hwhole.unique (hfraction.noDigit (he.noDigit ht)) hwhole'
    (hfraction'.noDigit (he'.noDigit ht'))
  obtain ⟨rfl, rfl⟩ := hfraction.unique he ht hfraction' he' ht'
  obtain ⟨rfl, rfl⟩ := he.unique ht he' ht'
  exact ⟨rfl, rfl⟩

/-- A number is written in one way. -/
theorem signed_agrees : Phrase.Agrees Signed Signed := by
  intro s d t d' t' h ht h' ht'
  cases h with
  | plain h =>
    cases h' with
    | plain h' => exact h.unique ht h' ht'
    | minus =>
      obtain ⟨c, u, hs, hc⟩ := h.exists_cons
      cases hs
      cases hc
  | minus h =>
    cases h' with
    | plain h' =>
      obtain ⟨c, u, hs, hc⟩ := h'.exists_cons
      cases hs
      cases hc
    | minus h' => exact h.unique ht h' ht'

/-! #### Lists and trees -/

theorem Separator.unique {first : Bool} {c' : Char} {t' : List Char} (h : Separator first s (c :: t))
    (hc : isSpace c = false) (h' : Separator first s (c' :: t')) (hc' : isSpace c' = false) :
    c = c' ∧ t = t' := by
  cases h with
  | first h =>
    cases h' with
    | first h' => exact h.unique hc h' hc'
  | comma hcomma h =>
    cases h' with
    | comma hcomma' h' =>
      obtain ⟨-, rfl⟩ := hcomma.unique rfl hcomma' rfl
      exact h.unique hc h' hc'

/-- What comes next in a list is not its bracket. -/
theorem Separator.ne_bracket (hbracket : bracket = ']' ∨ bracket = '\x7d')
    (h : Separator first s (c :: t)) (hc : isSpace c = false ∧ c ≠ bracket) :
    ¬ Blanks s (bracket :: u) := by
  intro hclose
  have hspace : isSpace bracket = false := by rcases hbracket with rfl | rfl <;> rfl
  cases h with
  | first h => exact hc.2 (h.unique hc.1 hclose hspace).1
  | comma hcomma =>
    have heq := (hcomma.unique rfl hclose hspace).1
    rcases hbracket with rfl | rfl <;> cases heq

/-- **A list has its things in one way.** -/
theorem listed_agrees {G G' : Phrase α} (hbracket : bracket = ']' ∨ bracket = '\x7d')
    (hG : ∀ ⦃s x t⦄, G s x t → BeginsWith (fun c => isSpace c = false ∧ c ≠ bracket) s)
    (hG' : ∀ ⦃s x t⦄, G' s x t → BeginsWith (fun c => isSpace c = false ∧ c ≠ bracket) s)
    (h : G.Agrees G') {xs xs' : List α} {t' : List Char} (hxs : Listed bracket G first s xs t)
    (hxs' : Listed bracket G' first s xs' t') : xs = xs' ∧ t = t' := by
  have hspace : isSpace bracket = false := by rcases hbracket with rfl | rfl <;> rfl
  induction hxs generalizing xs' with
  | close hclose =>
    cases hxs' with
    | close hclose' => exact ⟨rfl, (hclose.unique hspace hclose' hspace).2⟩
    | cons hbefore hx =>
      obtain ⟨c, v, rfl, hc⟩ := hG' hx
      exact absurd hclose (hbefore.ne_bracket hbracket hc)
  | cons hbefore hx hxs ih =>
    obtain ⟨c, v, rfl, hc⟩ := hG hx
    cases hxs' with
    | close hclose => exact absurd hclose (hbefore.ne_bracket hbracket hc)
    | cons hbefore' hx' hxs' =>
      obtain ⟨c', v', rfl, hc'⟩ := hG' hx'
      obtain ⟨rfl, rfl⟩ := hbefore.unique hc.1 hbefore' hc'.1
      obtain ⟨rfl, rfl⟩ := h hx (hxs.parted hbracket) hx' (hxs'.parted hbracket)
      obtain ⟨rfl, rfl⟩ := ih hxs'
      exact ⟨rfl, rfl⟩

theorem LetteredField.begins {G : Phrase α} {f : List Letter × α} (h : LetteredField G s f t) :
    BeginsWith (fun c => isSpace c = false ∧ c ≠ '\x7d') s := by
  obtain ⟨-, -, -⟩ := h
  exact ⟨_, _, rfl, rfl, by decide⟩

theorem LetteredField.agrees {G G' : Phrase α} (h : Phrase.Agrees (Spaced G) (Spaced G')) :
    Phrase.Agrees (LetteredField G) (LetteredField G') := by
  intro s f t f' t' hf ht hf' ht'
  cases hf with
  | mk hkey hcolon hx =>
    cases hf' with
    | mk hkey' hcolon' hx' =>
      obtain ⟨rfl, rfl⟩ := hkey.unique hkey'
      obtain ⟨-, rfl⟩ := hcolon.unique rfl hcolon' rfl
      obtain ⟨rfl, rfl⟩ := h hx ht hx' ht'
      exact ⟨rfl, rfl⟩

theorem Signed.begins {d : Decimal} (h : Signed s d t) :
    BeginsWith (fun c => c = '-' ∨ Text.isDigit c = true) s := by
  cases h with
  | minus => exact ⟨_, _, rfl, .inl rfl⟩
  | plain h =>
    obtain ⟨c, u, rfl, hc⟩ := h.exists_cons
    exact ⟨c, u, rfl, .inr hc⟩

/-- What a tree begins with is neither a blank nor a bracket that closes. -/
theorem TreeOf.begins {G : Phrase Tree} {d : Tree} (h : TreeOf G s d t) :
    BeginsWith BeginsItem s := by
  cases h with
  | null | true | false | string | array | object => exact ⟨_, _, rfl, by decide, by decide⟩
  | number hd =>
    obtain ⟨c, u, rfl, hc⟩ := hd.begins
    refine ⟨c, u, rfl, ?_⟩
    rcases hc with rfl | hc
    · exact ⟨by decide, by decide⟩
    · exact ⟨isSpace_of_isDigit hc, by rintro rfl; cases hc⟩

theorem Written.begins {d : Tree} (h : Written s d t) : BeginsWith BeginsItem s :=
  (written_iff.mp h).begins

/-- No other tree begins like a number. -/
theorem exists_number_of_treeOf {G : Phrase Tree} {d : Tree} (h : TreeOf G s d t)
    (hs : BeginsWith (fun c => c = '-' ∨ Text.isDigit c = true) s) :
    ∃ x, d = .number x ∧ Signed s x t := by
  obtain ⟨c, u, hs, hc⟩ := hs
  cases h with
  | number hd => exact ⟨_, rfl, hd⟩
  | null | true | false | string | array | object =>
    cases hs
    rcases hc with hc | hc <;> cases hc

/-- A text has one tree if its items and fields have one each. -/
theorem treeOf_agrees {G G' : Phrase Tree} (hbegins : ∀ s d t, G s d t → BeginsWith BeginsItem s)
    (hbegins' : ∀ s d t, G' s d t → BeginsWith BeginsItem s) (hinner : Phrase.Agrees G G') :
    Phrase.Agrees (TreeOf G) (TreeOf G') := by
  intro s d t d' t' h ht h' ht'
  by_cases hnumber : BeginsWith (fun c => c = '-' ∨ Text.isDigit c = true) s
  · obtain ⟨x, rfl, hd⟩ := exists_number_of_treeOf h hnumber
    obtain ⟨x', rfl, hd'⟩ := exists_number_of_treeOf h' hnumber
    obtain ⟨rfl, rfl⟩ := signed_agrees hd ht hd' ht'
    exact ⟨rfl, rfl⟩
  -- what does not begin like a number tells by its first character what it is
  cases h with
  | number hd => exact absurd hd.begins hnumber
  | null =>
    cases h' with
    | null => exact ⟨rfl, rfl⟩
    | number hd => exact absurd hd.begins hnumber
  | true =>
    cases h' with
    | true => exact ⟨rfl, rfl⟩
    | number hd => exact absurd hd.begins hnumber
  | false =>
    cases h' with
    | false => exact ⟨rfl, rfl⟩
    | number hd => exact absurd hd.begins hnumber
  | string h =>
    cases h' with
    | string h' =>
      obtain ⟨rfl, rfl⟩ := h.unique h'
      exact ⟨rfl, rfl⟩
    | number hd => exact absurd hd.begins hnumber
  | array h =>
    cases h' with
    | array h' =>
      obtain ⟨rfl, rfl⟩ := listed_agrees (.inl rfl) hbegins hbegins' hinner h h'
      exact ⟨rfl, rfl⟩
    | number hd => exact absurd hd.begins hnumber
  | object h =>
    cases h' with
    | object h' =>
      have hfields := Spaced.agrees hbegins hbegins' hinner
      obtain ⟨rfl, rfl⟩ := listed_agrees (.inr rfl) (fun _ _ _ hf => hf.begins)
        (fun _ _ _ hf => hf.begins) (LetteredField.agrees hfields) h h'
      exact ⟨rfl, rfl⟩
    | number hd => exact absurd hd.begins hnumber

/-- **A text has one tree**, if it is read to where that ends. -/
theorem written_agrees : Phrase.Agrees Written Written := by
  intro s d t d' t' h ht h' ht'
  refine Written.induction
    (P := fun s d t => ∀ d' t', Parted t → Written s d' t' → Parted t' → d = d' ∧ t = t')
    (fun s d t h d' t' ht h' ht' => ?_) h d' t' ht h' ht'
  exact treeOf_agrees (fun _ _ _ hd => hd.1.begins) (fun _ _ _ hd => hd.begins)
    (fun _ _ _ _ _ hd ht hd' ht' => hd.2 _ _ ht hd' ht') h ht (written_iff.mp h') ht'

theorem IsWritten.unique {text : String} {d d' : Tree} (h : IsWritten text d)
    (h' : IsWritten text d') : d = d' := by
  obtain ⟨t, hd, ht⟩ := h
  obtain ⟨t', hd', ht'⟩ := h'
  exact (Spaced.agrees (fun _ _ _ hd => hd.begins) (fun _ _ _ hd => hd.begins) written_agrees
    hd (ht.parted parted_nil) hd' (ht'.parted parted_nil)).1

/-! ### What a tree tells -/

theorem mapM_cons_eq_some {f : α → Option β} {x : α} {xs : List α} {ys : List β} :
    (x :: xs).mapM f = some ys ↔ ∃ y zs, f x = some y ∧ xs.mapM f = some zs ∧ y :: zs = ys := by
  simp [List.mapM_cons, Option.bind_eq_some_iff]

/-- What is told by something that a text begins with. -/
def Told (G : Phrase α) (f : α → Option β) : Phrase β := fun s y t => ∃ x, G s x t ∧ f x = some y

section Told

variable {G : Phrase α} {f : α → Option β}

theorem spaced_told {y : β} : Spaced (Told G f) s y t ↔ Told (Spaced G) f s y t := by
  constructor
  · rintro ⟨u, hu, x, hx, hy⟩
    exact ⟨x, ⟨u, hu, hx⟩, hy⟩
  · rintro ⟨x, ⟨u, hu, hx⟩, hy⟩
    exact ⟨u, hu, x, hx, hy⟩

/-- What a list tells is what its things tell. -/
theorem listed_told {ys : List β} :
    Listed bracket (Told G f) first s ys t ↔ Told (Listed bracket G first) (List.mapM f) s ys t := by
  constructor
  · intro h
    induction h with
    | close h => exact ⟨[], .close h, rfl⟩
    | cons hbefore hx _ ih =>
      obtain ⟨x, hx, hy⟩ := hx
      obtain ⟨xs, hxs, hys⟩ := ih
      exact ⟨x :: xs, .cons hbefore hx hxs, mapM_cons_eq_some.mpr ⟨_, _, hy, hys, rfl⟩⟩
  · rintro ⟨xs, h, hys⟩
    induction h generalizing ys with
    | close h =>
      cases hys
      exact .close h
    | cons hbefore hx _ ih =>
      obtain ⟨y, zs, hy, hzs, rfl⟩ := mapM_cons_eq_some.mp hys
      exact .cons hbefore ⟨_, hx, hy⟩ (ih hzs)

/-- What a field tells: its key, and what its value tells. -/
def fieldTold (f : α → Option β) (g : List Letter × α) : Option (String × β) := do
  return (← spelling? g.1, ← f g.2)

theorem keyAndValue_told {y : String × β} :
    KeyAndValue (Told G f) s y t ↔ Told (LetteredField G) (fieldTold f) s y t := by
  constructor
  · rintro ⟨hkey, hcolon, hx⟩
    obtain ⟨ls, hls, hkey⟩ := chars_toList_iff.mp hkey
    obtain ⟨x, hx, hy⟩ := spaced_told.mp hx
    exact ⟨(ls, x), .mk hls hcolon hx, by rw [fieldTold, hkey, hy]; rfl⟩
  · rintro ⟨_, ⟨hls, hcolon, hx⟩, hy⟩
    obtain ⟨key, hkey, hy⟩ := Option.bind_eq_some_iff.mp hy
    obtain ⟨z, hz, hy⟩ := Option.bind_eq_some_iff.mp hy
    cases hy
    exact .mk (chars_toList_iff.mpr ⟨_, hls, hkey⟩) hcolon (spaced_told.mpr ⟨_, hx, hz⟩)

end Told

namespace Tree

/-- The value of a tree, given that of its items and fields; without it there are no arrays and
objects. -/
def valueOf? (inner : Option (Tree → Option Value)) : Tree → Option Value
  | null => some .null
  | bool b => some (.bool b)
  | number d => d.number?.map .number
  | string ls => (spelling? ls).map .string
  | array ts => inner.bind fun f => (ts.mapM f).map .array
  | object fs => inner.bind fun f => (fs.mapM (fieldTold f)).map fun gs => .object (Value.sortFields gs)

/-- The value of a tree, if it has one and is nested no deeper than there is room. -/
def value? : Nat → Tree → Option Value
  | 0 => valueOf? none
  | room + 1 => valueOf? (some (value? room))

end Tree

/-- What items and fields are agrees with what their trees tell. -/
inductive Tells : Option (Phrase Value) → Option (Tree → Option Value) → Prop
  | none : Tells none none
  | some {G : Phrase Value} {f : Tree → Option Value}
      (h : ∀ ⦃s v t⦄, G s v t ↔ Told Written f s v t) : Tells (some G) (some f)

theorem valueOf_iff {inner : Option (Phrase Value)} {f : Option (Tree → Option Value)}
    (h : Tells inner f) {v : Value} :
    ValueOf inner s v t ↔ Told Written (Tree.valueOf? f) s v t := by
  constructor
  · intro hv
    cases hv with
    | null => exact ⟨.null, written_iff.mpr .null, rfl⟩
    | true => exact ⟨.bool true, written_iff.mpr .true, rfl⟩
    | false => exact ⟨.bool false, written_iff.mpr .false, rfl⟩
    | number hd hn => exact ⟨.number _, written_iff.mpr (.number hd), by rw [Tree.valueOf?, hn]; rfl⟩
    | string hx =>
      obtain ⟨ls, hls, hx⟩ := chars_toList_iff.mp hx
      exact ⟨.string ls, written_iff.mpr (.string hls), by rw [Tree.valueOf?, hx]; rfl⟩
    | array hG hlist =>
      cases h with
      | none => cases hG
      | some h =>
        cases hG
        obtain ⟨ts, hts, hvs⟩ := listed_told.mp (hlist.mono fun _ _ _ hv => h.mp hv)
        exact ⟨.array ts, written_iff.mpr (.array hts),
          by rw [Tree.valueOf?, Option.bind_some, hvs]; rfl⟩
    | object hG hlist =>
      cases h with
      | none => cases hG
      | some h =>
        cases hG
        obtain ⟨fs, hfs, hgs⟩ := listed_told.mp (hlist.mono fun _ _ _ hf => keyAndValue_told.mp
          (hf.mono fun _ _ _ hv => h.mp hv))
        exact ⟨.object fs, written_iff.mpr (.object hfs),
          by rw [Tree.valueOf?, Option.bind_some, hgs]; rfl⟩
  · rintro ⟨d, hd, hv⟩
    cases written_iff.mp hd with
    | null =>
      cases hv
      exact .null
    | true =>
      cases hv
      exact .true
    | false =>
      cases hv
      exact .false
    | number hd =>
      obtain ⟨n, hn, rfl⟩ := Option.map_eq_some_iff.mp hv
      exact .number hd hn
    | string hls =>
      obtain ⟨x, hx, rfl⟩ := Option.map_eq_some_iff.mp hv
      exact .string (chars_toList_iff.mpr ⟨_, hls, hx⟩)
    | array hts =>
      cases h with
      | none => cases hv
      | some h =>
        obtain ⟨vs, hvs, rfl⟩ := Option.map_eq_some_iff.mp hv
        exact .array rfl ((listed_told.mpr ⟨_, hts, hvs⟩).mono fun _ _ _ hv => h.mpr hv)
    | object hfs =>
      cases h with
      | none => cases hv
      | some h =>
        obtain ⟨gs, hgs, rfl⟩ := Option.map_eq_some_iff.mp hv
        exact .object rfl ((listed_told.mpr ⟨_, hfs, hgs⟩).mono fun _ _ _ hf =>
          (keyAndValue_told.mpr hf).mono fun _ _ _ hv => h.mpr hv)

/-- **The text of a value is the text of a tree that has it.** -/
theorem nested_iff (room : Nat) {v : Value} :
    Nested room s v t ↔ Told Written (Tree.value? room) s v t := by
  induction room generalizing s v t with
  | zero => exact valueOf_iff .none
  | succ room ih => exact valueOf_iff (.some fun _ _ _ => ih)

/-- The text of an object is that of a tree of which the fields tell those of the object. -/
theorem isObject_iff {room : Nat} {text : String} {fs : List (String × Value)} :
    IsObject (room + 1) text fs ↔ ∃ gs, IsWritten text (.object gs) ∧
      gs.mapM (fieldTold (Tree.value? room)) = some fs := by
  have hfields : ∀ {s t}, Listed '\x7d' (KeyAndValue (Nested room)) true s fs t ↔
      ∃ gs, Listed '\x7d' (LetteredField Written) true s gs t ∧
        gs.mapM (fieldTold (Tree.value? room)) = some fs := by
    intro s t
    refine Iff.trans ⟨fun h => ?_, fun h => ?_⟩ listed_told
    · exact h.mono fun _ _ _ hf => keyAndValue_told.mp (hf.mono fun _ _ _ => (nested_iff room).mp)
    · exact h.mono fun _ _ _ hf => (keyAndValue_told.mpr hf).mono fun _ _ _ => (nested_iff room).mpr
  constructor
  · rintro ⟨G, s, t, hinside, hs, h, ht⟩
    cases hinside
    obtain ⟨gs, hgs, htold⟩ := hfields.mp h
    exact ⟨gs, ⟨t, ⟨_, hs, written_iff.mpr (.object hgs)⟩, ht⟩, htold⟩
  · rintro ⟨gs, ⟨t, ⟨_, hs, hd⟩, ht⟩, htold⟩
    cases written_iff.mp hd with
    | object hgs => exact ⟨_, _, t, rfl, hs, hfields.mpr ⟨gs, hgs, htold⟩, ht⟩

end Parley.Json
