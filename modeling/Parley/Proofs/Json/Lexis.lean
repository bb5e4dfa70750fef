import Parley.Proofs.Json.Grammar
import Parley.Proofs.Numeral.Whole

/-!
# The words of JSON text are read as they are written

The leaves of the grammar: blanks, words, strings and numbers. For each the reading step is tied to
its production (`Parley.Json.Reads`). What it reads is what the production describes; and what the
production describes is read, but for what comes after: digits are read as long as there are digits,
so a number is read to its end only where the text does not go on as a number does.

Where a step fails it tells the place, and where it succeeds it counts on. The grammar does not know
of places, so a step is tied to its production wherever it is taken.
-/

namespace Parley.Json

open Numeral Reading

variable {α β : Type} {s t u : List Char} {p q : Place} {c : Char}

/-! ### Steps and productions -/

/-- **A step reads what a production describes**: where something of `ahead` is ahead only that, and,
if something of `after` follows, all of that. -/
structure Reads (ahead : List Char → Prop) (r : Reading α) (G : Phrase α)
    (after : List Char → Prop) : Prop where
  sound {s t : List Char} {p q : Place} {x : α} (hs : ahead s)
    (h : r ⟨s, p⟩ = .ok (x, ⟨t, q⟩)) : G s x t
  complete {s t : List Char} {x : α} (h : G s x t) (ht : after t) (p : Place) :
    ∃ q, r ⟨s, p⟩ = .ok (x, ⟨t, q⟩)

/-- Nothing in particular. -/
def Anything (_ : List Char) : Prop := True

/-- A text begins with a character of a kind. -/
def BeginsWith (start : Char → Prop) (s : List Char) : Prop := ∃ c t, s = c :: t ∧ start c

/-- One step and then another have succeeded if both have. -/
theorem bind_eq_ok {r : Reading α} {f : α → Reading β} {y : β} {c d : Cursor} :
    (r >>= f) c = .ok (y, d) ↔ ∃ x s p, r c = .ok (x, ⟨s, p⟩) ∧ f x ⟨s, p⟩ = .ok (y, d) := by
  change (r c >>= fun a => f a.1 a.2) = _ ↔ _
  cases r c with
  | error e => exact ⟨nofun, nofun⟩
  | ok a =>
    constructor
    · exact fun h => ⟨a.1, a.2.rest, a.2.place, rfl, h⟩
    · rintro ⟨x, s, p, h, h'⟩
      cases h
      exact h'

/-- A step that has been taken is followed by the next. -/
theorem bind_of_eq_ok {r : Reading α} {f : α → Reading β} {x : α} {c d : Cursor}
    (h : r c = .ok (x, d)) : (r >>= f) c = f x d := by
  change (r c >>= fun a => f a.1 a.2) = _
  rw [h]
  rfl

/-- A step that is taken may be looked at by itself. -/
theorem exists_step {r : Reading α} {c : Cursor} {y : α × Cursor} (h : r c = .ok y) :
    ∃ r', r = r' ∧ r' c = .ok y := ⟨r, rfl, h⟩

/-- What is known without reading. -/
theorem reads_pure (a : α) : Reads Anything (pure a) (fun s x t => s = t ∧ some a = some x)
    Anything where
  sound _ h := by
    cases h
    exact ⟨rfl, rfl⟩
  complete h _ p := by
    obtain ⟨rfl, h⟩ := h
    cases h
    exact ⟨p, rfl⟩

/-! ### Blanks -/

namespace Blanks

theorem dropWhile_eq (h : Blanks s t) : s.dropWhile isSpace = t.dropWhile isSpace := by
  induction h with
  | nil => rfl
  | cons hc _ ih => rw [List.dropWhile_cons_of_pos hc, ih]

/-- The blanks before anything else are all there are. -/
theorem dropWhile_eq_cons (h : Blanks s (c :: t)) (hc : isSpace c = false) :
    s.dropWhile isSpace = c :: t := by
  rw [h.dropWhile_eq, List.dropWhile_cons_of_neg (by rw [hc]; exact Bool.false_ne_true)]

theorem of_dropWhile_eq (h : s.dropWhile isSpace = t) : Blanks s t := by
  subst h
  induction s with
  | nil => exact .nil
  | cons c s ih =>
    cases hc : isSpace c with
    | true =>
      rw [List.dropWhile_cons_of_pos hc]
      exact .cons hc ih
    | false =>
      rw [List.dropWhile_cons_of_neg (by rw [hc]; exact Bool.false_ne_true)]
      exact .nil

end Blanks

/-- What follows a look past blanks. -/
theorem peekPastSpace_bind (f : Option Char → Reading β) (s : List Char) (p : Place) :
    (peekPastSpace >>= f) ⟨s, p⟩ = f (s.dropWhile isSpace).head?
      ⟨s.dropWhile isSpace, p.pastAll (s.takeWhile isSpace)⟩ := rfl

/-- **A look past blanks** finds the end of the text or something else. -/
theorem peekPastSpace_cases (s : List Char) (p : Place) :
    (Blanks s [] ∧ ∃ q, ∀ f : Option Char → Reading β,
      (peekPastSpace >>= f) ⟨s, p⟩ = f none ⟨[], q⟩) ∨
    ∃ c t, Blanks s (c :: t) ∧ isSpace c = false ∧ ∃ q, ∀ f : Option Char → Reading β,
      (peekPastSpace >>= f) ⟨s, p⟩ = f (some c) ⟨c :: t, q⟩ := by
  simp only [peekPastSpace_bind]
  cases hs : s.dropWhile isSpace with
  | nil => exact .inl ⟨.of_dropWhile_eq hs, _, fun _ => rfl⟩
  | cons c t =>
    have hc := List.head?_dropWhile_not isSpace s
    rw [hs] at hc
    exact .inr ⟨c, t, .of_dropWhile_eq hs, by simpa using hc, _, fun _ => rfl⟩

/-- What is behind the blanks is found. -/
theorem Blanks.peek (h : Blanks s (c :: t)) (hc : isSpace c = false) (p : Place) :
    ∃ q, ∀ {β : Type} (f : Option Char → Reading β),
      (peekPastSpace >>= f) ⟨s, p⟩ = f (some c) ⟨c :: t, q⟩ := by
  refine ⟨p.pastAll (s.takeWhile isSpace), fun f => ?_⟩
  rw [peekPastSpace_bind, h.dropWhile_eq_cons hc, List.head?_cons]

theorem Blanks.peek_nil (h : Blanks s []) (p : Place) :
    ∃ q, ∀ {β : Type} (f : Option Char → Reading β),
      (peekPastSpace >>= f) ⟨s, p⟩ = f none ⟨[], q⟩ := by
  refine ⟨p.pastAll (s.takeWhile isSpace), fun f => ?_⟩
  rw [peekPastSpace_bind, h.dropWhile_eq]
  rfl

/-! ### One character ahead -/

@[simp] theorem peek_bind_cons (f : Option Char → Reading β) (c : Char) (s : List Char)
    (p : Place) : (peek >>= f) ⟨c :: s, p⟩ = f (some c) ⟨c :: s, p⟩ := rfl

@[simp] theorem advance_bind_cons (f : Unit → Reading β) (c : Char) (s : List Char) (p : Place) :
    (advance >>= f) ⟨c :: s, p⟩ = f () ⟨s, p.past c⟩ := rfl

theorem get_bind (f : Cursor → Reading β) (c : Cursor) : (get >>= f) c = f c c := rfl

/-! ### Words -/

/-- The letters of a word are read. -/
theorem reads_word (cs : List Char) :
    Reads Anything (word cs) (fun s _ t => s = cs ++ t) Anything where
  sound {s t p q _} _ h := by
    induction cs generalizing s p with
    | nil =>
      cases h
      rfl
    | cons c cs ih =>
      cases s with
      | nil => cases h
      | cons d s =>
        simp only [word, peek_bind_cons] at h
        split at h
        · rename_i hd
          rw [advance_bind_cons] at h
          rw [hd, ih trivial h]
          rfl
        · cases h
  complete {s t _} h _ p := by
    subst h
    induction cs generalizing p with
    | nil => exact ⟨p, rfl⟩
    | cons c cs ih =>
      obtain ⟨q, hq⟩ := ih (p.past c)
      refine ⟨q, ?_⟩
      simp only [word, List.cons_append, peek_bind_cons, if_true, advance_bind_cons]
      exact hq

/-! ### Strings -/

/-- What is read up to a quotation mark are the characters of a string. -/
theorem chars_of_stringChars {strict : Bool} (hstrict : strict = true) {cs acc : List Char}
    (h : stringChars strict s p acc = .ok (cs, ⟨t, q⟩)) :
    ∃ ds, cs = ds.reverse ++ acc ∧ Chars s ds t := by
  fun_induction stringChars strict s p acc with
  | case2 =>
    cases h
    exact ⟨[], rfl, .close⟩
  | case4 _ _ _ _ _ _ _ _ _ _ _ hskip =>
    rw [hstrict] at hskip
    cases hskip
  | case7 a b c d p acc _ m hm _ _ _ hleading e f g i r _ n hn _ htrailing ih =>
    obtain ⟨ds, rfl, hds⟩ := ih h
    exact ⟨_ :: ds, by simp, .pair hm hleading hn htrailing hds⟩
  | case14 a b c d r p acc _ n hn _ _ htrailing hleading ih =>
    obtain ⟨ds, rfl, hds⟩ := ih h
    exact ⟨_ :: ds, by simp, .unit hn (by simpa using hleading) (by simpa using htrailing) hds⟩
  | case17 c r p acc _ _ d hd ih =>
    obtain ⟨ds, rfl, hds⟩ := ih h
    exact ⟨_ :: ds, by simp, .short hd hds⟩
  | case20 c r p acc hquote _ _ hend hescape hcontrol ih =>
    obtain ⟨ds, rfl, hds⟩ := ih h
    refine ⟨_ :: ds, by simp, .plain hquote (fun hc => ?_) (Nat.le_of_not_lt hcontrol) hds⟩
    cases r with
    | nil => exact hend hc rfl
    | cons d r => exact hescape d r hc rfl
  | _ => cases h

/-- The first half of a surrogate pair is not the second half of one. -/
theorem isTrailingSurrogate_of_isLeadingSurrogate {n : Nat} (h : isLeadingSurrogate n = true) :
    isTrailingSurrogate n = false := by
  simp only [isLeadingSurrogate, isTrailingSurrogate, Bool.and_eq_true, decide_eq_true_eq,
    Bool.and_eq_false_iff, decide_eq_false_iff_not] at *
  omega

/-- The characters of a string are read. -/
theorem stringChars_of_chars {cs : List Char} (h : Chars s cs t) (acc : List Char) (p : Place) :
    ∃ q, stringChars true s p acc = .ok (cs.reverse ++ acc, ⟨t, q⟩) := by
  induction h generalizing acc p with
  | close => exact ⟨_, rfl⟩
  | @plain c s cs t hquote hescape hcontrol _ ih =>
    obtain ⟨q, hq⟩ := ih (c :: acc) (p.past c)
    refine ⟨q, ?_⟩
    rw [stringChars, if_neg (Nat.not_lt.mpr hcontrol), hq, List.reverse_cons, List.append_assoc]
    · rfl
    · exact hquote
    all_goals
      intros
      exact hescape ‹_›
  | @short c d s cs t hc _ ih =>
    obtain ⟨q, hq⟩ := ih (d :: acc) (p.pastAll ['\\', c])
    have hu : c ≠ 'u' := by
      rintro rfl
      cases hc
    refine ⟨q, ?_⟩
    rw [stringChars]
    · simp only [hc, hq, List.reverse_cons, List.append_assoc, List.singleton_append]
    all_goals
      intros
      exact hu ‹_›
  | @unit a b c d n s cs t hn hleading htrailing _ ih =>
    obtain ⟨q, hq⟩ := ih (Char.ofNat n :: acc) ((p.pastAll ['\\', 'u']).pastAll [a, b, c, d])
    refine ⟨q, ?_⟩
    simp only [stringChars, hn]
    simp [hleading, htrailing, hq]
  | @pair a b c d e f g i m n s cs t hm hleading hn htrailing _ ih =>
    obtain ⟨q, hq⟩ := ih (surrogatePair m n :: acc)
      ((((p.pastAll ['\\', 'u']).pastAll [a, b, c, d]).pastAll ['\\', 'u']).pastAll [e, f, g, i])
    refine ⟨q, ?_⟩
    simp only [stringChars, hm, hn]
    simp [isTrailingSurrogate_of_isLeadingSurrogate hleading, hleading, htrailing, hq]

/-- **Strings** are read as they are written. -/
theorem reads_stringTail :
    Reads Anything stringTail (fun s x t => Chars s x.toList t) Anything where
  sound {s t p q x} _ h := by
    simp only [stringTail] at h
    cases hs : stringChars true s p [] with
    | error e =>
      rw [hs] at h
      cases h
    | ok y =>
      obtain ⟨acc, c⟩ := y
      rw [hs] at h
      cases h
      obtain ⟨cs, rfl, hcs⟩ := chars_of_stringChars rfl hs
      simpa using hcs
  complete {s t x} h _ p := by
    obtain ⟨q, hq⟩ := stringChars_of_chars h [] p
    refine ⟨q, ?_⟩
    simp only [stringTail, hq]
    simp [bind, Except.bind, pure, Except.pure]

/-! ### Digits -/

/-- A text does not begin with a digit. -/
def NoDigit (s : List Char) : Prop := ∀ c t, s = c :: t → Text.isDigit c = false

/-- A text does not go on as a number does. -/
def Parted (s : List Char) : Prop :=
  ∀ c t, s = c :: t → Text.isDigit c = false ∧ c ≠ '.' ∧ c ≠ 'e' ∧ c ≠ 'E'

theorem Parted.noDigit (h : Parted s) : NoDigit s := fun c t hs => (h c t hs).1

theorem digits_takeWhile (h : s.takeWhile Text.isDigit ≠ []) :
    Digits s (s.takeWhile Text.isDigit) (s.dropWhile Text.isDigit) :=
  ⟨List.takeWhile_append_dropWhile.symm, h, fun _ hd => (List.all_eq_true.mp List.all_takeWhile) _ hd⟩

theorem takeWhile_ne_nil (h : Text.isDigit c = true) : (c :: s).takeWhile Text.isDigit ≠ [] := by
  rw [List.takeWhile_cons_of_pos h]
  exact List.cons_ne_nil _ _

/-- The digits before anything else are all there are. -/
theorem Digits.span {ds : List Char} (h : Digits s ds t) (ht : NoDigit t) :
    s.takeWhile Text.isDigit = ds ∧ s.dropWhile Text.isDigit = t := by
  obtain ⟨rfl, -, hds⟩ := h
  have hend : t.takeWhile Text.isDigit = [] ∧ t.dropWhile Text.isDigit = t := by
    cases t with
    | nil => exact ⟨rfl, rfl⟩
    | cons c t => simp [ht c t rfl]
  rw [List.takeWhile_append_of_pos hds, List.dropWhile_append_of_pos hds, hend.1, hend.2,
    List.append_nil]
  exact ⟨rfl, rfl⟩

theorem Digits.exists_cons {ds : List Char} (h : Digits s ds t) :
    ∃ c u, s = c :: u ∧ Text.isDigit c = true := by
  obtain ⟨rfl, hne, hds⟩ := h
  cases ds with
  | nil => exact absurd rfl hne
  | cons c ds => exact ⟨c, ds ++ t, rfl, hds c List.mem_cons_self⟩

/-- A number that goes on with an exponent does not go on with a digit. -/
theorem Exponent.noDigit {e : Option (Bool × List Char)} (h : Exponent s e t) (ht : Parted t) :
    NoDigit s := by
  cases h with
  | none => exact ht.noDigit
  | digits hc =>
    intro d u hs
    cases hs
    rcases hc with rfl | rfl <;> rfl

theorem Fraction.noDigit {ds : List Char} (h : Fraction s ds u) (hu : NoDigit u) : NoDigit s := by
  cases h with
  | none => exact hu
  | digits =>
    intro d v hs
    cases hs
    rfl

/-- What follows a run of digits. -/
theorem digitRun_bind (f : List Char → Reading β) (s : List Char) (p : Place) :
    (digitRun >>= f) ⟨s, p⟩ = f (s.takeWhile Text.isDigit)
      ⟨s.dropWhile Text.isDigit, p.pastAll (s.takeWhile Text.isDigit)⟩ := rfl

/-- A number begins with a digit. -/
theorem Unsigned.exists_cons {negative : Bool} {d : Decimal} (h : Unsigned negative s d t) :
    ∃ c u, s = c :: u ∧ Text.isDigit c = true := by
  obtain ⟨hwhole, -, -⟩ := h
  cases hwhole with
  | zero => exact ⟨_, _, rfl, rfl⟩
  | digits _ hds => exact hds.exists_cons

/-! ### Numbers -/

variable {negative : Bool} {significand : Nat} {shift : Int}

/-- A number is read unless it is too large. -/
theorem reads_realOfParts : Reads Anything (realOfParts negative significand shift)
    (fun s x t => s = t ∧ scaled? negative significand shift none = some x) Anything where
  sound {s t p q x} _ h := by
    cases hx : scaleByTen significand shift with
    | none =>
      simp only [realOfParts, hx] at h
      cases h
    | some y =>
      simp only [realOfParts, hx] at h
      cases h
      refine ⟨rfl, ?_⟩
      rw [scaled?, scaled?.signed, hx]
      rfl
  complete {s t x} h _ p := by
    obtain ⟨rfl, h⟩ := h
    rw [scaled?, scaled?.signed, Option.map_eq_some_iff] at h
    obtain ⟨y, hy, rfl⟩ := h
    refine ⟨p, ?_⟩
    simp only [realOfParts, hy]
    rfl

/-- The digits of an exponent overflow if their number does. -/
theorem exponentOverflow_eq_nil {n : Nat} (hn : n < Nat.pow 2 31) (ds : List Char) :
    exponentOverflow n ds = [] ↔ appendDigits n ds < Nat.pow 2 31 := by
  induction ds generalizing n with
  | nil => exact ⟨fun _ => hn, fun _ => rfl⟩
  | cons d ds ih =>
    simp only [exponentOverflow]
    split
    · rename_i hnext
      exact ih hnext
    · rename_i hnext
      have hle := le_appendDigits (n * 10 + Text.digitValue d) ds
      exact ⟨nofun, fun h => absurd (Nat.lt_of_le_of_lt hle h) hnext⟩

theorem overflows_iff {ds : List Char} (hne : ds ≠ []) :
    ds.length - (exponentOverflow 0 ds).length < ds.length ↔
      ¬ Text.digitsValue ds < Nat.pow 2 31 := by
  have hpos := List.length_pos_iff.mpr hne
  have hnil := exponentOverflow_eq_nil (by decide : 0 < Nat.pow 2 31) ds
  rw [← List.length_eq_zero_iff] at hnil
  change _ ↔ ¬ appendDigits 0 ds < _
  rw [← hnil]
  omega

theorem reads_exponentSign : Reads Anything exponentSign ExponentSign
    (fun t => ∀ c u, t = c :: u → c ≠ '+' ∧ c ≠ '-') where
  sound {s t p q x} _ h := by
    cases s with
    | nil =>
      cases h
      exact .none
    | cons c s =>
      rw [exponentSign, peek_bind_cons] at h
      obtain ⟨_, hr, h⟩ := exists_step h
      split at hr
      · rename_i hc
        subst hr
        cases hc
        cases h
        exact .plus
      · rename_i hc
        subst hr
        cases hc
        cases h
        exact .minus
      · subst hr
        cases h
        exact .none
  complete {s t x} h ht p := by
    cases h with
    | none =>
      refine ⟨p, ?_⟩
      cases s with
      | nil => rfl
      | cons c s =>
        obtain ⟨hplus, hminus⟩ := ht c s rfl
        rw [exponentSign, peek_bind_cons]
        simp only [Option.some.injEq, hplus, hminus, imp_self]
        rfl
    | plus | minus => exact ⟨_, rfl⟩

/-- The digits of an exponent that are ahead are all read. -/
theorem exponentDigits_eq_ok {down : Bool} {x : Number}
    (hne : s.takeWhile Text.isDigit ≠ []) (p : Place) :
    (∃ q, exponentDigits negative significand shift down ⟨s, p⟩ = .ok (x, ⟨t, q⟩)) ↔
      s.dropWhile Text.isDigit = t ∧
        scaled? negative significand shift (some (down, s.takeWhile Text.isDigit)) = some x := by
  obtain ⟨c, u, rfl, hc⟩ := (digits_takeWhile hne).exists_cons
  simp only [exponentDigits, peek_bind_cons, hc, Bool.not_true, Bool.false_eq_true, if_false,
    get_bind, digitRun_bind, overflows_iff hne, scaled?]
  by_cases hsmall : Text.digitsValue ((c :: u).takeWhile Text.isDigit) < Nat.pow 2 31
  · rw [if_neg (not_not_intro hsmall), if_pos hsmall]
    constructor
    · rintro ⟨q, h⟩
      exact reads_realOfParts.sound trivial h
    · exact fun h => reads_realOfParts.complete h trivial _
  · rw [if_pos hsmall, if_neg hsmall]
    split
    · exact ⟨nofun, nofun⟩
    · constructor
      · rintro ⟨q, h⟩
        cases h
        exact ⟨rfl, rfl⟩
      · rintro ⟨rfl, h⟩
        cases h
        exact ⟨_, rfl⟩

theorem reads_exponentDigits {down : Bool} :
    Reads Anything (exponentDigits negative significand shift down) (fun s x t => ∃ ds,
      Digits s ds t ∧ scaled? negative significand shift (some (down, ds)) = some x) NoDigit where
  sound {s t p q x} _ h := by
    cases s with
    | nil => cases h
    | cons c s =>
      have hc : Text.isDigit c = true := by
        cases hc : Text.isDigit c with
        | true => rfl
        | false =>
          simp only [exponentDigits, peek_bind_cons, hc, Bool.not_false, if_true] at h
          cases h
      have hne := takeWhile_ne_nil (s := s) hc
      obtain ⟨rfl, hx⟩ := (exponentDigits_eq_ok hne p).mp ⟨q, h⟩
      exact ⟨_, digits_takeWhile hne, hx⟩
  complete {s t x} h ht p := by
    obtain ⟨ds, hds, hx⟩ := h
    obtain ⟨rfl, rfl⟩ := hds.span ht
    exact (exponentDigits_eq_ok hds.2.1 p).mpr ⟨rfl, hx⟩

/-- An exponent is read, if its letter is ahead. -/
theorem reads_exponentPart : Reads (BeginsWith fun c => c = 'e' ∨ c = 'E')
    (exponentPart negative significand shift) (fun s x t => ∃ e : Bool × List Char,
      Exponent s (some e) t ∧ scaled? negative significand shift (some e) = some x) NoDigit where
  sound {s t p q x} hs h := by
    obtain ⟨c, u, rfl, hc⟩ := hs
    rw [exponentPart, advance_bind_cons] at h
    obtain ⟨down, v, r, hsign, h⟩ := bind_eq_ok.mp h
    obtain ⟨ds, hds, hx⟩ := reads_exponentDigits.sound trivial h
    exact ⟨_, .digits hc (reads_exponentSign.sound trivial hsign) hds, hx⟩
  complete {s t x} h ht p := by
    obtain ⟨⟨down, ds⟩, he, hx⟩ := h
    cases he with
    | @digits c _ u v _ _ hc hdown hds =>
      obtain ⟨d, w, rfl, hd⟩ := hds.exists_cons
      obtain ⟨q, hq⟩ := reads_exponentSign.complete hdown (fun c u hcu => by
        cases hcu
        constructor <;> rintro rfl <;> cases hd) (p.past c)
      rw [exponentPart, advance_bind_cons, bind_of_eq_ok hq]
      exact reads_exponentDigits.complete ⟨ds, hds, hx⟩ ht q

/-- An exponent is read if there is one. -/
theorem reads_exponentIfAny : Reads Anything (exponentIfAny negative significand shift)
    (fun s x t => ∃ e, Exponent s e t ∧ scaled? negative significand shift e = some x)
    Parted where
  sound {s t p q x} _ h := by
    cases s with
    | nil =>
      obtain ⟨rfl, hx⟩ := reads_realOfParts.sound trivial h
      exact ⟨none, .none, hx⟩
    | cons c s =>
      rw [exponentIfAny, peek_bind_cons] at h
      obtain ⟨_, hr, h⟩ := exists_step h
      split at hr
      · rename_i hc
        subst hr
        cases hc
        obtain ⟨e, he⟩ := reads_exponentPart.sound ⟨_, s, rfl, .inl rfl⟩ h
        exact ⟨_, he⟩
      · rename_i hc
        subst hr
        cases hc
        obtain ⟨e, he⟩ := reads_exponentPart.sound ⟨_, s, rfl, .inr rfl⟩ h
        exact ⟨_, he⟩
      · subst hr
        obtain ⟨rfl, hx⟩ := reads_realOfParts.sound trivial h
        exact ⟨none, .none, hx⟩
  complete {s t x} h ht p := by
    obtain ⟨e, he, hx⟩ := h
    cases he with
    | none =>
      obtain ⟨q, hq⟩ := reads_realOfParts.complete ⟨rfl, hx⟩ (s := s) trivial p
      refine ⟨q, ?_⟩
      cases s with
      | nil => exact hq
      | cons c s =>
        obtain ⟨-, -, he, hE⟩ := ht c s rfl
        rw [exponentIfAny, peek_bind_cons]
        simp only [Option.some.injEq, he, hE, imp_self]
        exact hq
    | digits hc hdown hds =>
      obtain ⟨q, hq⟩ := reads_exponentPart.complete ⟨_, .digits hc hdown hds, hx⟩ ht.noDigit p
      refine ⟨q, ?_⟩
      rw [exponentIfAny, peek_bind_cons]
      rcases hc with rfl | rfl <;> exact hq

/-- A fraction is read, if the point is ahead, and an exponent if there is one. -/
theorem reads_fractionPart : Reads (BeginsWith (· = '.')) (fractionPart negative significand shift)
    (fun s x t => ∃ ds e u, s = '.' :: (ds ++ u) ∧ Digits (ds ++ u) ds u ∧ Exponent u e t ∧
      scaled? negative (collect significand ds).1
        (shift - ((ds.length - (collect significand ds).2.length : Nat) : Int)) e = some x)
    Parted where
  sound {s t p q x} hs h := by
    obtain ⟨_, s, rfl, rfl⟩ := hs
    rw [fractionPart, advance_bind_cons, digitRun_bind] at h
    split at h
    · -- there is no digit
      cases hrest : s.dropWhile Text.isDigit <;> rw [hrest] at h <;> cases h
    · rename_i hne
      rw [List.isEmpty_iff] at hne
      obtain ⟨e, he, hx⟩ := reads_exponentIfAny.sound trivial h
      have hds := digits_takeWhile hne
      refine ⟨_, e, _, congrArg _ hds.1, ?_, he, hx⟩
      rwa [← hds.1]
  complete {s t x} h ht p := by
    obtain ⟨ds, e, u, rfl, hds, he, hx⟩ := h
    obtain ⟨htake, hdrop⟩ := hds.span (he.noDigit ht)
    rw [fractionPart, advance_bind_cons, digitRun_bind, htake, hdrop,
      if_neg (by simpa using hds.2.1)]
    exact reads_exponentIfAny.complete ⟨e, he, hx⟩ ht _

theorem completed?_of_fraction {surplus ds : List Char} {e : Option (Bool × List Char)}
    (hds : ds ≠ []) : completed? negative significand surplus ds e =
      scaled? negative (collect significand ds).1 (surplus.length -
        ((ds.length - (collect significand ds).2.length : Nat) : Int)) e := by
  rw [completed?, if_neg (fun h => hds h.2.1)]

theorem completed?_of_exponent {surplus : List Char} {e : Bool × List Char} :
    completed? negative significand surplus [] (some e) =
      scaled? negative significand surplus.length (some e) := by
  rw [completed?, if_neg (fun h => nomatch h.2.2)]
  simp [collect]

/-- Digits alone make a number unless it is too large. -/
theorem reads_digitsAlone {surplus : List Char} :
    Reads Anything (digitsAlone negative significand surplus)
      (fun s x t => s = t ∧ completed? negative significand surplus [] none = some x) Anything := by
  have hcompleted : completed? negative significand surplus [] none =
      if surplus.isEmpty then
        if !negative then some (.integer significand)
        else if significand = 0 || Nat.pow 2 63 < significand then
          some (.real (Binary64.ofInt significand).neg)
        else some (.integer (-(significand : Int)))
      else scaled? negative significand surplus.length none := by
    cases surplus with
    | nil => rfl
    | cons c surplus =>
      rw [completed?, if_neg (by simp)]
      rfl
  rw [hcompleted]
  unfold digitsAlone
  cases surplus.isEmpty with
  | false => exact reads_realOfParts
  | true =>
    simp only [Bool.not_true, Bool.false_eq_true, if_false, if_true]
    split_ifs <;> exact reads_pure _

/-- What is behind the digits before the point is read: a fraction and an exponent, if there are. -/
theorem reads_afterDigits {surplus : List Char} :
    Reads Anything (numberTail.afterDigits negative significand surplus) (fun s x t => ∃ ds e u,
      Fraction s ds u ∧ Exponent u e t ∧ completed? negative significand surplus ds e = some x)
      Parted where
  sound {s t p q x} _ h := by
    cases s with
    | nil =>
      obtain ⟨rfl, hx⟩ := reads_digitsAlone.sound trivial h
      exact ⟨[], none, _, .none, .none, hx⟩
    | cons c s =>
      rw [numberTail.afterDigits, peek_bind_cons] at h
      obtain ⟨_, hr, h⟩ := exists_step h
      split at hr
      · rename_i hc
        subst hr
        cases hc
        obtain ⟨ds, e, u, hs, hds, he, hx⟩ := reads_fractionPart.sound ⟨_, s, rfl, rfl⟩ h
        cases hs
        exact ⟨ds, e, u, .digits hds, he, by rwa [completed?_of_fraction hds.2.1]⟩
      · rename_i hc
        subst hr
        cases hc
        obtain ⟨e, he, hx⟩ := reads_exponentPart.sound ⟨_, s, rfl, .inl rfl⟩ h
        exact ⟨[], some e, _, .none, he, by rwa [completed?_of_exponent]⟩
      · rename_i hc
        subst hr
        cases hc
        obtain ⟨e, he, hx⟩ := reads_exponentPart.sound ⟨_, s, rfl, .inr rfl⟩ h
        exact ⟨[], some e, _, .none, he, by rwa [completed?_of_exponent]⟩
      · subst hr
        obtain ⟨rfl, hx⟩ := reads_digitsAlone.sound trivial h
        exact ⟨[], none, _, .none, .none, hx⟩
  complete {s t x} h ht p := by
    obtain ⟨ds, e, u, hfraction, he, hx⟩ := h
    cases hfraction with
    | digits hds =>
      rw [completed?_of_fraction hds.2.1] at hx
      obtain rfl := hds.1
      exact reads_fractionPart.complete ⟨ds, e, u, rfl, hds, he, hx⟩ ht p
    | none =>
      cases he with
      | none =>
        obtain ⟨q, hq⟩ := reads_digitsAlone.complete ⟨rfl, hx⟩ (s := s) trivial p
        refine ⟨q, ?_⟩
        cases s with
        | nil => exact hq
        | cons c s =>
          obtain ⟨-, hpoint, he, hE⟩ := ht c s rfl
          rw [numberTail.afterDigits, peek_bind_cons]
          simp only [Option.some.injEq, hpoint, he, hE, imp_self]
          exact hq
      | digits hc hdown hds =>
        rw [completed?_of_exponent] at hx
        obtain ⟨q, hq⟩ := reads_exponentPart.complete ⟨_, .digits hc hdown hds, hx⟩ ht.noDigit p
        refine ⟨q, ?_⟩
        rw [numberTail.afterDigits, peek_bind_cons]
        rcases hc with rfl | rfl <;> exact hq

/-- A number without its sign is read. -/
theorem reads_numberTail : Reads Anything (numberTail negative) (fun s x t => ∃ d,
    Unsigned negative s d t ∧ d.number? = some x) Parted where
  sound {s t p q x} _ h := by
    cases s with
    | nil => cases h
    | cons c s =>
      simp only [numberTail, peek_bind_cons] at h
      split at h
      · cases h
      · rename_i hc
        split at h
        · rename_i hzero
          subst hzero
          rw [advance_bind_cons] at h
          have hafter : numberTail.afterDigits negative 0 [] ⟨s, p.past '0'⟩ = .ok (x, ⟨t, q⟩) := by
            cases s with
            | nil => exact h
            | cons d s =>
              simp only [peek_bind_cons] at h
              split at h
              · cases h
              · exact h
          obtain ⟨ds, e, u, hfraction, he, hx⟩ := reads_afterDigits.sound trivial hafter
          exact ⟨⟨negative, ['0'], ds, e⟩, ⟨.zero, hfraction, he⟩, hx⟩
        · rename_i hzero
          have hdigit : Text.isDigit c = true := by simpa using hc
          have hwhole := digits_takeWhile (takeWhile_ne_nil (s := s) hdigit)
          rw [digitRun_bind] at h
          obtain ⟨ds, e, u, hfraction, he, hx⟩ := reads_afterDigits.sound trivial h
          rw [List.takeWhile_cons_of_pos hdigit] at hwhole hx
          exact ⟨⟨negative, _, ds, e⟩, ⟨.digits hzero hwhole, hfraction, he⟩, hx⟩
  complete {s t x} h ht p := by
    obtain ⟨d, hd, hx⟩ := h
    cases hd with
    | @mk _ v _ _ _ ds e hwhole hfraction he =>
      have hrest := hfraction.noDigit (he.noDigit ht)
      cases hwhole with
      | zero =>
        have hdigit : Text.isDigit '0' = true := rfl
        have hx : completed? negative 0 [] ds e = some x := hx
        obtain ⟨q, hq⟩ := reads_afterDigits.complete ⟨_, _, _, hfraction, he, hx⟩ ht (p.past '0')
        refine ⟨q, ?_⟩
        simp only [numberTail, peek_bind_cons, hdigit, Bool.not_true, Bool.false_eq_true, if_false,
          if_true, advance_bind_cons]
        cases v with
        | nil => exact hq
        | cons c v =>
          simp only [peek_bind_cons, hrest c v rfl, Bool.false_eq_true, if_false]
          exact hq
      | @digits c _ cs _ hne hds =>
        have hdigit : Text.isDigit c = true := hds.2.2 c List.mem_cons_self
        obtain ⟨htake, hdrop⟩ := hds.span hrest
        obtain rfl := hds.1
        simp only [numberTail, List.cons_append, peek_bind_cons, hdigit, Bool.not_true,
          Bool.false_eq_true, if_false, hne, digitRun_bind]
        rw [← List.cons_append, htake, hdrop]
        exact reads_afterDigits.complete ⟨_, _, _, hfraction, he, hx⟩ ht _

/-- **Numbers** are read as they are written, unless they are too large. -/
theorem reads_number : Reads Anything number (fun s x t => ∃ d,
    Signed s d t ∧ d.number? = some x) Parted where
  sound {s t p q x} _ h := by
    cases s with
    | nil => cases h
    | cons c s =>
      rw [number, peek_bind_cons] at h
      obtain ⟨_, hr, h⟩ := exists_step h
      split at hr
      · rename_i hc
        subst hr
        cases hc
        rw [advance_bind_cons] at h
        obtain ⟨d, hd, hx⟩ := reads_numberTail.sound trivial h
        exact ⟨d, .minus hd, hx⟩
      · subst hr
        obtain ⟨d, hd, hx⟩ := reads_numberTail.sound trivial h
        exact ⟨d, .plain hd, hx⟩
  complete {s t x} h ht p := by
    obtain ⟨d, hd, hx⟩ := h
    cases hd with
    | plain hd =>
      obtain ⟨c, u, rfl, hc⟩ := hd.exists_cons
      have hminus : c ≠ '-' := by
        rintro rfl
        cases hc
      rw [number, peek_bind_cons]
      simp only [Option.some.injEq, hminus, imp_self]
      exact reads_numberTail.complete ⟨d, hd, hx⟩ ht p
    | @minus _ s _ hd =>
      obtain ⟨q, hq⟩ := reads_numberTail.complete ⟨d, hd, hx⟩ ht (p.past '-')
      exact ⟨q, hq⟩

end Parley.Json
