import Parley.Json.Decode
import Parley.Proofs.Json.Tree

/-!
# What is skipped is a tree

A value that nobody asked for is stepped over without being looked at closely. Still nothing else is
stepped over than the text of a tree, and the text of every tree is, whatever there is in it
(`Parley.Json.reads_skipValue`).

The arrays and objects around the place reached are kept in a stack. What is left to be stepped over is
a value and then the rest of each of them, one after the other (`Parley.Json.Closes`).
-/

namespace Parley.Json

open Reading

variable {α : Type} {s t u : List Char} {p q : Place} {c : Char} {negative : Bool}

/-! ### Strings -/

theorem letters_of_stringChars {strict : Bool} (hstrict : strict = false) {cs acc : List Char}
    (h : stringChars strict s p acc = .ok (cs, ⟨t, q⟩)) : ∃ ls, Letters s ls t := by
  fun_induction stringChars strict s p acc with
  | case2 =>
    cases h
    exact ⟨[], .close⟩
  | case4 _ _ _ _ _ _ _ _ _ hn _ _ ih =>
    obtain ⟨ls, hls⟩ := ih h
    exact ⟨_, .unit hn hls⟩
  | case17 c r p acc _ _ d hd ih =>
    obtain ⟨ls, hls⟩ := ih h
    exact ⟨_, .short hd hls⟩
  | case20 c r p acc hquote _ _ hend hescape hcontrol ih =>
    obtain ⟨ls, hls⟩ := ih h
    refine ⟨_, .plain hquote (fun hc => ?_) (Nat.le_of_not_lt hcontrol) hls⟩
    cases r with
    | nil => exact hend hc rfl
    | cons d r => exact hescape d r hc rfl
  | _ => first | cases h | simp_all

theorem stringChars_of_letters {ls : List Letter} (h : Letters s ls t) (acc : List Char) (p : Place) :
    ∃ cs q, stringChars false s p acc = .ok (cs, ⟨t, q⟩) := by
  induction h generalizing acc p with
  | close => exact ⟨_, _, rfl⟩
  | @plain c s t ls hquote hescape hcontrol _ ih =>
    obtain ⟨cs, q, hq⟩ := ih (c :: acc) (p.past c)
    refine ⟨cs, q, ?_⟩
    rw [stringChars, if_neg (Nat.not_lt.mpr hcontrol), hq]
    · exact hquote
    all_goals
      intros
      exact hescape ‹_›
  | @short c d s t ls hc _ ih =>
    obtain ⟨cs, q, hq⟩ := ih (d :: acc) (p.pastAll ['\\', c])
    have hu : c ≠ 'u' := by
      rintro rfl
      cases hc
    refine ⟨cs, q, ?_⟩
    rw [stringChars]
    · simp only [hc, hq]
    all_goals
      intros
      exact hu ‹_›
  | @unit a b c d n s t ls hn _ ih =>
    obtain ⟨cs, q, hq⟩ := ih acc ((p.pastAll ['\\', 'u']).pastAll [a, b, c, d])
    refine ⟨cs, q, ?_⟩
    simp only [stringChars, hn]
    simp [hq]

/-- **A string is stepped over**, whatever there is in it. -/
theorem reads_skipStringTail :
    Reads Anything skipStringTail (fun s _ t => ∃ ls, Letters s ls t) Anything where
  sound {s t p q x} _ h := by
    simp only [skipStringTail] at h
    cases hs : stringChars false s p [] with
    | error e =>
      rw [hs] at h
      cases h
    | ok y =>
      obtain ⟨acc, c⟩ := y
      rw [hs] at h
      cases h
      exact letters_of_stringChars rfl hs
  complete {s t x} h _ p := by
    obtain ⟨ls, hls⟩ := h
    obtain ⟨cs, q, hq⟩ := stringChars_of_letters hls [] p
    refine ⟨q, ?_⟩
    simp only [skipStringTail, hq]
    rfl

/-! ### Numbers -/

/-- Steps over digits, of which there has to be one. -/
def skipDigits : Reading Unit := do
  let ds ← digitRun
  if ds.isEmpty then failNext .invalidNumber

/-- Steps over the sign and the digits of an exponent. -/
def skipExponentTail : Reading Unit := do
  match ← peek with
  | some '+' => do
    advance
    skipDigits
  | some '-' => do
    advance
    skipDigits
  | _ => skipDigits

theorem reads_skipDigits : Reads Anything skipDigits (fun s _ t => ∃ ds, Digits s ds t) NoDigit where
  sound {s t p q x} _ h := by
    rw [skipDigits, digitRun_bind] at h
    split at h
    · cases h
    · rename_i hne
      rw [List.isEmpty_iff] at hne
      cases h
      exact ⟨_, digits_takeWhile hne⟩
  complete {s t x} h ht p := by
    obtain ⟨ds, hds⟩ := h
    obtain ⟨htake, hdrop⟩ := hds.span ht
    rw [skipDigits, digitRun_bind, htake, hdrop, if_neg (by simpa using hds.2.1)]
    exact ⟨_, rfl⟩

theorem reads_skipExponentTail : Reads Anything skipExponentTail
    (fun s _ t => ∃ down u ds, ExponentSign s down u ∧ Digits u ds t) NoDigit where
  sound {s t p q x} _ h := by
    cases s with
    | nil => cases h
    | cons c s =>
      rw [skipExponentTail, peek_bind_cons] at h
      obtain ⟨_, hr, h⟩ := exists_step h
      split at hr
      · cases ‹some c = some '+'›
        subst hr
        obtain ⟨ds, hds⟩ := reads_skipDigits.sound trivial h
        exact ⟨_, _, ds, .plus, hds⟩
      · cases ‹some c = some '-'›
        subst hr
        obtain ⟨ds, hds⟩ := reads_skipDigits.sound trivial h
        exact ⟨_, _, ds, .minus, hds⟩
      · subst hr
        obtain ⟨ds, hds⟩ := reads_skipDigits.sound trivial h
        exact ⟨_, _, ds, .none, hds⟩
  complete {s t x} h ht p := by
    obtain ⟨down, u, ds, hdown, hds⟩ := h
    cases hdown with
    | none =>
      obtain ⟨c, v, rfl, hc⟩ := hds.exists_cons
      have hplus : c ≠ '+' := by rintro rfl; cases hc
      have hminus : c ≠ '-' := by rintro rfl; cases hc
      rw [skipExponentTail, peek_bind_cons]
      simp only [Option.some.injEq, hplus, hminus, imp_self]
      exact reads_skipDigits.complete ⟨ds, hds⟩ ht p
    | plus => exact reads_skipDigits.complete (x := ()) ⟨ds, hds⟩ ht (p.past '+')
    | minus => exact reads_skipDigits.complete (x := ()) ⟨ds, hds⟩ ht (p.past '-')

theorem skipExponent_cons (c : Char) (s : List Char) (p : Place) :
    skipNumber.exponent ⟨c :: s, p⟩ =
      if c = 'e' || c = 'E' then skipExponentTail ⟨s, p.past c⟩ else .ok ((), ⟨c :: s, p⟩) := by
  rw [skipNumber.exponent, peek_bind_cons]
  simp only
  split <;> rfl

theorem reads_skipExponent : Reads Anything skipNumber.exponent (fun s _ t => ∃ e, Exponent s e t)
    Parted where
  sound {s t p q x} _ h := by
    cases s with
    | nil =>
      cases h
      exact ⟨none, .none⟩
    | cons c s =>
      rw [skipExponent_cons] at h
      split at h
      · rename_i hc
        obtain ⟨down, u, ds, hdown, hds⟩ := reads_skipExponentTail.sound trivial h
        exact ⟨_, .digits (by simpa using hc) hdown hds⟩
      · cases h
        exact ⟨none, .none⟩
  complete {s t x} h ht p := by
    obtain ⟨e, he⟩ := h
    cases he with
    | none =>
      cases s with
      | nil => exact ⟨p, rfl⟩
      | cons c s =>
        obtain ⟨-, -, he, hE⟩ := ht c s rfl
        rw [skipExponent_cons, if_neg (by simp [he, hE])]
        exact ⟨p, rfl⟩
    | @digits c _ _ _ _ _ hc hdown hds =>
      rw [skipExponent_cons, if_pos (by simpa using hc)]
      exact reads_skipExponentTail.complete ⟨_, _, _, hdown, hds⟩ ht.noDigit _

theorem reads_skipFraction : Reads Anything skipNumber.fraction
    (fun s _ t => ∃ ds e u, Fraction s ds u ∧ Exponent u e t) Parted where
  sound {s t p q x} _ h := by
    cases s with
    | nil =>
      obtain ⟨e, he⟩ := reads_skipExponent.sound (s := []) trivial h
      exact ⟨[], e, _, .none, he⟩
    | cons c s =>
      rw [skipNumber.fraction, peek_bind_cons] at h
      obtain ⟨_, hr, h⟩ := exists_step h
      split at hr
      · cases ‹some c = some '.'›
        subst hr
        rw [advance_bind_cons, digitRun_bind] at h
        split at h
        · cases h
        · rename_i hne
          rw [List.isEmpty_iff] at hne
          obtain ⟨e, he⟩ := reads_skipExponent.sound trivial h
          exact ⟨_, e, _, .digits (digits_takeWhile hne), he⟩
      · subst hr
        obtain ⟨e, he⟩ := reads_skipExponent.sound trivial h
        exact ⟨[], e, _, .none, he⟩
  complete {s t x} h ht p := by
    obtain ⟨ds, e, u, hfraction, he⟩ := h
    cases hfraction with
    | none =>
      obtain ⟨q, hq⟩ := reads_skipExponent.complete (x := x) ⟨e, he⟩ ht p
      refine ⟨q, ?_⟩
      cases s with
      | nil => exact hq
      | cons c s =>
        have hpoint := he.noPoint ht rfl
        rw [skipNumber.fraction, peek_bind_cons]
        simp only [Option.some.injEq, hpoint, imp_self]
        exact hq
    | digits hds =>
      obtain ⟨htake, hdrop⟩ := hds.span (he.noDigit ht)
      obtain ⟨q, hq⟩ := reads_skipExponent.complete (x := x) ⟨e, he⟩ ht
        ((p.past '.').pastAll ds)
      refine ⟨q, ?_⟩
      rw [skipNumber.fraction, peek_bind_cons]
      simp only [advance_bind_cons]
      rw [digitRun_bind, htake, hdrop, if_neg (by simpa using hds.2.1)]
      exact hq

/-- **A number is stepped over**, whatever its size. -/
theorem reads_skipNumber : Reads Anything skipNumber (fun s _ t => ∃ d, Unsigned negative s d t)
    Parted where
  sound {s t p q x} _ h := by
    cases s with
    | nil => cases h
    | cons c s =>
      rw [skipNumber, peek_bind_cons] at h
      obtain ⟨_, hr, h⟩ := exists_step h
      split at hr
      · cases ‹some c = some '0'›
        subst hr
        rw [advance_bind_cons] at h
        cases s with
        | nil =>
          cases h
          exact ⟨_, .zero, .none, .none⟩
        | cons d s =>
          rw [peek_bind_cons] at h
          simp only at h
          -- a zero that goes on with a digit is refused
          split at h
          · cases h
          · obtain ⟨ds, e, u, hfraction, he⟩ := reads_skipFraction.sound trivial h
            exact ⟨_, .zero, hfraction, he⟩
      · rename_i d hzero hd
        cases hd
        subst hr
        split at h
        · rename_i hdigit
          have hne : c ≠ '0' := by
            rintro rfl
            exact hzero rfl
          have hwhole := digits_takeWhile (takeWhile_ne_nil (s := s) hdigit)
          rw [digitRun_bind] at h
          obtain ⟨ds, e, u, hfraction, he⟩ := reads_skipFraction.sound trivial h
          rw [List.takeWhile_cons_of_pos hdigit] at hwhole
          exact ⟨_, .digits hne hwhole, hfraction, he⟩
        · cases h
      · cases ‹some c = none›
  complete {s t x} h ht p := by
    obtain ⟨d, hd⟩ := h
    cases hd with
    | @mk _ v _ _ _ _ _ hwhole hfraction he =>
      have hrest := hfraction.noDigit (he.noDigit ht)
      cases hwhole with
      | zero =>
        obtain ⟨q, hq⟩ := reads_skipFraction.complete (x := x) ⟨_, _, _, hfraction, he⟩ ht
          (p.past '0')
        refine ⟨q, ?_⟩
        rw [skipNumber, peek_bind_cons]
        simp only [advance_bind_cons]
        cases v with
        | nil => exact hq
        | cons c v =>
          simp only [peek_bind_cons, hrest c v rfl, Bool.false_eq_true, if_false]
          exact hq
      | @digits c _ cs _ hne hds =>
        have hdigit : Text.isDigit c = true := hds.2.2 c List.mem_cons_self
        obtain ⟨htake, hdrop⟩ := hds.span hrest
        obtain rfl := hds.1
        obtain ⟨q, hq⟩ := reads_skipFraction.complete (x := x) ⟨_, _, _, hfraction, he⟩ ht
          (p.pastAll (c :: cs))
        refine ⟨q, ?_⟩
        rw [skipNumber, List.cons_append, peek_bind_cons]
        simp only [hdigit, if_true]
        rw [digitRun_bind, ← List.cons_append, htake, hdrop]
        exact hq

/-! ### Values -/

/-- A bracket that closes a frame. -/
def Frame.bracket : Frame → Char
  | .list => ']'
  | .object => '\x7d'

/-- **What is left inside of a frame**: the rest of its list, of which no thing has gone before if
`first`. -/
inductive Leaves : Frame → Bool → List Char → List Char → Prop
  | list {first : Bool} {ts : List Tree} {s t : List Char} (h : Listed ']' Written first s ts t) :
      Leaves .list first s t
  | object {first : Bool} {fs : List (List Letter × Tree)} {s t : List Char}
      (h : Listed '\x7d' (LetteredField Written) first s fs t) : Leaves .object first s t

/-- **What is left inside of frames**: the rest of each, from the innermost on. -/
inductive Closes : Bool → List Frame → List Char → List Char → Prop
  | nil {first : Bool} {t : List Char} : Closes first [] t t
  | cons {first : Bool} {frame : Frame} {outer : List Frame} {s u t : List Char}
      (h : Leaves frame first s u) (hclose : Closes false outer u t) : Closes first (frame :: outer) s t

/-- What is before a value: a key and a colon if the frame is an object. -/
inductive Opens : Frame → List Char → List Char → Prop
  | list {s : List Char} : Opens .list s s
  | object {ls : List Letter} {r s u t : List Char} (hblanks : Blanks r ('"' :: s))
      (hkey : Letters s ls u) (hcolon : Blanks u (':' :: t)) : Opens .object r t

/-- **The way to the next value** inside of the innermost frame that is still open, or to the end of all
frames. -/
inductive Steps : Bool → List Frame → List Char → Option (List Frame) → List Char → Prop
  | done {first : Bool} {t : List Char} : Steps first [] t none t
  | close {first : Bool} {frame : Frame} {outer : List Frame} {r : Option (List Frame)}
      {s u t : List Char} (h : Blanks s (frame.bracket :: u)) (hrest : Steps false outer u r t) :
      Steps first (frame :: outer) s r t
  | first {frame : Frame} {outer : List Frame} {c : Char} {s u t : List Char} (h : Blanks s (c :: u))
      (hc : isSpace c = false) (hne : c ≠ frame.bracket) (hopens : Opens frame (c :: u) t) :
      Steps true (frame :: outer) s (some (frame :: outer)) t
  | comma {frame : Frame} {outer : List Frame} {s u t : List Char} (h : Blanks s (',' :: u))
      (hopens : Opens frame u t) : Steps false (frame :: outer) s (some (frame :: outer)) t

section Frames

variable {first : Bool} {frame : Frame} {frames outer : List Frame} {d : Tree} {v w : List Char}

theorem Frame.isSpace_bracket (frame : Frame) : isSpace frame.bracket = false := by
  cases frame <;> rfl

theorem Blanks.trans (h : Blanks s t) (h' : Blanks t u) : Blanks s u := by
  induction h with
  | nil => exact h'
  | cons hc _ ih => exact .cons hc (ih h')

theorem Separator.trans (h : Separator first s t) (h' : Blanks t u) : Separator first s u := by
  cases h with
  | first h => exact .first (h.trans h')
  | comma hcomma h => exact .comma hcomma (h.trans h')

theorem Leaves.close (h : Blanks s (frame.bracket :: t)) : Leaves frame first s t := by
  cases frame with
  | list => exact .list (.close h)
  | object => exact .object (.close h)

/-- A value is passed inside of a frame. -/
theorem Leaves.cons (hbefore : Separator first s t) (hopens : Opens frame t u)
    (hd : Spaced Written u d v) (h : Leaves frame false v w) : Leaves frame first s w := by
  obtain ⟨u', hu, hd⟩ := hd
  cases hopens with
  | list =>
    cases h with
    | list h => exact .list (.cons (hbefore.trans hu) hd h)
  | object hblanks hkey hcolon =>
    cases h with
    | object h => exact .object (.cons (hbefore.trans hblanks) (.mk hkey hcolon ⟨u', hu, hd⟩) h)

/-- **The way leads on** to where all frames are closed. -/
theorem Steps.closes {r : Option (List Frame)} (h : Steps first frames s r t) :
    (r = none → Closes first frames s t) ∧ (∀ frames', r = some frames' → ∀ {d v w},
      Spaced Written t d v → Closes false frames' v w → Closes first frames s w) := by
  induction h with
  | done => exact ⟨fun _ => .nil, nofun⟩
  | close h _ ih =>
    exact ⟨fun hr => .cons (.close h) (ih.1 hr),
      fun _ hr _ _ _ hd hclose => .cons (.close h) (ih.2 _ hr hd hclose)⟩
  | first h _ _ hopens =>
    refine ⟨nofun, fun _ hr _ _ _ hd hclose => ?_⟩
    cases hr
    cases hclose with
    | cons hleaves hclose => exact .cons (.cons (.first h) hopens hd hleaves) hclose
  | comma h hopens =>
    refine ⟨nofun, fun _ hr _ _ _ hd hclose => ?_⟩
    cases hr
    cases hclose with
    | cons hleaves hclose => exact .cons (.cons (.comma h .nil) hopens hd hleaves) hclose

/-- A list goes on inside of a frame. -/
theorem Leaves.cases (h : Leaves frame first s w) : Blanks s (frame.bracket :: w) ∨
    ∃ c t u d v, Separator first s (c :: t) ∧ isSpace c = false ∧ c ≠ frame.bracket ∧
      Opens frame (c :: t) u ∧ Spaced Written u d v ∧ Leaves frame false v w := by
  cases h with
  | list h =>
    cases h with
    | close h => exact .inl h
    | cons hbefore hd h =>
      obtain ⟨c, t, rfl, hc, hne⟩ := hd.begins
      exact .inr ⟨c, t, _, _, _, hbefore, hc, hne, .list, ⟨_, .nil, hd⟩, .list h⟩
  | object h =>
    cases h with
    | close h => exact .inl h
    | cons hbefore hf h =>
      obtain ⟨hkey, hcolon, hd⟩ := hf
      exact .inr ⟨_, _, _, _, _, hbefore, rfl, by decide, .object .nil hkey hcolon, hd, .object h⟩

/-- Blanks before a value make no difference. -/
theorem Opens.before (h : Blanks s t) (hopens : Opens frame t u) (hd : Spaced Written u d v) :
    ∃ u', Opens frame s u' ∧ Spaced Written u' d v := by
  cases hopens with
  | list =>
    obtain ⟨w, hw, hd⟩ := hd
    exact ⟨s, .list, w, h.trans hw, hd⟩
  | object hblanks hkey hcolon => exact ⟨u, .object (h.trans hblanks) hkey hcolon, hd⟩

/-- **Where all frames can be closed there is a way**, to the end or to a value. -/
theorem Closes.steps (h : Closes first frames s w) : Steps first frames s none w ∨
    ∃ frames' t d v, Steps first frames s (some frames') t ∧ Spaced Written t d v ∧
      Closes false frames' v w := by
  induction h with
  | nil => exact .inl .done
  | cons h hclose ih =>
    rcases h.cases with h | ⟨c, t, u, d, v, hbefore, hc, hne, hopens, hd, hleaves⟩
    · rcases ih with ih | ⟨frames', t, d, v, ih, hd, hv⟩
      · exact .inl (.close h ih)
      · exact .inr ⟨frames', t, d, v, .close h ih, hd, hv⟩
    · cases hbefore with
      | first hblanks =>
        exact .inr ⟨_, u, d, v, .first hblanks hc hne hopens, hd, .cons hleaves hclose⟩
      | comma hcomma hblanks =>
        obtain ⟨u', hopens, hd⟩ := hopens.before hblanks hd
        exact .inr ⟨_, u', d, v, .comma hcomma hopens, hd, .cons hleaves hclose⟩

theorem Opens.length_le (h : Opens frame s t) : t.length ≤ s.length := by
  cases h with
  | list => exact Nat.le_refl _
  | object hblanks hkey hcolon =>
    have hblanks := hblanks.length_le
    have hkey := hkey.length_lt
    have hcolon := hcolon.length_le
    simp only [List.length_cons] at hblanks hcolon
    omega

theorem Steps.length_le {r : Option (List Frame)} (h : Steps first frames s r t) :
    t.length ≤ s.length := by
  induction h with
  | done => exact Nat.le_refl _
  | close h _ ih =>
    have hle := h.length_le
    simp only [List.length_cons] at hle
    omega
  | first h _ _ hopens => exact Nat.le_trans hopens.length_le h.length_le
  | comma h hopens =>
    have hle := h.length_le
    have hle' := hopens.length_le
    simp only [List.length_cons] at hle
    omega

/-! ### The way is gone -/

theorem reads_intoFrame : Reads Anything (skipToNext.intoFrame frame outer)
    (fun s r t => Opens frame s t ∧ r = some (frame :: outer)) Anything where
  sound {s t p q x} _ h := by
    cases frame with
    | list =>
      cases h
      exact ⟨.list, rfl⟩
    | object =>
      simp only [skipToNext.intoFrame] at h
      obtain ⟨-, _, hpeek⟩ | ⟨c, u, hblanks, -, _, hpeek⟩ := peekPastSpace_cases s p <;>
        rw [hpeek] at h
      · cases h
      obtain ⟨_, hr, h⟩ := exists_step h
      split at hr
      · cases ‹some c = some '"'›
        subst hr
        rw [advance_bind_cons] at h
        obtain ⟨_, v, r, hkey, h⟩ := bind_eq_ok.mp h
        obtain ⟨_, w, r', hcolon, h⟩ := bind_eq_ok.mp h
        cases h
        obtain ⟨ls, hls⟩ := reads_skipStringTail.sound trivial hkey
        exact ⟨.object hblanks hls (reads_colon.sound trivial hcolon), rfl⟩
      · subst hr
        cases h
      · cases ‹some c = none›
  complete {s t x} h _ p := by
    obtain ⟨hopens, rfl⟩ := h
    cases hopens with
    | list => exact ⟨p, rfl⟩
    | object hblanks hkey hcolon =>
      obtain ⟨q, hq⟩ := hblanks.peek rfl p
      obtain ⟨q', hq'⟩ := reads_skipStringTail.complete (x := ()) ⟨_, hkey⟩ trivial (q.past '"')
      obtain ⟨r, hr⟩ := reads_colon.complete (x := ()) hcolon trivial q'
      refine ⟨r, ?_⟩
      simp only [skipToNext.intoFrame]
      rw [hq]
      simp only
      rw [advance_bind_cons, bind_of_eq_ok hq', bind_of_eq_ok hr]
      rfl

/-- One step on the way. -/
theorem skipToNext_eq (h : Blanks s (c :: u)) (hc : isSpace c = false) (fuel : Nat) (first : Bool)
    (frame : Frame) (outer : List Frame) (p : Place) : ∃ q e,
      skipToNext (fuel + 1) first (frame :: outer) ⟨s, p⟩ =
        if c = frame.bracket then skipToNext fuel false outer ⟨u, q.past c⟩
        else if first then skipToNext.intoFrame frame outer ⟨c :: u, q⟩
        else if c = ',' then skipToNext.intoFrame frame outer ⟨u, q.past c⟩
        else .error e := by
  obtain ⟨q, hq⟩ := h.peek hc p
  refine ⟨q, ⟨match frame with
    | .list => .expectedCommaOrBracket
    | .object => .expectedCommaOrBrace, q.pastByte (c :: u)⟩, ?_⟩
  simp only [skipToNext]
  rw [hq]
  cases frame with
  | list | object =>
    simp only [Frame.bracket, beq_iff_eq]
    split_ifs <;> rfl

theorem skipToNext_sound {fuel : Nat} {r : Option (List Frame)}
    (h : skipToNext fuel first frames ⟨s, p⟩ = .ok (r, ⟨t, q⟩)) : Steps first frames s r t := by
  induction fuel generalizing first frames s p with
  | zero =>
    cases frames with
    | nil =>
      cases h
      exact .done
    | cons => cases h
  | succ fuel ih =>
    cases frames with
    | nil =>
      cases h
      exact .done
    | cons frame outer =>
      obtain ⟨-, _, hpeek⟩ | ⟨c, u, hblanks, hc, -⟩ :=
        peekPastSpace_cases (β := Option (List Frame)) s p
      · simp only [skipToNext] at h
        rw [hpeek] at h
        cases h
      obtain ⟨p', e, hstep⟩ := skipToNext_eq hblanks hc fuel first frame outer p
      rw [hstep] at h
      split_ifs at h with hbracket hfirst hcomma
      · subst hbracket
        exact .close hblanks (ih h)
      · obtain ⟨hopens, rfl⟩ := reads_intoFrame.sound trivial h
        subst hfirst
        exact .first hblanks hc hbracket hopens
      · obtain ⟨hopens, rfl⟩ := reads_intoFrame.sound trivial h
        subst hcomma
        rw [Bool.not_eq_true] at hfirst
        subst hfirst
        exact .comma hblanks hopens

/-- **The way is gone** by as many rounds as there are characters ahead, and one more. -/
theorem skipToNext_complete {r : Option (List Frame)} (h : Steps first frames s r t) {fuel : Nat}
    (hfuel : s.length < fuel) (p : Place) :
    ∃ q, skipToNext fuel first frames ⟨s, p⟩ = .ok (r, ⟨t, q⟩) := by
  obtain ⟨fuel, rfl⟩ := Nat.exists_eq_succ_of_ne_zero (Nat.ne_of_gt (Nat.zero_lt_of_lt hfuel))
  induction h generalizing fuel p with
  | done => exact ⟨p, by rw [skipToNext]; rfl⟩
  | close h _ ih =>
    rename_i first frame outer r s u t _
    obtain ⟨q, e, hstep⟩ := skipToNext_eq h frame.isSpace_bracket fuel first frame outer p
    have hle := h.length_le
    simp only [List.length_cons] at hle
    cases fuel with
    | zero => omega
    | succ fuel =>
      obtain ⟨q', hq'⟩ := ih (q.past frame.bracket) fuel (by omega)
      exact ⟨q', by rw [hstep, if_pos rfl, hq']⟩
  | first h hc hne hopens =>
    obtain ⟨q, e, hstep⟩ := skipToNext_eq h hc fuel true _ _ p
    obtain ⟨q', hq'⟩ := reads_intoFrame.complete ⟨hopens, rfl⟩ trivial q
    exact ⟨q', by rw [hstep, if_neg hne, if_pos rfl, hq']⟩
  | comma h hopens =>
    rename_i frame outer s u t
    obtain ⟨q, e, hstep⟩ := skipToNext_eq h rfl fuel false frame outer p
    obtain ⟨q', hq'⟩ := reads_intoFrame.complete ⟨hopens, rfl⟩ trivial (q.past ',')
    have hne : ',' ≠ frame.bracket := by cases frame <;> decide
    exact ⟨q', by rw [hstep, if_neg hne, if_neg Bool.false_ne_true, if_pos rfl, hq']⟩

/-! ### Values are stepped over -/

/-- What is ahead of a value in a frame or after the last one does not go on as a number does. -/
theorem Closes.parted (h : Closes false frames s t) (ht : Parted t) : Parted s := by
  cases h with
  | nil => exact ht
  | cons h =>
    cases h with
    | list h => exact h.parted (.inl rfl)
    | object h => exact h.parted (.inr rfl)

/-- What is stepped over from inside of frames on. -/
def onward (fuel : Nat) (first : Bool) (frames : List Frame) : Reading Unit := do
  match ← skipToNext (fuel + 1) first frames with
  | none => pure ()
  | some frames => skipWithin fuel frames

/-- Skipping steps over values and closes all frames. -/
def SkipsSoundly (fuel : Nat) : Prop :=
  ∀ ⦃frames s t p q⦄, skipWithin fuel frames ⟨s, p⟩ = .ok ((), ⟨t, q⟩) →
    ∃ d u, Spaced Written s d u ∧ Closes false frames u t

/-- Values are stepped over and all frames are closed. -/
def SkipsAll (fuel : Nat) : Prop :=
  ∀ ⦃frames s t d u⦄, Spaced Written s d u → Closes false frames u t → Parted t → s.length < fuel →
    ∀ p, ∃ q, skipWithin fuel frames ⟨s, p⟩ = .ok ((), ⟨t, q⟩)

theorem onward_sound {fuel : Nat} (ih : SkipsSoundly fuel)
    (h : onward fuel first frames ⟨s, p⟩ = .ok ((), ⟨t, q⟩)) : Closes first frames s t := by
  obtain ⟨r, u, p', hsteps, h⟩ := bind_eq_ok.mp h
  obtain ⟨hnone, hsome⟩ := (skipToNext_sound hsteps).closes
  cases r with
  | none =>
    cases h
    exact hnone rfl
  | some frames' =>
    obtain ⟨d, v, hd, hclose⟩ := ih h
    exact hsome _ rfl hd hclose

theorem onward_complete {fuel : Nat} (ih : SkipsAll fuel) (h : Closes first frames s t)
    (ht : Parted t) (hfuel : s.length < fuel) (p : Place) :
    ∃ q, onward fuel first frames ⟨s, p⟩ = .ok ((), ⟨t, q⟩) := by
  rcases h.steps with hsteps | ⟨frames', u, d, v, hsteps, hd, hclose⟩
  · obtain ⟨q, hq⟩ := skipToNext_complete hsteps (Nat.lt_succ_of_lt hfuel) p
    exact ⟨q, by rw [onward, bind_of_eq_ok hq]; rfl⟩
  · obtain ⟨q, hq⟩ := skipToNext_complete hsteps (Nat.lt_succ_of_lt hfuel) p
    obtain ⟨r, hr⟩ := ih hd hclose ht (Nat.lt_of_le_of_lt hsteps.length_le hfuel) q
    exact ⟨r, by rw [onward, bind_of_eq_ok hq]; exact hr⟩

/-- One thing is stepped over, and then what is left. -/
theorem then_onward_sound {fuel : Nat} {r : Reading Unit} {G : Phrase Unit}
    {after : List Char → Prop} (hr : Reads Anything r G after) (ih : SkipsSoundly fuel)
    (h : (r >>= fun _ => onward fuel first frames) ⟨s, p⟩ = .ok ((), ⟨t, q⟩)) :
    ∃ u, G s () u ∧ Closes first frames u t := by
  obtain ⟨_, u, _, hstep, h⟩ := bind_eq_ok.mp h
  exact ⟨u, hr.sound trivial hstep, onward_sound ih h⟩

theorem then_onward_complete {fuel : Nat} {r : Reading Unit} {G : Phrase Unit}
    {after : List Char → Prop} (hr : Reads Anything r G after) (hG : G s () u) (hafter : after u)
    (ih : SkipsAll fuel) (h : Closes first frames u t) (ht : Parted t) (hfuel : u.length < fuel)
    (p : Place) : ∃ q, (r >>= fun _ => onward fuel first frames) ⟨s, p⟩ = .ok ((), ⟨t, q⟩) := by
  obtain ⟨q, hq⟩ := hr.complete hG hafter p
  rw [bind_of_eq_ok hq]
  exact onward_complete ih h ht hfuel q

theorem skipWithin_sound (fuel : Nat) : SkipsSoundly fuel := by
  induction fuel with
  | zero =>
    intro frames s t p q h
    cases h
  | succ fuel ih =>
    intro frames s t p q h
    simp only [skipWithin] at h
    obtain ⟨-, _, hpeek⟩ | ⟨c, u, hblanks, hc, r, hpeek⟩ := peekPastSpace_cases (β := Unit) s p <;>
      rw [hpeek] at h
    · cases h
    suffices hvalue : ∃ d v, TreeOf Written (c :: u) d v ∧ Closes false frames v t by
      obtain ⟨d, v, hd, hclose⟩ := hvalue
      exact ⟨d, v, ⟨_, hblanks, written_iff.mpr hd⟩, hclose⟩
    obtain ⟨_, hr, h⟩ := exists_step h
    split at hr <;> subst hr
    · cases ‹some c = none›
    · cases ‹some c = some 'n'›
      obtain ⟨v, rfl, hclose⟩ := then_onward_sound (reads_word ['u', 'l', 'l']) ih h
      exact ⟨_, v, .null, hclose⟩
    · cases ‹some c = some 't'›
      obtain ⟨v, rfl, hclose⟩ := then_onward_sound (reads_word ['r', 'u', 'e']) ih h
      exact ⟨_, v, .true, hclose⟩
    · cases ‹some c = some 'f'›
      obtain ⟨v, rfl, hclose⟩ := then_onward_sound (reads_word ['a', 'l', 's', 'e']) ih h
      exact ⟨_, v, .false, hclose⟩
    · cases ‹some c = some '"'›
      obtain ⟨v, ⟨ls, hls⟩, hclose⟩ := then_onward_sound reads_skipStringTail ih h
      exact ⟨_, v, .string hls, hclose⟩
    · cases ‹some c = some '['›
      cases onward_sound ih h with
      | cons hleaves hclose =>
        cases hleaves with
        | list hlist => exact ⟨_, _, .array hlist, hclose⟩
    · cases ‹some c = some '\x7b'›
      cases onward_sound ih h with
      | cons hleaves hclose =>
        cases hleaves with
        | object hlist => exact ⟨_, _, .object hlist, hclose⟩
    · cases ‹some c = some '-'›
      obtain ⟨v, ⟨d, hd⟩, hclose⟩ := then_onward_sound reads_skipNumber ih h
      exact ⟨_, v, .number (.minus hd), hclose⟩
    · cases ‹some c = some _›
      split at h
      · obtain ⟨v, ⟨d, hd⟩, hclose⟩ := then_onward_sound reads_skipNumber ih h
        exact ⟨_, v, .number (.plain hd), hclose⟩
      · cases h

theorem skipWithin_complete (fuel : Nat) : SkipsAll fuel := by
  induction fuel with
  | zero => exact fun _ _ _ _ _ _ _ _ hfuel => absurd hfuel (Nat.not_lt_zero _)
  | succ fuel ih =>
    rintro frames s t d u ⟨s', hblanks, hd⟩ hclose ht hfuel p
    have hu := hclose.parted ht
    obtain ⟨c, v, rfl, hc, -⟩ := hd.begins
    obtain ⟨q, hq⟩ := hblanks.peek hc p
    have hv : v.length < fuel := Nat.lt_of_succ_lt_succ (Nat.lt_of_le_of_lt hblanks.length_le hfuel)
    have hrest : u.length < fuel := Nat.lt_of_le_of_lt (Nat.le_of_lt_succ (shortens_written hd)) hv
    simp only [skipWithin]
    rw [hq]
    -- each kind of value is told by its first character, and leaves fewer of them
    cases written_iff.mp hd with
    | null =>
      exact then_onward_complete (reads_word ['u', 'l', 'l']) rfl trivial ih hclose ht hrest
        (q.past 'n')
    | true =>
      exact then_onward_complete (reads_word ['r', 'u', 'e']) rfl trivial ih hclose ht hrest
        (q.past 't')
    | false =>
      exact then_onward_complete (reads_word ['a', 'l', 's', 'e']) rfl trivial ih hclose ht hrest
        (q.past 'f')
    | string hls =>
      exact then_onward_complete reads_skipStringTail ⟨_, hls⟩ trivial ih hclose ht hrest
        (q.past '"')
    | array hlist => exact onward_complete ih (.cons (.list hlist) hclose) ht hv (q.past '[')
    | object hlist => exact onward_complete ih (.cons (.object hlist) hclose) ht hv (q.past '\x7b')
    | number hd =>
      cases hd with
      | minus hd =>
        exact then_onward_complete reads_skipNumber ⟨_, hd⟩ hu ih hclose ht hrest (q.past '-')
      | plain hd =>
        obtain ⟨_, _, hs, hdigit⟩ := hd.exists_cons
        cases hs
        -- a digit is none of the characters that other values begin with
        have hn : c ≠ 'n' := by rintro rfl; cases hdigit
        have ht' : c ≠ 't' := by rintro rfl; cases hdigit
        have hf : c ≠ 'f' := by rintro rfl; cases hdigit
        have hquote : c ≠ '"' := by rintro rfl; cases hdigit
        have hbracket : c ≠ '[' := by rintro rfl; cases hdigit
        have hbrace : c ≠ '\x7b' := by rintro rfl; cases hdigit
        have hminus : c ≠ '-' := by rintro rfl; cases hdigit
        simp only [hdigit, if_true]
        exact then_onward_complete reads_skipNumber ⟨_, hd⟩ hu ih hclose ht hrest q

end Frames

/-- **What is skipped is a tree**, and all of it: every tree can be skipped. -/
theorem reads_skipValue :
    Reads Anything skipValue (fun s _ t => ∃ d, Spaced Written s d t) Parted where
  sound {s t p q x} _ h := by
    rw [skipValue, roundBound_bind] at h
    obtain ⟨d, u, hd, hclose⟩ := skipWithin_sound _ h
    cases hclose
    exact ⟨d, hd⟩
  complete {s t x} h ht p := by
    obtain ⟨d, hd⟩ := h
    rw [skipValue, roundBound_bind]
    exact skipWithin_complete _ hd .nil ht (Nat.lt_succ_self _) p

end Parley.Json
