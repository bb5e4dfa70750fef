import Parley.Proofs.Json.Lexis

/-!
# JSON text is read for what it is

`Parley.Json.parse_eq_ok` is the whole of it: a text is read as a value exactly if it is JSON, nested
no deeper than the reader goes, and the value is what the grammar says. So nothing is read that is
not JSON, and what is JSON is only refused for its depth, or because the grammar gives it no value.

Arrays and objects are read by the same kind of loop: a step that looks for the next thing, and a step
that reads it (`Parley.Json.IsLoop.reads`). The loop has as many rounds as there are characters ahead,
which is enough since what is left gets shorter with each thing. Values are read to their end as what
comes after them in a list, in an object or at the end of a text does not go on as a number does.
-/

namespace Parley.Json

open Numeral Reading

variable {α β : Type} {s t u : List Char} {p q : Place} {c : Char} {first : Bool}

/-! ### What comes after a value -/

theorem Blanks.parted (h : Blanks s t) (ht : Parted t) : Parted s := by
  induction h with
  | nil => exact ht
  | @cons c _ _ hc _ _ =>
    rintro d u hs
    cases hs
    simp only [isSpace, Bool.or_eq_true, decide_eq_true_eq] at hc
    rcases hc with ((rfl | rfl) | rfl) | rfl <;> exact ⟨rfl, by decide, by decide, by decide⟩

theorem parted_nil : Parted [] := nofun

theorem parted_cons (h : c = ',' ∨ c = ']' ∨ c = '\x7d') : Parted (c :: s) := by
  rintro d u hs
  cases hs
  rcases h with rfl | rfl | rfl <;> exact ⟨rfl, by decide, by decide, by decide⟩

/-- A list goes on with a comma or ends with its bracket. -/
theorem Listed.parted {bracket : Char} {G : Phrase α} {xs : List α}
    (hbracket : bracket = ']' ∨ bracket = '\x7d') (h : Listed bracket G false s xs t) :
    Parted s := by
  cases h with
  | close h => exact h.parted (parted_cons (.inr hbracket))
  | cons hbefore =>
    cases hbefore with
    | comma hcomma => exact hcomma.parted (parted_cons (.inl rfl))

/-! ### The next thing -/

/-- The next thing in a list is looked for: whether there is one, of those that begin as `start`
says. -/
inductive Next (bracket : Char) (start : Char → Prop) (first : Bool) : Phrase Bool
  | more {s t : List Char} {c : Char} (h : Separator first s (c :: t)) (hc : start c) :
      Next bracket start first s true (c :: t)
  | close {s t : List Char} (h : Blanks s (bracket :: t)) :
      Next bracket start first s false (bracket :: t)

/-- What an item of an array begins with. -/
def BeginsItem (c : Char) : Prop := isSpace c = false ∧ c ≠ ']'

theorem reads_nextItem (first : Bool) :
    Reads Anything (nextItem first) (Next ']' BeginsItem first) Anything where
  sound {s t p q x} _ h := by
    rw [nextItem] at h
    obtain ⟨-, _, hpeek⟩ | ⟨c, u, hblanks, hc, _, hpeek⟩ := peekPastSpace_cases s p <;>
      rw [hpeek] at h
    · cases h
    by_cases hbracket : c = ']'
    · subst hbracket
      cases h
      exact .close hblanks
    simp only at h
    cases first with
    | true =>
      cases h
      exact .more (.first hblanks) ⟨hc, hbracket⟩
    | false =>
      by_cases hcomma : c = ','
      · subst hcomma
        simp only [Bool.false_eq_true, if_false, if_true, advance_bind_cons] at h
        obtain ⟨-, _, hpeek⟩ | ⟨c, v, hblanks', hc, _, hpeek⟩ := peekPastSpace_cases u _ <;>
          rw [hpeek] at h
        · cases h
        by_cases hbracket : c = ']'
        · subst hbracket
          cases h
        · simp only at h
          cases h
          exact .more (.comma hblanks hblanks') ⟨hc, hbracket⟩
      · simp only [Bool.false_eq_true, if_false, hcomma] at h
        cases h
  complete {s t x} h _ p := by
    cases h with
    | close h =>
      obtain ⟨q, hq⟩ := h.peek rfl p
      exact ⟨q, by rw [nextItem, hq]; rfl⟩
    | @more _ t c h hc =>
      obtain ⟨hspace, hbracket⟩ := hc
      cases h with
      | first h =>
        obtain ⟨q, hq⟩ := h.peek hspace p
        refine ⟨q, ?_⟩
        rw [nextItem, hq]
        simp only
        rfl
      | comma hcomma h =>
        obtain ⟨q, hq⟩ := hcomma.peek rfl p
        obtain ⟨r, hr⟩ := h.peek hspace (q.past ',')
        refine ⟨r, ?_⟩
        rw [nextItem, hq]
        change (advance >>= _) _ = _
        rw [advance_bind_cons, hr]
        simp only
        rfl

theorem reads_nextKey (first : Bool) :
    Reads Anything (nextKey first) (Next '\x7d' (· = '"') first) Anything where
  sound {s t p q x} _ h := by
    rw [nextKey] at h
    obtain ⟨-, _, hpeek⟩ | ⟨c, u, hblanks, hc, _, hpeek⟩ := peekPastSpace_cases s p <;>
      rw [hpeek] at h
    · cases h
    by_cases hbracket : c = '\x7d'
    · subst hbracket
      cases h
      exact .close hblanks
    simp only at h
    cases first with
    | true =>
      by_cases hquote : c = '"'
      · subst hquote
        cases h
        exact .more (.first hblanks) rfl
      · simp only [Bool.not_true, Bool.false_and, Bool.false_eq_true, if_false, if_true,
          pure_bind] at h
        cases h
    | false =>
      by_cases hcomma : c = ','
      · subst hcomma
        simp only [ne_eq, not_true_eq_false, decide_false, Bool.and_false, Bool.false_eq_true,
          if_false, advance_bind_cons] at h
        obtain ⟨-, _, hpeek⟩ | ⟨c, v, hblanks', hc, _, hpeek⟩ := peekPastSpace_cases u _ <;>
          rw [hpeek] at h
        · cases h
        by_cases hquote : c = '"'
        · subst hquote
          cases h
          exact .more (.comma hblanks hblanks') rfl
        by_cases hbracket : c = '\x7d'
        · subst hbracket
          cases h
        · simp only at h
          cases h
      · simp only [Bool.not_false, Bool.true_and, ne_eq, hcomma, not_false_eq_true, decide_true,
          if_true] at h
        cases h
  complete {s t x} h _ p := by
    cases h with
    | close h =>
      obtain ⟨q, hq⟩ := h.peek rfl p
      exact ⟨q, by rw [nextKey, hq]; rfl⟩
    | @more _ t c h hc =>
      subst hc
      cases h with
      | first h =>
        obtain ⟨q, hq⟩ := h.peek rfl p
        refine ⟨q, ?_⟩
        rw [nextKey, hq]
        rfl
      | comma hcomma h =>
        obtain ⟨q, hq⟩ := hcomma.peek rfl p
        obtain ⟨r, hr⟩ := h.peek rfl (q.past ',')
        refine ⟨r, ?_⟩
        rw [nextKey, hq]
        change (advance >>= _) _ = _
        rw [advance_bind_cons, hr]
        rfl

/-! ### Brackets and colons -/

theorem reads_colon : Reads Anything colon (fun s _ t => Blanks s (':' :: t)) Anything where
  sound {s t p q x} _ h := by
    rw [colon] at h
    obtain ⟨-, _, hpeek⟩ | ⟨c, u, hblanks, -, _, hpeek⟩ := peekPastSpace_cases s p <;>
      rw [hpeek] at h
    · cases h
    by_cases hcolon : c = ':'
    · subst hcolon
      cases h
      exact hblanks
    · simp only at h
      cases h
  complete {s t x} h _ p := by
    obtain ⟨q, hq⟩ := h.peek rfl p
    exact ⟨q.past ':', by rw [colon, hq]; rfl⟩

/-- The bracket that closes an array is ahead where the loop over the items stops. -/
theorem closeArray_cons (t : List Char) (p : Place) :
    ∃ q, closeArray ⟨']' :: t, p⟩ = .ok ((), ⟨t, q⟩) := ⟨_, rfl⟩

theorem closeObject_cons (t : List Char) (p : Place) :
    ∃ q, closeObject ⟨'\x7d' :: t, p⟩ = .ok ((), ⟨t, q⟩) := ⟨_, rfl⟩

/-! ### Lists -/

theorem roundBound_bind (f : Nat → Reading β) (c : Cursor) :
    (roundBound >>= f) c = f (c.rest.length + 1) c := rfl

/-- A loop over a list: a step looks for the next thing, and a step reads it. -/
structure IsLoop (next : Bool → Reading Bool) (item : Reading α)
    (loop : Nat → Bool → List α → Reading (List α)) : Prop where
  stuck (first : Bool) (acc : List α) (c : Cursor) (y : List α × Cursor) :
    loop 0 first acc c ≠ .ok y
  round (fuel : Nat) (first : Bool) (acc : List α) : loop (fuel + 1) first acc = do
    if ← next first then do
      let x ← item
      loop fuel false (x :: acc)
    else pure acc.reverse

section Loop

variable {bracket : Char} {start : Char → Prop} {after : List Char → Prop} {G : Phrase α}
  {next : Bool → Reading Bool} {item : Reading α}
  {loop : Nat → Bool → List α → Reading (List α)} {xs acc : List α}

/-- What a loop reads is a list, up to its bracket. -/
theorem IsLoop.sound (hloop : IsLoop next item loop)
    (hnext : ∀ first, Reads Anything (next first) (Next bracket start first) Anything)
    (hitem : Reads (BeginsWith start) item G after) {fuel : Nat}
    (h : loop fuel first acc ⟨s, p⟩ = .ok (xs, ⟨t, q⟩)) :
    ∃ ys u, xs = acc.reverse ++ ys ∧ t = bracket :: u ∧ Listed bracket G first s ys u := by
  induction fuel generalizing first acc s p with
  | zero => exact absurd h (hloop.stuck first acc _ _)
  | succ fuel ih =>
    rw [hloop.round] at h
    obtain ⟨more, u, r, hmore, h⟩ := bind_eq_ok.mp h
    cases (hnext first).sound trivial hmore with
    | close hbracket =>
      cases h
      exact ⟨[], _, (List.append_nil _).symm, rfl, .close hbracket⟩
    | more hbefore hstart =>
      obtain ⟨x, v, r', hx, h⟩ := bind_eq_ok.mp h
      obtain ⟨ys, w, rfl, rfl, hys⟩ := ih h
      refine ⟨x :: ys, w, by simp, rfl, .cons hbefore (hitem.sound ⟨_, _, rfl, hstart⟩ hx) hys⟩

/-- A list is read by as many rounds as there are things in it, and one more. -/
theorem IsLoop.complete (hloop : IsLoop next item loop)
    (hnext : ∀ first, Reads Anything (next first) (Next bracket start first) Anything)
    (hitem : Reads (BeginsWith start) item G after)
    (hstart : ∀ {s x t}, G s x t → BeginsWith start s)
    (hafter : ∀ {s xs t}, Listed bracket G false s xs t → after s)
    (h : Listed bracket G first s xs t) {fuel : Nat} (hfuel : xs.length < fuel) (p : Place) :
    ∃ q, loop fuel first acc ⟨s, p⟩ = .ok (acc.reverse ++ xs, ⟨bracket :: t, q⟩) := by
  induction h generalizing fuel acc p with
  | close h =>
    cases fuel with
    | zero => exact absurd hfuel (Nat.not_lt_zero _)
    | succ fuel =>
      obtain ⟨q, hq⟩ := (hnext _).complete (.close h) trivial p
      refine ⟨q, ?_⟩
      rw [hloop.round, bind_of_eq_ok hq, List.append_nil]
      rfl
  | @cons first x xs s s' u t hbefore hx h ih =>
    cases fuel with
    | zero => exact absurd hfuel (Nat.not_lt_zero _)
    | succ fuel =>
      obtain ⟨c, v, rfl, hc⟩ := hstart hx
      obtain ⟨q, hq⟩ := (hnext first).complete (.more hbefore hc) trivial p
      obtain ⟨r, hr⟩ := hitem.complete hx (hafter h) q
      obtain ⟨r', hr'⟩ := ih (Nat.lt_of_succ_lt_succ hfuel) r
      refine ⟨r', ?_⟩
      rw [hloop.round, bind_of_eq_ok hq, if_pos rfl, bind_of_eq_ok hr, hr', List.reverse_cons,
        List.append_assoc]
      rfl

/-- **A list** is read with the bracket that closes it. -/
theorem IsLoop.reads (hloop : IsLoop next item loop)
    (hnext : ∀ first, Reads Anything (next first) (Next bracket start first) Anything)
    (hitem : Reads (BeginsWith start) item G after)
    (hstart : ∀ {s x t}, G s x t → BeginsWith start s)
    (hafter : ∀ {s xs t}, Listed bracket G false s xs t → after s) (hshort : G.Shortens)
    {close : Reading Unit} (hclose : ∀ t p, ∃ q, close ⟨bracket :: t, p⟩ = .ok ((), ⟨t, q⟩))
    (make : List α → β) : Reads Anything (do
      let xs ← loop (← roundBound) true []
      close
      return make xs) (fun s y t => ∃ xs, Listed bracket G true s xs t ∧ make xs = y) Anything where
  sound {s t p q y} _ h := by
    rw [roundBound_bind] at h
    obtain ⟨xs, u, r, hxs, h⟩ := bind_eq_ok.mp h
    obtain ⟨_, v, rfl, rfl, hlist⟩ := hloop.sound hnext hitem hxs
    obtain ⟨r', hr'⟩ := hclose v r
    rw [bind_of_eq_ok hr'] at h
    cases h
    exact ⟨_, hlist, rfl⟩
  complete {s t y} h _ p := by
    obtain ⟨xs, hlist, rfl⟩ := h
    have hlength := hlist.length_add_lt hshort
    obtain ⟨q, hq⟩ : ∃ q, loop (s.length + 1) true [] ⟨s, p⟩ = .ok (xs, ⟨bracket :: t, q⟩) :=
      hloop.complete hnext hitem hstart hafter hlist (by omega) p
    obtain ⟨r, hr⟩ := hclose t q
    refine ⟨r, ?_⟩
    rw [roundBound_bind, bind_of_eq_ok hq, bind_of_eq_ok hr]
    rfl

end Loop

theorem isLoop_items (item : Reading α) : IsLoop nextItem item (items item) where
  stuck _ _ _ _ := nofun
  round _ _ _ := rfl

/-- Reads a key, a colon and a value. -/
def keyAndValue (value : Reading α) : Reading (String × α) := do
  let k ← key
  colon
  let v ← value
  pure (k, v)

theorem isLoop_fields (value : Reading α) : IsLoop nextKey (keyAndValue value) (fields value) where
  stuck _ _ _ _ := nofun
  round _ _ _ := by
    rw [fields]
    simp only [keyAndValue, bind_assoc, pure_bind]

theorem reads_key : Reads (BeginsWith (· = '"')) key
    (fun s k t => ∃ s', s = '"' :: s' ∧ Chars s' k.toList t) Anything where
  sound {s t p q x} hs h := by
    obtain ⟨_, s, rfl, rfl⟩ := hs
    rw [key, advance_bind_cons] at h
    exact ⟨s, rfl, reads_stringTail.sound trivial h⟩
  complete {s t x} h ht p := by
    obtain ⟨s, rfl, h⟩ := h
    exact reads_stringTail.complete h ht (p.past '"')

/-- A key, a colon and a value are read, if the quotation mark of the key is ahead. -/
theorem reads_keyAndValue {value : Reading α} {G : Phrase α}
    (hvalue : Reads Anything value (Spaced G) Parted) :
    Reads (BeginsWith (· = '"')) (keyAndValue value) (KeyAndValue G) Parted where
  sound {s t p q x} hs h := by
    obtain ⟨k, u, r, hkey, h⟩ := bind_eq_ok.mp h
    obtain ⟨_, u', r', hcolon, h⟩ := bind_eq_ok.mp h
    obtain ⟨v, w, r'', hv, h⟩ := bind_eq_ok.mp h
    cases h
    obtain ⟨s, rfl, hchars⟩ := reads_key.sound hs hkey
    exact .mk hchars (reads_colon.sound trivial hcolon) (hvalue.sound trivial hv)
  complete {s t x} h ht p := by
    obtain ⟨hkey, hcolon, hx⟩ := h
    obtain ⟨q, hq⟩ := reads_key.complete ⟨_, rfl, hkey⟩ trivial p
    obtain ⟨r, hr⟩ := reads_colon.complete (x := ()) hcolon trivial q
    obtain ⟨r', hr'⟩ := hvalue.complete hx ht r
    refine ⟨r', ?_⟩
    rw [keyAndValue, bind_of_eq_ok hq, bind_of_eq_ok hr, bind_of_eq_ok hr']
    rfl

/-! ### Values -/

theorem isSpace_of_isDigit (h : Text.isDigit c = true) : isSpace c = false := by
  by_contra hspace
  simp only [isSpace, Bool.not_eq_false, Bool.or_eq_true, decide_eq_true_eq] at hspace
  rcases hspace with ((rfl | rfl) | rfl) | rfl <;> cases h

/-- A number begins with a minus sign or a digit. -/
theorem Signed.head {d : Decimal} (h : Signed s d t) (hs : s = c :: u) :
    (decide (c = '-') || Text.isDigit c) = true := by
  cases h with
  | minus =>
    cases hs
    rfl
  | plain h =>
    obtain ⟨_, _, rfl, hc⟩ := h.exists_cons
    cases hs
    rw [hc, Bool.or_true]

/-- What a value begins with is neither a blank nor a bracket that closes. -/
theorem ValueOf.beginsItem {inner : Option (Phrase Value)} {v : Value} (h : ValueOf inner s v t) :
    BeginsWith BeginsItem s := by
  cases h with
  | null | true | false | string | array | object => exact ⟨_, _, rfl, by decide, by decide⟩
  | number hd =>
    cases hd with
    | minus => exact ⟨_, _, rfl, by decide, by decide⟩
    | plain hd =>
      obtain ⟨c, u, rfl, hc⟩ := hd.exists_cons
      refine ⟨c, u, rfl, isSpace_of_isDigit hc, ?_⟩
      rintro rfl
      cases hc

/-- Where no blank is ahead, blanks before a thing make no difference. -/
theorem Reads.unspaced {r : Reading α} {G : Phrase α} {after : List Char → Prop}
    (h : Reads Anything r (Spaced G) after) : Reads (BeginsWith BeginsItem) r G after where
  sound {s t p q x} hs hr := by
    obtain ⟨c, u, rfl, hc, -⟩ := hs
    obtain ⟨s', hblanks, hx⟩ := h.sound trivial hr
    cases hblanks with
    | nil => exact hx
    | cons hspace => cases hspace.symm.trans hc
  complete hx ht p := h.complete ⟨_, .nil, hx⟩ ht p

/-- How items and fields are read agrees with what they are. -/
inductive Agree : Option (Reading Value) → Option (Phrase Value) → Prop
  | none : Agree none none
  | some {item : Reading Value} {G : Phrase Value} (hitem : Reads Anything item (Spaced G) Parted)
      (hshort : G.Shortens) (hbegins : ∀ {s v t}, G s v t → BeginsWith BeginsItem s) :
      Agree (some item) (some G)

/-- The letters of a word are read for what the word stands for. -/
theorem reads_literal (cs : List Char) (v : α) : Reads Anything (do
      word cs
      pure v) (fun s x t => s = cs ++ t ∧ v = x) Anything where
  sound {s t p q x} _ h := by
    obtain ⟨_, u, r, hword, h⟩ := bind_eq_ok.mp h
    cases h
    exact ⟨(reads_word cs).sound trivial hword, rfl⟩
  complete {s t x} h _ p := by
    obtain ⟨h, rfl⟩ := h
    obtain ⟨q, hq⟩ := (reads_word cs).complete (x := ()) h trivial p
    exact ⟨q, by rw [bind_of_eq_ok hq]; rfl⟩

section Brackets

variable {item : Reading Value} {G : Phrase Value}
  (hitem : Reads Anything item (Spaced G) Parted) (hshort : G.Shortens)
  (hbegins : ∀ {s v t}, G s v t → BeginsWith BeginsItem s)

include hitem hshort hbegins in
theorem reads_array : Reads Anything (do
      let xs ← items item (← roundBound) true []
      closeArray
      return Value.array xs) (fun s v t => ∃ xs, Listed ']' G true s xs t ∧ .array xs = v)
      Anything :=
  (isLoop_items item).reads reads_nextItem hitem.unspaced hbegins (·.parted (.inl rfl)) hshort
    closeArray_cons Value.array

include hitem hshort in
theorem reads_object : Reads Anything (do
      let fs ← fields item (← roundBound) true []
      closeObject
      return Value.object (Value.sortFields fs)) (fun s v t => ∃ fs,
        Listed '\x7d' (KeyAndValue G) true s fs t ∧ .object (Value.sortFields fs) = v) Anything :=
  (isLoop_fields item).reads reads_nextKey (reads_keyAndValue hitem)
    (fun h => by obtain ⟨-, -, -⟩ := h; exact ⟨_, _, rfl, rfl⟩)
    (·.parted (.inr rfl)) (shortens_keyAndValue hshort) closeObject_cons
    fun fs => Value.object (Value.sortFields fs)

end Brackets

/-- What is read as a value is one. -/
theorem valueOf_of_valueWith {inner : Option (Reading Value)} {G : Option (Phrase Value)}
    (hinner : Agree inner G) {x : Value} (h : valueWith inner ⟨s, p⟩ = .ok (x, ⟨t, q⟩)) :
    Spaced (ValueOf G) s x t := by
  unfold valueWith at h
  obtain ⟨-, _, hpeek⟩ | ⟨c, u, hblanks, hc, _, hpeek⟩ := peekPastSpace_cases s p <;>
    rw [hpeek] at h
  · cases h
  refine ⟨c :: u, hblanks, ?_⟩
  obtain ⟨r, hr, h'⟩ := exists_step h
  clear h
  split at hr
  · cases ‹some c = none›
  · -- `null`
    cases ‹some c = some 'n'›
    subst hr
    obtain ⟨rfl, rfl⟩ := (reads_literal _ _).sound trivial h'
    exact .null
  · -- `true`
    cases ‹some c = some 't'›
    subst hr
    obtain ⟨rfl, rfl⟩ := (reads_literal _ _).sound trivial h'
    exact .true
  · -- `false`
    cases ‹some c = some 'f'›
    subst hr
    obtain ⟨rfl, rfl⟩ := (reads_literal _ _).sound trivial h'
    exact .false
  · -- a string
    cases ‹some c = some '"'›
    subst hr
    rw [advance_bind_cons] at h'
    obtain ⟨y, v, r, hy, h'⟩ := bind_eq_ok.mp h'
    cases h'
    exact .string (reads_stringTail.sound trivial hy)
  · -- an array
    cases ‹some c = some '['›
    cases hinner with
    | none =>
      subst hr
      cases h'
    | some hitem hshort hbegins =>
      subst hr
      simp only [advance_bind_cons] at h'
      obtain ⟨xs, hlist, rfl⟩ := (reads_array hitem hshort hbegins).sound trivial h'
      exact .array rfl hlist
  · -- an object
    cases ‹some c = some '\x7b'›
    cases hinner with
    | none =>
      subst hr
      cases h'
    | some hitem hshort hbegins =>
      subst hr
      simp only [advance_bind_cons] at h'
      obtain ⟨xs, hlist, rfl⟩ := (reads_object hitem hshort).sound trivial h'
      exact .object rfl hlist
  · -- a number
    subst hr
    split at h'
    · obtain ⟨n, v, r, hn, h'⟩ := bind_eq_ok.mp h'
      cases h'
      obtain ⟨d, hd, hn⟩ := reads_number.sound trivial hn
      cases ‹some c = some _›
      exact .number hd hn
    · cases h'

/-- What is a value is read, whatever it begins with. -/
theorem valueWith_of_valueOf {inner : Option (Reading Value)} {G : Option (Phrase Value)}
    (hinner : Agree inner G) {x : Value} (h : Spaced (ValueOf G) s x t) (ht : Parted t)
    (p : Place) : ∃ q, valueWith inner ⟨s, p⟩ = .ok (x, ⟨t, q⟩) := by
  obtain ⟨s', hblanks, h⟩ := h
  obtain ⟨c, u, rfl, hc, -⟩ := h.beginsItem
  obtain ⟨q, hq⟩ := hblanks.peek hc p
  unfold valueWith
  rw [hq]
  cases h with
  | null =>
    exact (reads_literal ['u', 'l', 'l'] Value.null).complete ⟨rfl, rfl⟩ trivial (q.past 'n')
  | true =>
    exact (reads_literal ['r', 'u', 'e'] (Value.bool true)).complete ⟨rfl, rfl⟩ trivial (q.past 't')
  | false =>
    exact (reads_literal ['a', 'l', 's', 'e'] (Value.bool false)).complete ⟨rfl, rfl⟩ trivial
      (q.past 'f')
  | string h =>
    obtain ⟨r, hr⟩ := reads_stringTail.complete h trivial (q.past '"')
    refine ⟨r, ?_⟩
    change (advance >>= _) _ = _
    rw [advance_bind_cons, bind_of_eq_ok hr]
    rfl
  | array hG h =>
    cases hinner with
    | none => cases hG
    | some hitem hshort hbegins =>
      cases hG
      exact (reads_array hitem hshort hbegins).complete ⟨_, h, rfl⟩ trivial (q.past '[')
  | object hG h =>
    cases hinner with
    | none => cases hG
    | some hitem hshort hbegins =>
      cases hG
      exact (reads_object hitem hshort).complete ⟨_, h, rfl⟩ trivial (q.past '\x7b')
  | number hd hx =>
    have hhead := hd.head rfl
    have hn : c ≠ 'n' := by rintro rfl; cases hhead
    have ht' : c ≠ 't' := by rintro rfl; cases hhead
    have hf : c ≠ 'f' := by rintro rfl; cases hhead
    have hquote : c ≠ '"' := by rintro rfl; cases hhead
    have hbracket : c ≠ '[' := by rintro rfl; cases hhead
    have hbrace : c ≠ '\x7b' := by rintro rfl; cases hhead
    obtain ⟨r, hr⟩ := reads_number.complete ⟨_, hd, hx⟩ ht q
    refine ⟨r, ?_⟩
    simp only
    rw [if_pos hhead, bind_of_eq_ok hr]
    rfl

/-- **A value is read** with the blanks before it. -/
theorem reads_valueWith {inner : Option (Reading Value)} {G : Option (Phrase Value)}
    (hinner : Agree inner G) : Reads Anything (valueWith inner) (Spaced (ValueOf G)) Parted where
  sound _ h := valueOf_of_valueWith hinner h
  complete h ht p := valueWith_of_valueOf hinner h ht p

/-- **A value is read** that is nested no deeper than there is room. -/
theorem reads_value (room : Nat) : Reads Anything (value room) (Spaced (Nested room)) Parted := by
  induction room with
  | zero => exact reads_valueWith .none
  | succ room ih => exact reads_valueWith (.some ih (shortens_nested room) ValueOf.beginsItem)

/-! ### Texts -/

/-- Only the value counts of what a reader gives back. -/
theorem map_fst_eq_ok {y : Except ReadError (α × Cursor)} {x : α} :
    (y >>= fun v => pure v.1) = .ok x ↔ ∃ d, y = .ok (x, d) := by
  cases y with
  | error e =>
    constructor
    · intro h
      cases h
    · rintro ⟨d, h⟩
      cases h
  | ok v =>
    obtain ⟨y, d⟩ := v
    constructor
    · intro h
      cases h
      exact ⟨d, rfl⟩
    · rintro ⟨d', h⟩
      cases h
      rfl

/-- One thing and nothing after it but blanks. -/
theorem whole_eq_ok {read : Reading α} {G : Phrase α} (hread : Reads Anything read G Parted)
    {text : String} {x : α} :
    whole read text = .ok x ↔ ∃ t, G text.toList x t ∧ Blanks t [] := by
  constructor
  · intro h
    obtain ⟨d, h⟩ := map_fst_eq_ok.mp h
    obtain ⟨y, s, p, hy, h⟩ := bind_eq_ok.mp h
    obtain ⟨hblanks, _, hpeek⟩ | ⟨c, u, -, -, _, hpeek⟩ := peekPastSpace_cases s p <;>
      rw [hpeek] at h
    · cases h
      exact ⟨s, hread.sound trivial hy, hblanks⟩
    · cases h
  · rintro ⟨t, hx, ht⟩
    obtain ⟨q, hq⟩ := hread.complete hx (ht.parted parted_nil) .start
    obtain ⟨r, hr⟩ := ht.peek_nil q
    refine map_fst_eq_ok.mpr ⟨⟨[], r⟩, ?_⟩
    rw [Cursor.ofString, bind_of_eq_ok hq, hr]
    rfl

/-- **Whatever room there is, what is read is JSON text that is nested no deeper**, and all such text
is read, for the value that the grammar gives it. -/
theorem whole_value_eq_ok {room : Nat} {text : String} {v : Value} :
    whole (value room) text = .ok v ↔ IsText room text v :=
  whole_eq_ok (reads_value room)

/-- **What is read is JSON text** of at most 127 levels, and all of that is read. -/
theorem parse_eq_ok {text : String} {v : Value} : parse text = .ok v ↔ IsText maxDepth text v :=
  whole_value_eq_ok

end Parley.Json
