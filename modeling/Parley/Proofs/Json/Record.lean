import Parley.Proofs.Json.Skip

/-!
# What decoders read

A decoder reads a text without making a value of it first, and stops at the first thing that it has no
use for. What it reads is nevertheless told by the tree of the text (`Parley.Json.Decodes`): a text is
read as a thing exactly if it has a tree that tells this thing (`Parley.Json.Decodes.decode_eq_ok`). So
it is with strings and whole numbers, with what is written in a string, with what may be null, with
lists and with any value.

It is so with records if it is so with their fields (`Parley.Json.Sense.decodes`). A record gathers its
fields in a draft, in the order in which they come, and what each of them does to the draft is told by
its tree (`Parley.Json.Sense`). An object may give fields that the record does not have; they are
stepped over, and what is stepped over has a tree as well (`Parley.Json.reads_skipValue`).
-/

namespace Parley.Json

open Numeral Reading

variable {α β : Type} {s t u : List Char} {p q : Place} {c : Char}

/-- **A decoder reads what trees tell**, given how many more levels of nesting there may be. -/
def Decodes (r : Decoder α) (m : Nat → Tree → Option α) : Prop :=
  ∀ room, Reads Anything (r room) (Spaced (Told Written (m room))) Parted

theorem Decodes.congr {r : Decoder α} {m m' : Nat → Tree → Option α} (h : Decodes r m)
    (hm : ∀ room d, m room d = m' room d) : Decodes r m' := by
  rwa [← show m = m' from funext₂ hm]

/-- **A text is read as one thing** exactly if its tree tells it. -/
theorem Decodes.decode_eq_ok {r : Decoder α} {m : Nat → Tree → Option α} (h : Decodes r m)
    {text : String} {x : α} :
    decode r text = .ok x ↔ ∃ d, IsWritten text d ∧ m maxDepth d = some x := by
  rw [decode, whole_eq_ok (h maxDepth)]
  constructor
  · rintro ⟨t, hx, ht⟩
    obtain ⟨d, hd, hx⟩ := spaced_told.mp hx
    exact ⟨d, ⟨t, hd, ht⟩, hx⟩
  · rintro ⟨d, ⟨t, hd, ht⟩, hx⟩
    exact ⟨t, spaced_told.mpr ⟨d, hd, hx⟩, ht⟩

/-- **What comes of a text** is what its tree tells. -/
theorem Decodes.toOption_decode {r : Decoder α} {m : Nat → Tree → Option α} (h : Decodes r m)
    {text : String} {d : Tree} (hd : IsWritten text d) : (decode r text).toOption = m maxDepth d := by
  refine Option.ext fun x => Iff.trans ?_ (h.decode_eq_ok.trans ⟨?_, fun hx => ⟨d, hd, hx⟩⟩)
  · cases decode r text <;> simp [Except.toOption]
  · rintro ⟨d', hd', hx⟩
    rwa [hd.unique hd']

/-! ### What is refused -/

/-- What is refused is not read. -/
theorem refuseType_ne_ok {expected : String} (d : Cursor) (y : α × Cursor) :
    (refuseType expected : Reading α) d ≠ .ok y := by
  intro h
  obtain ⟨x, e⟩ := y
  obtain ⟨o, s, p, -, h⟩ := bind_eq_ok.mp h
  obtain ⟨_, hr, h⟩ := exists_step h
  split at hr <;> subst hr
  · obtain ⟨_, _, _, -, h⟩ := bind_eq_ok.mp h
    obtain ⟨_, _, _, -, h⟩ := bind_eq_ok.mp h
    cases h
  · obtain ⟨_, _, _, -, h⟩ := bind_eq_ok.mp h
    obtain ⟨_, _, _, -, h⟩ := bind_eq_ok.mp h
    cases h
  · obtain ⟨_, _, _, -, h⟩ := bind_eq_ok.mp h
    obtain ⟨_, _, _, -, h⟩ := bind_eq_ok.mp h
    cases h
  · obtain ⟨_, _, _, -, h⟩ := bind_eq_ok.mp h
    obtain ⟨_, _, _, -, h⟩ := bind_eq_ok.mp h
    cases h
  · cases h
  · cases h
  · split at h
    · obtain ⟨_, _, _, -, h⟩ := bind_eq_ok.mp h
      cases h
    · cases h
  · cases h

/-- What is looked at where something has to be ahead. -/
theorem somethingAhead_cases (f : Option Char → Reading β) (s : List Char) (p : Place) :
    (∃ e, (somethingAhead >>= fun _ => peek >>= f) ⟨s, p⟩ = .error e) ∨
    ∃ c t q, Blanks s (c :: t) ∧ isSpace c = false ∧
      (somethingAhead >>= fun _ => peek >>= f) ⟨s, p⟩ = f (some c) ⟨c :: t, q⟩ := by
  rw [somethingAhead, bind_assoc]
  obtain ⟨-, q, hpeek⟩ | ⟨c, t, hblanks, hc, q, hpeek⟩ := peekPastSpace_cases (β := β) s p <;>
    rw [hpeek]
  · exact .inl ⟨_, rfl⟩
  · exact .inr ⟨c, t, q, hblanks, hc, rfl⟩

/-- What is behind the blanks is looked at. -/
theorem Blanks.ahead (h : Blanks s (c :: t)) (hc : isSpace c = false) (p : Place) :
    ∃ q, ∀ {β : Type} (f : Option Char → Reading β),
      (somethingAhead >>= fun _ => Reading.peek >>= f) ⟨s, p⟩ = f (some c) ⟨c :: t, q⟩ := by
  obtain ⟨q, hq⟩ := h.peek hc p
  refine ⟨q, fun f => ?_⟩
  rw [somethingAhead, bind_assoc, hq]
  rfl

/-! ### Texts and numbers -/

namespace Tree

/-- The text that a tree tells. -/
def text? : Tree → Option String
  | string ls => spelling? ls
  | _ => none

/-- The whole number of a range that a tree tells. -/
def whole? (range : Range) : Tree → Option Int
  | number d => d.number?.bind fun
    | .integer i => if range.holds i then some i else none
    | .real _ => none
  | _ => none

/-- What a tree tells unless it is null. -/
def optional? (m : Nat → Tree → Option α) (room : Nat) : Tree → Option (Option α)
  | null => some none
  | d => (m room d).map some

/-- What the items of a tree tell. -/
def items? (m : Nat → Tree → Option α) : Nat → Tree → Option (List α)
  | room + 1, array ts => ts.mapM (m room)
  | _, _ => none

theorem optional?_of_ne_null {m : Nat → Tree → Option α} {room : Nat} {d : Tree} (h : d ≠ null) :
    optional? m room d = (m room d).map some := by
  cases d with
  | null => exact absurd rfl h
  | bool | number | string | array | object => rfl

theorem value?_eq (room : Nat) : ∃ inner, value? room = valueOf? inner := by
  cases room with
  | zero => exact ⟨none, rfl⟩
  | succ room => exact ⟨some (value? room), rfl⟩

/-- A tree that has a value tells the text that this is. -/
theorem text?_of_value? {room : Nat} {d : Tree} {v : Value} (h : d.value? room = some v) :
    d.text? = v.text? := by
  obtain ⟨inner, hinner⟩ := value?_eq room
  rw [hinner] at h
  cases d with
  | null | bool =>
    cases h
    rfl
  | number | array | object =>
    simp only [valueOf?, Option.map_eq_some_iff, Option.bind_eq_some_iff] at h
    grind [text?, Value.text?]
  | string ls =>
    obtain ⟨x, hx, rfl⟩ := Option.map_eq_some_iff.mp h
    exact hx

/-- A tree that has a value is null if this is. -/
theorem value?_eq_null {room : Nat} {d : Tree} : d.value? room = some .null ↔ d = null := by
  obtain ⟨inner, hinner⟩ := value?_eq room
  rw [hinner]
  constructor
  · intro h
    cases d with
    | null => rfl
    | bool => cases h
    | number | string | array | object =>
      simp [valueOf?, Option.map_eq_some_iff, Option.bind_eq_some_iff] at h
  · rintro rfl
    rfl

end Tree

/-- **Strings** are read. -/
theorem decodes_stringAs (expected : String) :
    Decodes (fun _ => stringAs expected) fun _ => Tree.text? := by
  refine fun room => ⟨fun {s t p q x} _ h => ?_, fun {s t x} h ht p => ?_⟩
  · obtain ⟨e, herror⟩ | ⟨c, u, r, hblanks, -, hpeek⟩ := somethingAhead_cases (β := String) _ s p
    · cases h.symm.trans herror
    replace h := hpeek.symm.trans h
    obtain ⟨_, hr, h⟩ := exists_step h
    split at hr <;> subst hr
    · cases ‹some c = some '"'›
      rw [advance_bind_cons] at h
      obtain ⟨ls, hls, hx⟩ := chars_toList_iff.mp (reads_stringTail.sound trivial h)
      exact ⟨_, hblanks, .string ls, written_iff.mpr (.string hls), hx⟩
    · exact absurd h (refuseType_ne_ok _ _)
  · obtain ⟨s', hblanks, d, hd, hx⟩ := h
    cases d with
    | string ls =>
      cases written_iff.mp hd with
      | string hls =>
        obtain ⟨q, hq⟩ := hblanks.ahead rfl p
        obtain ⟨r, hr⟩ := reads_stringTail.complete (chars_toList_iff.mpr ⟨_, hls, hx⟩) trivial
          (q.past '"')
        exact ⟨r, (hq _).trans hr⟩
    | null | bool | number | array | object => cases hx

theorem decodes_text : Decodes text fun _ => Tree.text? := decodes_stringAs _

/-- **Whole numbers** of a range are read. -/
theorem decodes_wholeIn (range : Range) (expected : String) :
    Decodes (wholeIn range expected) fun _ => Tree.whole? range := by
  refine fun room => ⟨fun {s t p q x} _ h => ?_, fun {s t x} h ht p => ?_⟩
  · obtain ⟨e, herror⟩ | ⟨c, u, r, hblanks, -, hpeek⟩ := somethingAhead_cases (β := Int) _ s p
    · cases h.symm.trans herror
    replace h := hpeek.symm.trans h
    simp only at h
    split at h
    · obtain ⟨n, v, r, hnumber, h⟩ := bind_eq_ok.mp h
      obtain ⟨d, hd, hn⟩ := reads_number.sound trivial hnumber
      cases n with
      | real y => cases h
      | integer i =>
        simp only at h
        split at h
        · rename_i hrange
          cases h
          refine ⟨_, hblanks, .number d, written_iff.mpr (.number hd), ?_⟩
          simp only [Tree.whole?, hn, Option.bind_some, hrange, if_true]
        · cases h
    · exact absurd h (refuseType_ne_ok _ _)
  · obtain ⟨s', hblanks, d, hd, hx⟩ := h
    cases d with
    | number d =>
      cases written_iff.mp hd with
      | number hd =>
        obtain ⟨n, hn, hx⟩ := Option.bind_eq_some_iff.mp hx
        cases n with
        | real y => cases hx
        | integer i =>
          obtain ⟨hrange, hx⟩ := Option.ite_none_right_eq_some.mp hx
          cases hx
          obtain ⟨c, u, rfl, hc⟩ := hd.begins
          have hspace := (written_iff.mpr (.number hd)).begins
          obtain ⟨_, _, hs, hspace, -⟩ := hspace
          cases hs
          obtain ⟨q, hq⟩ := hblanks.ahead hspace p
          obtain ⟨r, hr⟩ := reads_number.complete ⟨d, hd, hn⟩ ht q
          refine ⟨r, (hq _).trans ?_⟩
          simp only
          rw [if_pos (by simpa using hc), bind_of_eq_ok hr]
          simp only
          rw [if_pos hrange]
          rfl
    | null | bool | string | array | object => cases hx

theorem decodes_int64 : Decodes int64 fun _ => Tree.whole? .int64 := decodes_wholeIn _ _

/-- What is read may be made into something else. -/
theorem Reads.map {ahead after : List Char → Prop} {r : Reading α} {G : Phrase α} (f : α → β)
    (h : Reads ahead r G after) :
    Reads ahead (do return f (← r)) (fun s y t => ∃ x, G s x t ∧ f x = y) after where
  sound hs hy := by
    obtain ⟨x, u, _, hx, hy⟩ := bind_eq_ok.mp hy
    cases hy
    exact ⟨x, h.sound hs hx, rfl⟩
  complete hy ht p := by
    obtain ⟨x, hx, rfl⟩ := hy
    obtain ⟨q, hq⟩ := h.complete hx ht p
    exact ⟨q, by rw [bind_of_eq_ok hq]; rfl⟩

/-- Steps that read the same phrase may be described by either. -/
theorem Reads.congr {ahead after : List Char → Prop} {r : Reading α} {G G' : Phrase α}
    (h : Reads ahead r G after) (hG : ∀ ⦃s x t⦄, G s x t ↔ G' s x t) : Reads ahead r G' after where
  sound hs hx := hG.mp (h.sound hs hx)
  complete hx := h.complete (hG.mpr hx)

/-- A string is read for what is written in it. -/
theorem decodes_writtenAs (expected : String) (read : String → Except String α) :
    Decodes (writtenAs expected read) fun _ d => d.text?.bind fun x => (read x).toOption := by
  refine fun room => ⟨fun {s t p q x} _ h => ?_, fun {s t x} h ht p => ?_⟩
  · obtain ⟨y, u, _, hstring, h⟩ := bind_eq_ok.mp h
    obtain ⟨s', hblanks, d, hd, hy⟩ := (decodes_stringAs expected room).sound trivial hstring
    cases hread : read y with
    | error e =>
      rw [hread] at h
      cases h
    | ok z =>
      rw [hread] at h
      cases h
      refine ⟨s', hblanks, d, hd, ?_⟩
      simp only [hy, Option.bind_some, hread]
      rfl
  · obtain ⟨s', hblanks, d, hd, hx⟩ := h
    obtain ⟨y, hy, hx⟩ := Option.bind_eq_some_iff.mp hx
    obtain ⟨q, hq⟩ := (decodes_stringAs expected room).complete ⟨s', hblanks, d, hd, hy⟩ ht p
    refine ⟨q, ?_⟩
    rw [writtenAs, bind_of_eq_ok hq]
    cases hread : read y with
    | error e =>
      rw [hread] at hx
      cases hx
    | ok z =>
      rw [hread] at hx
      cases hx
      rfl

/-- A value is read as such. -/
theorem decodes_anyValue : Decodes anyValue Tree.value? := fun room =>
  (reads_value room).congr fun _ _ _ =>
    exists_congr fun _ => and_congr_right fun _ => nested_iff room

/-- What is read is made into something else, as into a draft in which it is put. -/
theorem Decodes.reads_put {r : Decoder α} {m : Nat → Tree → Option α} (h : Decodes r m) (room : Nat)
    (f : α → σ) : Reads Anything (do return f (← r room))
      (Spaced (Told Written fun d => (m room d).map f)) Parted :=
  (Reads.map f (h room)).congr fun s y t => by
    constructor
    · rintro ⟨x, ⟨s', hblanks, d, hd, hx⟩, rfl⟩
      exact ⟨s', hblanks, d, hd, by simp only [hx, Option.map_some]⟩
    · rintro ⟨s', hblanks, d, hd, hy⟩
      obtain ⟨x, hx, hy⟩ := Option.map_eq_some_iff.mp hy
      exact ⟨x, ⟨s', hblanks, d, hd, hx⟩, hy⟩

theorem decodes_word32 : Decodes word32 fun _ d => (d.whole? .word32).map Int.toNat := fun room =>
  (decodes_wholeIn .word32 "u32").reads_put room Int.toNat

theorem told_begins {f : Tree → Option α} {x : α} (h : Told Written f s x t) :
    BeginsWith BeginsItem s := by
  obtain ⟨d, hd, -⟩ := h
  exact hd.begins

theorem shortens_told {f : Tree → Option α} : Phrase.Shortens (Told Written f) := by
  rintro s x t ⟨d, hd, -⟩
  exact shortens_written hd

section Parts

variable {r : Decoder α} {m : Nat → Tree → Option α} (hr : Decodes r m)

include hr

/-- What does not begin as a null is read as what it is. -/
theorem sound_some {room : Nat} {x : Option α} (hs : ∀ v, ¬ Blanks s ('n' :: v))
    (h : (do return some (← r room) : Reading (Option α)) ⟨s, p⟩ = .ok (x, ⟨t, q⟩)) :
    Spaced (Told Written (Tree.optional? m room)) s x t := by
  obtain ⟨y, _, _, hy, h⟩ := bind_eq_ok.mp h
  cases h
  obtain ⟨u, hblanks, d, hd, hy⟩ := (hr room).sound trivial hy
  refine ⟨u, hblanks, d, hd, ?_⟩
  rw [Tree.optional?_of_ne_null, hy]
  · rfl
  · rintro rfl
    cases written_iff.mp hd
    exact hs _ hblanks

/-- **What may be null** is read as nothing or as what it is. -/
theorem decodes_optional : Decodes (optional r) (Tree.optional? m) := by
  refine fun room => ⟨fun {s t p q x} _ h => ?_, fun {s t x} h ht p => ?_⟩
  · unfold optional at h
    obtain ⟨hblanks, r', hpeek⟩ | ⟨c, u, hblanks, hc, r', hpeek⟩ :=
      peekPastSpace_cases (β := Option α) s p <;> rw [hpeek] at h
    · have hend : ∀ v, ¬ Blanks [] ('n' :: v) := by
        rintro v hv
        cases hv
      obtain ⟨u, hu, hx⟩ := sound_some hr hend h
      exact ⟨u, hblanks.trans hu, hx⟩
    obtain ⟨_, hr', h⟩ := exists_step h
    split at hr' <;> subst hr'
    · cases ‹some c = some 'n'›
      obtain ⟨rfl, rfl⟩ := (reads_literal ['u', 'l', 'l'] none).sound trivial h
      exact ⟨_, hblanks, .null, written_iff.mpr .null, rfl⟩
    · rename_i hne
      obtain ⟨v, hv, hx⟩ := sound_some hr
        (fun v hv => hne (congrArg some (Blanks.nil.unique hc hv rfl).1)) h
      exact ⟨v, hblanks.trans hv, hx⟩
  · obtain ⟨s', hblanks, d, hd, hx⟩ := h
    obtain ⟨c, u, rfl, hc, -⟩ := hd.begins
    obtain ⟨q, hq⟩ := hblanks.peek hc p
    unfold optional
    rw [hq]
    -- nothing but null begins with this character, so one look at it is enough
    by_cases hnull : c = 'n'
    · subst hnull
      cases written_iff.mp hd with
      | null =>
        cases hx
        exact (reads_literal ['u', 'l', 'l'] none).complete ⟨rfl, rfl⟩ trivial (q.past 'n')
      | number hd =>
        obtain ⟨_, _, hs, hc⟩ := hd.begins
        cases hs
        rcases hc with hc | hc <;> cases hc
    · have hne : d ≠ .null := by
        rintro rfl
        cases written_iff.mp hd
        exact hnull rfl
      rw [Tree.optional?_of_ne_null hne] at hx
      obtain ⟨y, hy, rfl⟩ := Option.map_eq_some_iff.mp hx
      obtain ⟨r', hr'⟩ := (hr room).complete ⟨_, .nil, d, hd, hy⟩ ht q
      refine ⟨r', ?_⟩
      simp only [Option.some.injEq, hnull, imp_self]
      rw [bind_of_eq_ok hr']
      rfl

/-- The items of an array are read with the bracket that closes it. -/
theorem reads_items (room : Nat) : Reads Anything (do
      let xs ← items (r room) (← roundBound) true []
      closeArray
      return xs) (Told (Listed ']' Written true) (List.mapM (m room))) Anything :=
  ((isLoop_items (r room)).reads reads_nextItem (hr room).unspaced told_begins
    (·.parted (.inl rfl)) shortens_told closeArray_cons id).congr fun s xs t => by
      rw [← listed_told]
      exact ⟨fun ⟨_, h, hxs⟩ => hxs ▸ h, fun h => ⟨_, h, rfl⟩⟩

/-- **A list** is read as what its items are. -/
theorem decodes_listOf : Decodes (listOf r) (Tree.items? m) := by
  refine fun room => ⟨fun {s t p q x} _ h => ?_, fun {s t x} h ht p => ?_⟩
  · obtain ⟨e, herror⟩ | ⟨c, u, r', hblanks, -, hpeek⟩ := somethingAhead_cases (β := List α) _ s p
    · cases h.symm.trans herror
    replace h := hpeek.symm.trans h
    obtain ⟨_, hr', h⟩ := exists_step h
    split at hr' <;> subst hr'
    · cases ‹some c = some '['›
      cases room with
      | zero => cases h
      | succ room =>
        simp only [advance_bind_cons] at h
        obtain ⟨ts, hts, hxs⟩ := (reads_items hr room).sound trivial h
        exact ⟨_, hblanks, .array ts, written_iff.mpr (.array hts), hxs⟩
    · exact absurd h (refuseType_ne_ok _ _)
  · obtain ⟨s', hblanks, d, hd, hx⟩ := h
    cases d with
    | array ts =>
      cases room with
      | zero => cases hx
      | succ room =>
        cases written_iff.mp hd with
        | array hts =>
          obtain ⟨q, hq⟩ := hblanks.ahead rfl p
          obtain ⟨r', hr'⟩ := (reads_items hr room).complete ⟨ts, hts, hx⟩ trivial (q.past '[')
          exact ⟨r', (hq _).trans hr'⟩
    | null | bool | number | string | object => cases room <;> cases hx

end Parts

theorem reads_closeArray :
    Reads Anything closeArray (fun s _ t => Blanks s (']' :: t)) Anything where
  sound {s t p q x} _ h := by
    rw [closeArray] at h
    obtain ⟨-, _, hpeek⟩ | ⟨c, u, hblanks, -, _, hpeek⟩ := peekPastSpace_cases s p <;>
      rw [hpeek] at h
    · cases h
    obtain ⟨_, hr, h⟩ := exists_step h
    split at hr <;> subst hr
    · cases ‹some c = some ']'›
      cases h
      exact hblanks
    · cases ‹some c = some ','›
      rw [advance_bind_cons] at h
      obtain ⟨_, _, _, -, h⟩ := bind_eq_ok.mp h
      split at h <;> cases h
    · cases h
    · cases ‹some c = none›
  complete {s t x} h _ p := by
    obtain ⟨q, hq⟩ := h.peek rfl p
    exact ⟨q.past ']', by rw [closeArray, hq]; rfl⟩

/-! ### Records -/

/-- **What the fields of a record tell**: a field that is given is put into the draft, unless it is
refused. -/
structure Sense {σ : Type} (layout : Layout σ α) where
  put? : Nat → String → Tree → σ → Option σ
  reads (room : Nat) (draft : σ) (field : Field σ) (h : field ∈ layout.fields) :
    Reads Anything (field.read room draft)
      (Spaced (Told Written fun d => put? room field.name d draft)) Parted

namespace Layout

variable {σ : Type} (layout : Layout σ α)

/-- The keys of a record. -/
def names : List String := layout.fields.map (·.name)

theorem find?_eq_none {key : String} :
    layout.fields.find? (·.name == key) = none ↔ key ∉ layout.names := by
  simp [names]

theorem mem_of_find?_eq_some {key : String} {field : Field σ}
    (h : layout.fields.find? (·.name == key) = some field) :
    field ∈ layout.fields ∧ field.name = key :=
  ⟨List.mem_of_find?_eq_some h, by simpa using List.find?_some h⟩

end Layout

namespace Sense

variable {σ : Type} {layout : Layout σ α} (sense : Sense layout)

/-- What is read of the fields of an object, after those under the keys in `seen`. -/
def fill? (room : Nat) : List (List Letter × Tree) → List String → σ → Option (σ × List String)
  | [], seen, draft => some (draft, seen)
  | (ls, d) :: fs, seen, draft => do
    let key ← spelling? ls
    if key ∈ layout.names then
      if key ∈ seen then none
      else fill? room fs (key :: seen) (← sense.put? room key d draft)
    else fill? room fs seen draft

/-- What is read of the items of an array, as the fields in order. -/
def fillItems? (room : Nat) : List (Field σ) → List Tree → σ → Option σ
  | [], [], draft => some draft
  | [], _ :: _, _ => none
  | field :: more, d :: ts, draft => do fillItems? room more ts (← sense.put? room field.name d draft)
  | field :: more, [], draft => if field.spare then fillItems? room more [] draft else none

/-- The record that a tree tells. -/
def record? : Nat → Tree → Option α
  | room + 1, .object fs => do
    let (draft, seen) ← sense.fill? room fs [] layout.draft
    if layout.fields.all fun f => f.spare || seen.contains f.name then layout.finish draft else none
  | room + 1, .array ts => (sense.fillItems? room layout.fields ts layout.draft).bind layout.finish
  | _, _ => none

section Fill

variable {room : Nat} {fs : List (List Letter × Tree)} {seen : List String} {draft : σ}
  {ls : List Letter} {key : String} {d : Tree} (hkey : spelling? ls = some key)

include hkey

/-- A field that the record has is put into the draft, unless it is given twice. -/
theorem fill?_cons_of_mem (hname : key ∈ layout.names) :
    sense.fill? room ((ls, d) :: fs) seen draft = if key ∈ seen then none
      else (sense.put? room key d draft).bind (sense.fill? room fs (key :: seen)) := by
  simp only [fill?, hkey, Option.bind_eq_bind, Option.bind_some, hname, if_true]

/-- Any other is passed over. -/
theorem fill?_cons_of_not_mem (hname : key ∉ layout.names) :
    sense.fill? room ((ls, d) :: fs) seen draft = sense.fill? room fs seen draft := by
  simp only [fill?, hkey, Option.bind_eq_bind, Option.bind_some, hname, if_false]

end Fill

/-- What is read of the fields of an object. -/
inductive Filled (room : Nat) (first : Bool) (seen : List String) (draft : σ) :
    Phrase (σ × List String)
  | mk {fs : List (List Letter × Tree)} {y : σ × List String} {s t : List Char}
      (h : Listed '\x7d' (LetteredField Written) first s fs t)
      (hy : sense.fill? room fs seen draft = some y) : Filled room first seen draft s y ('\x7d' :: t)

theorem readFields_sound {room fuel : Nat} {first : Bool} {seen : List String} {draft : σ}
    {y : σ × List String}
    (h : layout.readFields room fuel first seen draft ⟨s, p⟩ = .ok (y, ⟨t, q⟩)) :
    sense.Filled room first seen draft s y t := by
  induction fuel generalizing first seen draft s p with
  | zero => cases h
  | succ fuel ih =>
    rw [Layout.readFields] at h
    obtain ⟨more, u, r, hmore, h⟩ := bind_eq_ok.mp h
    cases (reads_nextKey first).sound trivial hmore with
    | close hbracket =>
      cases h
      exact .mk (.close hbracket) rfl
    | more hbefore hquote =>
      rw [if_pos rfl] at h
      obtain ⟨key, v, r', hkey, hvalue⟩ := bind_eq_ok.mp h
      obtain ⟨s', hs', hkey⟩ := reads_key.sound ⟨_, _, rfl, hquote⟩ hkey
      cases hs'
      obtain ⟨ls, hls, hspelling⟩ := chars_toList_iff.mp hkey
      cases hfield : layout.fields.find? (·.name == key) with
      | some field =>
        obtain ⟨hmem, rfl⟩ := layout.mem_of_find?_eq_some hfield
        have hname : field.name ∈ layout.names := List.mem_map_of_mem hmem
        simp only [hfield] at hvalue
        split at hvalue
        · obtain ⟨_, _, _, -, hvalue⟩ := bind_eq_ok.mp hvalue
          cases hvalue
        · rename_i hseen
          rw [List.contains_iff_mem] at hseen
          obtain ⟨_, v', r'', hcolon, hvalue⟩ := bind_eq_ok.mp hvalue
          obtain ⟨draft', w, r'', hput, hvalue⟩ := bind_eq_ok.mp hvalue
          obtain ⟨d, hd, hput⟩ := spaced_told.mp ((sense.reads room draft field hmem).sound trivial hput)
          cases ih hvalue with
          | mk hfs hy =>
            refine .mk (.cons hbefore (.mk hls (reads_colon.sound trivial hcolon) hd) hfs) ?_
            rw [sense.fill?_cons_of_mem hspelling hname, if_neg hseen]
            exact Option.bind_eq_some_iff.mpr ⟨draft', hput, hy⟩
      | none =>
        have hname := layout.find?_eq_none.mp hfield
        simp only [hfield] at hvalue
        obtain ⟨_, v', r'', hcolon, hvalue⟩ := bind_eq_ok.mp hvalue
        obtain ⟨_, w, r'', hskip, hvalue⟩ := bind_eq_ok.mp hvalue
        obtain ⟨d, hd⟩ := reads_skipValue.sound trivial hskip
        cases ih hvalue with
        | mk hfs hy =>
          refine .mk (.cons hbefore (.mk hls (reads_colon.sound trivial hcolon) hd) hfs) ?_
          rw [sense.fill?_cons_of_not_mem hspelling hname, hy]

/-- The fields of an object are read by as many rounds as there are, and one more. -/
theorem readFields_complete {room fuel : Nat} {first : Bool} {seen : List String} {draft : σ}
    {fs : List (List Letter × Tree)} {y : σ × List String}
    (h : Listed '\x7d' (LetteredField Written) first s fs t)
    (hy : sense.fill? room fs seen draft = some y) (hfuel : fs.length < fuel) (p : Place) :
    ∃ q, layout.readFields room fuel first seen draft ⟨s, p⟩ = .ok (y, ⟨'\x7d' :: t, q⟩) := by
  induction h generalizing fuel seen draft p with
  | close h =>
    cases fuel with
    | zero => exact absurd hfuel (Nat.not_lt_zero _)
    | succ fuel =>
      cases hy
      obtain ⟨q, hq⟩ := (reads_nextKey _).complete (.close h) trivial p
      exact ⟨q, by rw [Layout.readFields, bind_of_eq_ok hq]; rfl⟩
  | cons hbefore hf hfs ih =>
    cases fuel with
    | zero => exact absurd hfuel (Nat.not_lt_zero _)
    | succ fuel =>
      have hrounds := Nat.lt_of_succ_lt_succ hfuel
      have hparted := hfs.parted (.inr rfl)
      cases hf with
      | mk hls hcolon hd =>
        rename_i ls d _ _ _
        obtain ⟨key, hspelling, -⟩ := Option.bind_eq_some_iff.mp hy
        obtain ⟨q, hq⟩ := (reads_nextKey _).complete (.more hbefore rfl) trivial p
        obtain ⟨q', hq'⟩ := reads_key.complete
          ⟨_, rfl, chars_toList_iff.mpr ⟨ls, hls, hspelling⟩⟩ trivial q
        obtain ⟨r, hr⟩ := reads_colon.complete (x := ()) hcolon trivial q'
        rw [Layout.readFields, bind_of_eq_ok hq, if_pos rfl, bind_of_eq_ok hq']
        cases hfield : layout.fields.find? (·.name == key) with
        | some field =>
          obtain ⟨hmem, rfl⟩ := layout.mem_of_find?_eq_some hfield
          have hname : field.name ∈ layout.names := List.mem_map_of_mem hmem
          rw [sense.fill?_cons_of_mem hspelling hname] at hy
          obtain ⟨hseen, hy⟩ := Option.ite_none_left_eq_some.mp hy
          obtain ⟨draft', hput, hy⟩ := Option.bind_eq_some_iff.mp hy
          obtain ⟨r', hr'⟩ := (sense.reads room draft field hmem).complete
            (spaced_told.mpr ⟨d, hd, hput⟩) hparted r
          obtain ⟨q, hq⟩ := ih hy hrounds r'
          refine ⟨q, ?_⟩
          simp only
          rw [if_neg (by rwa [List.contains_iff_mem]), bind_of_eq_ok hr, bind_of_eq_ok hr', hq]
        | none =>
          have hname := layout.find?_eq_none.mp hfield
          rw [sense.fill?_cons_of_not_mem hspelling hname] at hy
          obtain ⟨r', hr'⟩ := reads_skipValue.complete (x := ()) ⟨d, hd⟩ hparted r
          obtain ⟨q, hq⟩ := ih hy hrounds r'
          refine ⟨q, ?_⟩
          simp only
          rw [bind_of_eq_ok hr, bind_of_eq_ok hr', hq]

/-- The items of an array are read as the fields in order, and then the bracket that closes it. -/
theorem readItems_sound {room : Nat} {fields : List (Field σ)}
    (hfields : ∀ f ∈ fields, f ∈ layout.fields) {index : Nat} {draft y : σ} {q' : Place}
    (h : layout.readItems room fields index draft ⟨s, p⟩ = .ok (y, ⟨t, q⟩))
    (hclose : closeArray ⟨t, q⟩ = .ok ((), ⟨u, q'⟩)) :
    Told (Listed ']' Written (index = 0)) (fun ts => sense.fillItems? room fields ts draft) s y u := by
  induction fields generalizing index draft s p with
  | nil =>
    cases h
    exact ⟨[], .close (reads_closeArray.sound trivial hclose), rfl⟩
  | cons field more ih =>
    have hmore : ∀ f ∈ more, f ∈ layout.fields := fun f hf => hfields f (List.mem_cons_of_mem _ hf)
    rw [Layout.readItems] at h
    obtain ⟨some?, v, r, hnext, hread⟩ := bind_eq_ok.mp h
    cases (reads_nextItem _).sound trivial hnext with
    | more hbefore hstart =>
      rw [if_pos rfl] at hread
      obtain ⟨draft', w, r', hput, hread⟩ := bind_eq_ok.mp hread
      obtain ⟨d, hd, hput⟩ := (sense.reads room draft field (hfields _ List.mem_cons_self)).unspaced.sound
        ⟨_, _, rfl, hstart⟩ hput
      obtain ⟨ts, hts, hy⟩ := ih hmore hread
      exact ⟨d :: ts, .cons hbefore hd hts, by simp only [fillItems?, hput]; exact hy⟩
    | close hbracket =>
      simp only [Bool.false_eq_true, if_false] at hread
      split at hread
      · rename_i hspare
        obtain ⟨ts, hts, hy⟩ := ih hmore hread
        -- the bracket is still ahead, so nothing is left for the other fields either
        cases hts with
        | close hagain =>
          obtain ⟨-, rfl⟩ := Blanks.nil.unique rfl hagain rfl
          exact ⟨[], .close hbracket, by simp only [fillItems?, hspare, if_true, hy]⟩
        | cons hbefore hd =>
          obtain ⟨c, v, rfl, hc⟩ := hd.begins
          exact absurd .nil (hbefore.ne_bracket (.inl rfl) hc)
      · obtain ⟨_, _, _, -, hread⟩ := bind_eq_ok.mp hread
        cases hread

theorem readItems_complete {room : Nat} {fields : List (Field σ)}
    (hfields : ∀ f ∈ fields, f ∈ layout.fields) (index : Nat) {draft y : σ} {ts : List Tree}
    (h : Listed ']' Written (index = 0) s ts t) (hy : sense.fillItems? room fields ts draft = some y)
    (p : Place) : ∃ u q, layout.readItems room fields index draft ⟨s, p⟩ = .ok (y, ⟨u, q⟩) ∧
      Blanks u (']' :: t) := by
  induction fields generalizing index draft s ts p with
  | nil =>
    cases h with
    | close h =>
      cases hy
      exact ⟨s, p, rfl, h⟩
    | cons => cases hy
  | cons field more ih =>
    have hmore : ∀ f ∈ more, f ∈ layout.fields := fun f hf => hfields f (List.mem_cons_of_mem _ hf)
    rw [Layout.readItems]
    cases h with
    | close h =>
      obtain ⟨hspare, hy⟩ := Option.ite_none_right_eq_some.mp hy
      obtain ⟨q, hq⟩ := (reads_nextItem (index = 0)).complete (.close h) trivial p
      obtain ⟨u, q', hq', hu⟩ := ih hmore index (.close .nil) hy q
      refine ⟨u, q', ?_, hu⟩
      rw [bind_of_eq_ok hq, if_neg Bool.false_ne_true, if_pos hspare, hq']
    | cons hbefore hd hts =>
      obtain ⟨draft', hput, hy⟩ := Option.bind_eq_some_iff.mp hy
      obtain ⟨c, v, rfl, hc⟩ := hd.begins
      obtain ⟨q, hq⟩ := (reads_nextItem (index = 0)).complete (.more hbefore hc) trivial p
      obtain ⟨r, hr⟩ := (sense.reads room draft field (hfields _ List.mem_cons_self)).complete
        ⟨_, .nil, _, hd, hput⟩ (hts.parted (.inl rfl)) q
      obtain ⟨u, q', hq', hu⟩ := ih hmore (index + 1) hts hy r
      refine ⟨u, q', ?_, hu⟩
      rw [bind_of_eq_ok hq, if_pos rfl, bind_of_eq_ok hr, hq']

theorem complete_eq_ok {draft : σ} {x : α} {d e : Cursor} :
    layout.complete draft d = .ok (x, e) ↔ layout.finish draft = some x ∧ d = e := by
  rw [Layout.complete]
  cases layout.finish draft with
  | none => exact ⟨nofun, nofun⟩
  | some y =>
    constructor
    · intro h
      cases h
      exact ⟨rfl, rfl⟩
    · rintro ⟨h, rfl⟩
      cases h
      rfl

/-- All fields that have to be there are. -/
theorem find?_missing_eq_none {seen : List String} :
    layout.fields.find? (fun f => !f.spare && !seen.contains f.name) = none ↔
      (layout.fields.all fun f => f.spare || seen.contains f.name) = true := by
  rw [List.find?_eq_none, List.all_eq_true]
  refine forall₂_congr fun f _ => ?_
  cases f.spare <;> simp

/-- The items of an array and the bracket that closes it are read as a record. -/
theorem reads_array (room : Nat) : Reads Anything (do
      let draft ← layout.readItems room layout.fields 0 layout.draft
      closeArray
      layout.complete draft)
    (Told (Listed ']' Written true) fun ts => sense.record? (room + 1) (.array ts)) Anything where
  sound {s t p q x} _ h := by
    obtain ⟨draft, v, r, hread, h⟩ := bind_eq_ok.mp h
    obtain ⟨_, w, r', hclose, h⟩ := bind_eq_ok.mp h
    obtain ⟨hx, hw⟩ := complete_eq_ok.mp h
    cases hw
    obtain ⟨ts, hts, hdraft⟩ := sense.readItems_sound (fun _ hf => hf) hread hclose
    exact ⟨ts, hts, (congrArg (·.bind layout.finish) hdraft).trans hx⟩
  complete {s t x} h _ p := by
    obtain ⟨ts, hts, hx⟩ := h
    obtain ⟨draft, hdraft, hx⟩ := Option.bind_eq_some_iff.mp hx
    obtain ⟨u, q, hq, hu⟩ := sense.readItems_complete (fun _ hf => hf) 0 hts hdraft p
    obtain ⟨q', hq'⟩ := reads_closeArray.complete (x := ()) hu trivial q
    exact ⟨q', by rw [bind_of_eq_ok hq, bind_of_eq_ok hq', complete_eq_ok]; exact ⟨hx, rfl⟩⟩

/-- **A record is read** as what its fields tell, be it an object or an array. -/
theorem decodes : Decodes layout.decoder sense.record? := by
  refine fun room => ⟨fun {s t p q x} _ h => ?_, fun {s t x} h ht p => ?_⟩
  · obtain ⟨e, herror⟩ | ⟨c, u, r', hblanks, -, hpeek⟩ := somethingAhead_cases (β := α) _ s p
    · cases h.symm.trans herror
    replace h := hpeek.symm.trans h
    obtain ⟨_, hr', h⟩ := exists_step h
    split at hr' <;> subst hr'
    · cases ‹some c = some '['›
      cases room with
      | zero => cases h
      | succ room =>
        simp only [advance_bind_cons] at h
        obtain ⟨ts, hts, hx⟩ := (sense.reads_array room).sound trivial h
        exact ⟨_, hblanks, .array ts, written_iff.mpr (.array hts), hx⟩
    · cases ‹some c = some '\x7b'›
      cases room with
      | zero => cases h
      | succ room =>
        simp only [advance_bind_cons, roundBound_bind] at h
        obtain ⟨⟨draft, seen⟩, v, r, hread, h⟩ := bind_eq_ok.mp h
        cases sense.readFields_sound hread with
        | mk hfs hy =>
          cases hmissing : layout.fields.find? fun f => !f.spare && !seen.contains f.name with
          | some f =>
            simp only [hmissing] at h
            obtain ⟨_, _, _, -, h⟩ := bind_eq_ok.mp h
            cases h
          | none =>
            simp only [hmissing] at h
            rw [find?_missing_eq_none] at hmissing
            obtain ⟨_, w, r'', hclose, h⟩ := bind_eq_ok.mp h
            obtain ⟨hx, hw⟩ := complete_eq_ok.mp h
            cases hw
            cases hclose
            refine ⟨_, hblanks, .object _, written_iff.mpr (.object hfs), ?_⟩
            simp only [record?, hy, Option.bind_eq_bind, Option.bind_some, hmissing, if_true, hx]
    · exact absurd h (refuseType_ne_ok _ _)
  · obtain ⟨s', hblanks, d, hd, hx⟩ := h
    cases d with
    | array ts =>
      cases room with
      | zero => cases hx
      | succ room =>
        cases written_iff.mp hd with
        | array hts =>
          obtain ⟨q, hq⟩ := hblanks.ahead rfl p
          obtain ⟨r, hr⟩ := (sense.reads_array room).complete ⟨ts, hts, hx⟩ trivial (q.past '[')
          exact ⟨r, (hq _).trans hr⟩
    | object fs =>
      cases room with
      | zero => cases hx
      | succ room =>
        cases written_iff.mp hd with
        | @object _ s t hfs =>
          obtain ⟨⟨draft, seen⟩, hfill, hx⟩ := Option.bind_eq_some_iff.mp hx
          obtain ⟨hall, hx⟩ := Option.ite_none_right_eq_some.mp hx
          have hlength := hfs.length_add_lt (shortens_letteredField shortens_written)
          obtain ⟨q, hq⟩ := hblanks.ahead rfl p
          obtain ⟨r, hr⟩ := sense.readFields_complete hfs hfill (show fs.length < s.length + 1 by omega)
            (q.past '\x7b')
          obtain ⟨r', hr'⟩ := closeObject_cons t r
          refine ⟨r', (hq _).trans ?_⟩
          simp only [advance_bind_cons, roundBound_bind]
          rw [bind_of_eq_ok hr]
          simp only [find?_missing_eq_none.mpr hall]
          rw [bind_of_eq_ok hr', complete_eq_ok]
          exact ⟨hx, rfl⟩
    | null | bool | number | string => cases room <;> cases hx

end Sense

end Parley.Json
