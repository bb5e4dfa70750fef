import Parley.Proofs.Json.Sheet

/-!
# Records that are read from what was kept of them

A record that is kept is written as an object with its own fields, and whoever reads it again asks each
field for what was put there. What a field has to tell is known from its value: a string tells its text,
a number tells itself, a list of strings their texts, and a string that is the name of something this
thing (`Parley.Json.Holds.asked`, `Parley.Json.Tree.text?_of_string` and the like). So a record is read
if its fields are those of the object and are told by them
(`Parley.Json.Sense.Reports.decode_of_isObject`).

A thing may be named in two ways, of which only one is ever written: by a string, and as the only key of
an object that holds null (`Parley.Json.decodes_nameOf`).
-/

namespace Parley.Json

open Numeral Reading

variable {α β σ : Type} {s t u : List Char} {p q : Place} {c : Char}

/-! ### Names -/

/-- The thing that has a name. -/
def named? (known : List (String × α)) (name : String) : Option α :=
  (known.find? (·.1 == name)).map (·.2)

/-- **What a tree names**: by a string, or as the only key of an object that holds null. -/
def Tree.named? (known : List (String × α)) : Nat → Tree → Option α
  | _, .string ls => (spelling? ls).bind (Json.named? known)
  | _ + 1, .object [(ls, .null)] => (spelling? ls).bind (Json.named? known)
  | _, _ => none

section Names

variable {known : List (String × α)} {x : α}

theorem choose_eq_ok {name : String} {d e : Cursor} :
    nameOf.choose known name d = .ok (x, e) ↔ named? known name = some x ∧ e = d := by
  unfold nameOf.choose named?
  cases known.find? (·.1 == name) with
  | none => exact ⟨nofun, nofun⟩
  | some y =>
    constructor
    · intro h
      cases h
      exact ⟨rfl, rfl⟩
    · rintro ⟨h, rfl⟩
      cases h
      rfl

/-- Something is ahead behind the blanks. -/
theorem reads_somethingAhead : Reads Anything somethingAhead (fun s _ t => Blanks s t ∧ t ≠ [] ∧
    ∀ c u, t = c :: u → isSpace c = false) Anything where
  sound {s t p q _} _ h := by
    rw [somethingAhead] at h
    obtain ⟨-, _, hpeek⟩ | ⟨c, u, hblanks, hc, _, hpeek⟩ := peekPastSpace_cases (β := Unit) s p <;>
      rw [hpeek] at h
    · cases h
    · cases h
      refine ⟨hblanks, List.cons_ne_nil _ _, ?_⟩
      rintro _ _ ⟨⟩
      exact hc
  complete {s t _} h _ p := by
    obtain ⟨hblanks, hne, hspace⟩ := h
    obtain ⟨c, u, rfl⟩ := List.exists_cons_of_ne_nil hne
    obtain ⟨q, hq⟩ := hblanks.peek (hspace c u rfl) p
    exact ⟨q, by rw [somethingAhead, hq]; rfl⟩

/-- Reads the null behind the colon and the bracket that closes the object. -/
def nullAndBracket (x : α) : Reading α := do
  somethingAhead
  match ← peek with
  | some 'n' => do
    advance
    word ['u', 'l', 'l']
  | _ => refuseType "unit"
  match ← peekPastSpace with
  | some '\x7d' => do
    advance
    pure x
  | some _ => failHere .expectedValue
  | none => failHere .endInObject

theorem reads_bracket (x : α) : Reads Anything (do
      match ← peekPastSpace with
      | some '\x7d' => do
        advance
        pure x
      | some _ => failHere .expectedValue
      | none => failHere .endInObject)
    (fun s y t => Blanks s ('\x7d' :: t) ∧ x = y) Anything where
  sound {s t p q y} _ h := by
    obtain ⟨-, _, hpeek⟩ | ⟨c, u, hblanks, -, _, hpeek⟩ := peekPastSpace_cases (β := α) s p <;>
      rw [hpeek] at h
    · cases h
    obtain ⟨_, hr, h⟩ := exists_step h
    split at hr <;> subst hr
    · cases ‹some c = some '\x7d'›
      cases h
      exact ⟨hblanks, rfl⟩
    · cases h
    · cases h
  complete {s t y} h _ p := by
    obtain ⟨hblanks, rfl⟩ := h
    obtain ⟨q, hq⟩ := hblanks.peek rfl p
    exact ⟨q.past '\x7d', by rw [hq]; rfl⟩

theorem reads_nullAndBracket (x : α) : Reads Anything (nullAndBracket x)
    (fun s y t => (∃ u, Blanks s ('n' :: 'u' :: 'l' :: 'l' :: u) ∧ Blanks u ('\x7d' :: t)) ∧ x = y)
    Anything where
  sound {s t p q y} _ h := by
    obtain ⟨e, herror⟩ | ⟨c, u, r, hblanks, -, hpeek⟩ := somethingAhead_cases (β := α) _ s p
    · cases h.symm.trans herror
    replace h := hpeek.symm.trans h
    obtain ⟨_, hr, h⟩ := exists_step h
    split at hr <;> subst hr
    · cases ‹some c = some 'n'›
      rw [advance_bind_cons] at h
      obtain ⟨_, v, r', hword, h⟩ := bind_eq_ok.mp h
      obtain rfl := (reads_word ['u', 'l', 'l']).sound trivial hword
      obtain ⟨hbracket, hx⟩ := (reads_bracket x).sound trivial h
      exact ⟨⟨v, hblanks, hbracket⟩, hx⟩
    · obtain ⟨y, _, _, h, -⟩ := bind_eq_ok.mp h
      exact absurd h (refuseType_ne_ok _ _)
  complete {s t y} h _ p := by
    obtain ⟨⟨u, hblanks, hbracket⟩, hx⟩ := h
    obtain ⟨q, hq⟩ := hblanks.ahead rfl p
    obtain ⟨r, hr⟩ := (reads_word ['u', 'l', 'l']).complete (x := ()) rfl trivial (q.past 'n')
    obtain ⟨r', hr'⟩ := (reads_bracket x).complete ⟨hbracket, hx⟩ trivial r
    refine ⟨r', (hq _).trans ?_⟩
    simp only [advance_bind_cons]
    exact (bind_of_eq_ok hr).trans hr'

/-- A string is read for what it is the name of. -/
theorem decodes_choose : Decodes (fun _ => do nameOf.choose known (← stringAs "variant identifier"))
    fun _ d => d.text?.bind (named? known) := by
  refine fun room => ⟨fun {s t p q x} _ h => ?_, fun {s t x} h ht p => ?_⟩
  · obtain ⟨name, v, r, hname, h⟩ := bind_eq_ok.mp h
    obtain ⟨hx, hv⟩ := choose_eq_ok.mp h
    cases hv
    obtain ⟨s', hblanks, d, hd, htext⟩ := (decodes_stringAs _ room).sound trivial hname
    exact ⟨s', hblanks, d, hd, Option.bind_eq_some_iff.mpr ⟨name, htext, hx⟩⟩
  · obtain ⟨s', hblanks, d, hd, hx⟩ := h
    obtain ⟨name, htext, hx⟩ := Option.bind_eq_some_iff.mp hx
    obtain ⟨q, hq⟩ :=
      (decodes_stringAs "variant identifier" room).complete ⟨s', hblanks, d, hd, htext⟩ ht p
    exact ⟨q, (bind_of_eq_ok hq).trans (choose_eq_ok.mpr ⟨hx, rfl⟩)⟩

theorem Tree.named?_object {room : Nat} {fs : List (List Letter × Tree)} :
    Tree.named? known (room + 1) (.object fs) = some x ↔ ∃ ls, fs = [(ls, .null)] ∧
      (spelling? ls).bind (Json.named? known) = some x := by
  constructor
  · intro h
    unfold Tree.named? at h
    split at h
    · cases ‹Tree.object fs = .string _›
    · cases ‹Tree.object fs = .object _›
      exact ⟨_, rfl, h⟩
    · cases h
  · rintro ⟨ls, rfl, h⟩
    exact h

theorem parted_colon (s : List Char) : Parted (':' :: s) := by
  rintro c t ⟨⟩
  decide

/-- The rest of an object that names something. -/
theorem reads_onlyKey (room : Nat) : Reads Anything (do
      somethingAhead
      let x ← nameOf.choose known (← stringAs "variant identifier")
      colon
      nullAndBracket x)
    (Told (Listed '\x7d' (LetteredField Written) true)
      fun fs => Tree.named? known (room + 1) (.object fs)) Anything where
  sound {s t p q x} _ h := by
    obtain ⟨_, v, r, hahead, h⟩ := bind_eq_ok.mp h
    obtain ⟨hblanks, -, -⟩ := reads_somethingAhead.sound trivial hahead
    rw [← bind_assoc] at h
    obtain ⟨y, v', r', hname, h⟩ := bind_eq_ok.mp h
    obtain ⟨_, w, r'', hcolon, h⟩ := bind_eq_ok.mp h
    obtain ⟨s', hblanks', d, hd, hx⟩ := (decodes_choose room).sound trivial hname
    obtain ⟨⟨u, hnull, hbracket⟩, rfl⟩ := (reads_nullAndBracket y).sound trivial h
    have hcolon := reads_colon.sound trivial hcolon
    cases d with
    | string ls =>
      cases written_iff.mp hd with
      | string hls =>
        exact ⟨[(ls, .null)], .cons (.first (hblanks.trans hblanks'))
          (.mk hls hcolon ⟨_, hnull, written_iff.mpr .null⟩) (.close hbracket),
          Tree.named?_object.mpr ⟨ls, rfl, hx⟩⟩
    | null | bool | number | array | object => cases hx
  complete {s t x} h _ p := by
    obtain ⟨fs, hfs, hx⟩ := h
    obtain ⟨ls, rfl, hx⟩ := Tree.named?_object.mp hx
    obtain _ | ⟨⟨hbefore⟩, ⟨hls, hcolon, u, hnull, hd⟩, ⟨hbracket⟩⟩ := hfs
    cases written_iff.mp hd
    obtain ⟨q, hq⟩ := reads_somethingAhead.complete (x := ())
      ⟨hbefore, List.cons_ne_nil _ _, by rintro _ _ ⟨⟩; rfl⟩ trivial p
    have hparted := hcolon.parted (parted_colon _)
    obtain ⟨q₁, hq₁⟩ := (decodes_choose room).complete
      ⟨_, .nil, .string ls, written_iff.mpr (.string hls), hx⟩ hparted q
    obtain ⟨q₂, hq₂⟩ := reads_colon.complete (x := ()) hcolon trivial q₁
    obtain ⟨q₃, hq₃⟩ := (reads_nullAndBracket x).complete ⟨⟨_, hnull, hbracket⟩, rfl⟩ trivial q₂
    refine ⟨q₃, ?_⟩
    rw [bind_of_eq_ok hq, ← bind_assoc]
    exact (bind_of_eq_ok hq₁).trans ((bind_of_eq_ok hq₂).trans hq₃)

/-- **A thing is read from its name.** -/
theorem decodes_nameOf : Decodes (nameOf known) (Tree.named? known) := by
  refine fun room => ⟨fun {s t p q x} _ h => ?_, fun {s t x} h ht p => ?_⟩
  · unfold nameOf at h
    obtain ⟨-, _, hpeek⟩ | ⟨c, u, hblanks, -, r, hpeek⟩ := peekPastSpace_cases (β := α) s p <;>
      rw [hpeek] at h
    · cases h
    obtain ⟨_, hr, h⟩ := exists_step h
    split at hr <;> subst hr
    · cases h
    · obtain ⟨s', hblanks', d, hd, hx⟩ := (decodes_choose room).sound trivial h
      refine ⟨s', hblanks.trans hblanks', d, hd, ?_⟩
      cases d with
      | string ls => exact hx
      | null | bool | number | array | object => cases hx
    · cases ‹some c = some '\x7b'›
      cases room with
      | zero => cases h
      | succ room =>
        simp only [advance_bind_cons] at h
        obtain ⟨fs, hfs, hx⟩ := (reads_onlyKey room).sound trivial h
        exact ⟨_, hblanks, .object fs, written_iff.mpr (.object hfs), hx⟩
    · cases h
  · obtain ⟨s', hblanks, d, hd, hx⟩ := h
    unfold nameOf
    cases d with
    | string ls =>
      cases written_iff.mp hd with
      | string hls =>
        obtain ⟨q, hq⟩ := hblanks.peek rfl p
        obtain ⟨r, hr⟩ := (decodes_choose room).complete
          ⟨_, .nil, .string ls, written_iff.mpr (.string hls), hx⟩ ht q
        exact ⟨r, (hq _).trans hr⟩
    | object fs =>
      cases room with
      | zero => simp [Tree.named?] at hx
      | succ room =>
        cases written_iff.mp hd with
        | object hfs =>
          obtain ⟨q, hq⟩ := hblanks.peek rfl p
          obtain ⟨r, hr⟩ := (reads_onlyKey room).complete ⟨fs, hfs, hx⟩ trivial (q.past '\x7b')
          exact ⟨r, (hq _).trans hr⟩
    | null | bool | number | array => cases hx

end Names

/-! ### What trees tell that have a value -/

namespace Tree

variable {room : Nat} {d : Tree}

theorem text?_of_string {x : String} (h : d.value? room = some (.string x)) : d.text? = some x :=
  text?_of_value? h

theorem named?_of_string {known : List (String × α)} {name : String}
    (h : d.value? room = some (.string name)) : d.named? known room = Json.named? known name := by
  have htext := text?_of_string h
  cases d with
  | string ls =>
    change (spelling? ls).bind (Json.named? known) = _
    rw [show spelling? ls = some name from htext, Option.bind_some]
  | null | bool | number | array | object => cases htext

theorem whole?_of_integer {range : Range} {i : Int} (hi : range.holds i = true)
    (h : d.value? room = some (.number (.integer i))) : d.whole? range = some i := by
  obtain ⟨inner, hinner⟩ := value?_eq room
  rw [hinner] at h
  cases d with
  | number d =>
    obtain ⟨n, hn, heq⟩ := Option.map_eq_some_iff.mp h
    cases heq
    simp only [whole?, hn, Option.bind_some, hi, if_true]
  | null | bool => cases h
  | string | array | object =>
    simp [valueOf?, Option.map_eq_some_iff, Option.bind_eq_some_iff] at h

/-- What is told of a range lies in it. -/
theorem holds_of_whole? {range : Range} {i : Int} (h : d.whole? range = some i) :
    range.holds i = true := by
  cases d with
  | number n =>
    obtain ⟨k, -, hk⟩ := Option.bind_eq_some_iff.mp h
    cases k with
    | integer j =>
      obtain ⟨hj, heq⟩ := Option.ite_none_right_eq_some.mp hk
      cases heq
      exact hj
    | real => cases hk
  | null | bool | string | array | object => cases h

/-- The items of an array that has a value have values. -/
theorem exists_items_of_array {items : List Value} (h : d.value? room = some (.array items)) :
    ∃ inner ts, room = inner + 1 ∧ d = .array ts ∧ ts.mapM (value? inner) = some items := by
  cases room with
  | zero =>
    cases d <;> simp [value?, valueOf?, Option.map_eq_some_iff] at h
  | succ room =>
    cases d with
    | array ts =>
      obtain ⟨vs, hvs, heq⟩ := Option.map_eq_some_iff.mp h
      cases heq
      exact ⟨room, ts, rfl, rfl, hvs⟩
    | null | bool => cases h
    | number | string | object =>
      simp [value?, valueOf?, Option.map_eq_some_iff] at h

theorem items?_of_strings {xs : List String} (h : d.value? room = some (.array (xs.map .string))) :
    d.items? (fun _ => text?) room = some xs := by
  obtain ⟨inner, ts, rfl, rfl, hts⟩ := exists_items_of_array h
  change ts.mapM text? = some xs
  clear h
  induction xs generalizing ts with
  | nil =>
    cases ts with
    | nil => rfl
    | cons d ts =>
      obtain ⟨_, _, -, -, h⟩ := mapM_cons_eq_some.mp hts
      cases h
  | cons x xs ih =>
    cases ts with
    | nil => cases hts
    | cons d ts =>
      obtain ⟨_, _, hd, hrest, h⟩ := mapM_cons_eq_some.mp hts
      cases h
      exact mapM_cons_eq_some.mpr ⟨x, xs, text?_of_string hd, ih ts hrest, rfl⟩

end Tree

/-! ### What is told of fields that have a value -/

section Fields

variable {m : Nat → Tree → Option α} {room : Nat} {o : Option Tree} {v : Value} {x : α}

/-- What a field that is given has for a value. -/
abbrev Holds (room : Nat) (o : Option Tree) (v : Option Value) : Prop :=
  Option.Rel (fun d v => d.value? room = some v) o v

/-- **A field that has to be there** tells what its value tells. -/
theorem Holds.asked (h : Holds room o (some v))
    (hm : ∀ d, d.value? room = some v → m room d = some x) :
    askedTold? m room o = some (some x) := by
  cases h with
  | some h => rw [askedTold?, hm _ h, Option.map_some]

/-- **So does one that may be null**, unless it is. -/
theorem Holds.spare (h : Holds room o (some v)) (hnull : v ≠ .null)
    (hm : ∀ d, d.value? room = some v → m room d = some x) :
    spareTold? m room o = some (some x) := by
  cases h with
  | @some d _ h =>
    have hd : d ≠ .null := by
      rintro rfl
      exact hnull (Option.some.inj (h.symm.trans (Tree.value?_eq_null.mpr rfl)))
    rw [spareTold?, Tree.optional?_of_ne_null hd, hm _ h, Option.map_some]

theorem Holds.spare_null (h : Holds room o (some .null)) : spareTold? m room o = some none := by
  cases h with
  | some h =>
    obtain rfl := Tree.value?_eq_null.mp h
    rfl

theorem Holds.spare_none (h : Holds room o none) : spareTold? m room o = some none := by
  cases h
  rfl

/-- A thing that is left out when there is none. -/
theorem Holds.spare_map {y : Option α} {f : α → Value} (h : Holds room o (y.map f))
    (hnull : ∀ x, f x ≠ .null)
    (hm : ∀ x, y = some x → ∀ d, d.value? room = some (f x) → m room d = some x) :
    spareTold? m room o = some y := by
  cases y with
  | none => exact h.spare_none
  | some x => exact h.spare (hnull x) (hm x rfl)

/-- A thing in place of which null is written when there is none. -/
theorem Holds.spare_elim {y : Option α} {f : α → Value} (h : Holds room o (some (y.elim .null f)))
    (hnull : ∀ x, f x ≠ .null)
    (hm : ∀ x, y = some x → ∀ d, d.value? room = some (f x) → m room d = some x) :
    spareTold? m room o = some y := by
  cases y with
  | none => exact h.spare_null
  | some x => exact h.spare (hnull x) (hm x rfl)

end Fields

/-- **A record is read from an object**, if it is what the values of its fields say of it. -/
theorem Sense.Reports.decode_of_isObject {layout : Layout σ α} {sense : Sense layout}
    {Says : Nat → (String → Option Tree) → σ → Prop} (h : sense.Reports Says)
    (hnames : layout.names.Nodup) {text : String} {fs : List (String × Value)}
    (htext : IsObject maxDepth text fs) (hkeys : (fs.map Prod.fst).Nodup)
    (hasked : ∀ f ∈ layout.fields, f.spare = true ∨ f.name ∈ fs.map Prod.fst) {draft : σ} {x : α}
    (hreport : ∀ room given, (∀ key ∈ layout.names, Holds room (given key) (Value.lookup key fs)) →
      Says room given draft) (hfinish : layout.finish draft = some x) :
    decode layout.decoder text = .ok x := by
  -- the text is that of a tree, and the tree has the values that the object has
  obtain ⟨gs, hgs, htold⟩ := isObject_iff.mp htext
  obtain ⟨hgiven, hlookup⟩ := known?_of_told layout htold
  refine sense.decodes.decode_eq_ok.mpr ⟨_, hgs, (h.record?_eq_some hnames).mpr ⟨_, draft,
    .object (spelled_of_told htold) (hgiven ▸ hkeys.filter _), fun f hf => ?_,
    hreport _ _ hlookup, hfinish⟩⟩
  refine (hasked f hf).imp_right fun hname => ?_
  have hmem : f.name ∈ layout.names := List.mem_map_of_mem hf
  rw [hgiven, List.mem_filter]
  exact ⟨hname, decide_eq_true hmem⟩

end Parley.Json
