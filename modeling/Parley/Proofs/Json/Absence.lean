import Mathlib.Data.List.Forall2
import Mathlib.Data.List.Nodup
import Mathlib.Data.Option.Basic
import Mathlib.Logic.Relation
import Parley.Proofs.Json.Sheet

/-!
# Nulls that are left out

A field that may be null may be missing as well, and to whoever reads a record both are to be the same.
Here is what that takes. One null that is left out is one step from a tree to another
(`Parley.Json.Tree.Omits`); it may be taken further inside, in what a record is given under a key
(`Parley.Json.Layout.Alters`) or in an item of a list (`Parley.Json.Tree.ItemAlters`).

A record is told by what its tree gives it under its keys (`Parley.Json.Layout.Presents`), and a step
changes that under one key only: from null to nothing (`Parley.Json.Tree.Omits.presents`), or from one
tree to another (`Parley.Json.Layout.Alters.presents`). So a record is read the same if what it says of
a null is what it says of nothing (`Parley.Json.Sense.Reports.record?_omits`), and is read alike if what
it says of the one tree is like what it says of the other (`Parley.Json.Sense.Reports.record?_alters`).
-/

namespace Parley.Json

variable {α σ : Type}

/-! ### One null less -/

/-- **A null is left out** of an object, a field that is given only once there. -/
inductive Tree.Omits (keys : List String) : Tree → Tree → Prop
  | mk (before after : List (List Letter × Tree)) {ls : List Letter} {key : String}
      (hkey : spelling? ls = some key) (hmem : key ∈ keys)
      (honce : ∀ f ∈ before ++ after, spelling? f.1 ≠ some key) :
      Omits keys (.object (before ++ (ls, .null) :: after)) (.object (before ++ after))

/-- An item of an array is changed. -/
inductive Tree.ItemAlters (R : Tree → Tree → Prop) : Tree → Tree → Prop
  | mk (before after : List Tree) {d d' : Tree} (h : R d d') :
      ItemAlters R (.array (before ++ d :: after)) (.array (before ++ d' :: after))

/-- What a record is given under a key is changed. -/
inductive Layout.Alters (layout : Layout σ α) (key : String) (R : Tree → Tree → Prop) :
    Tree → Tree → Prop
  | field (before after : List (List Letter × Tree)) {ls : List Letter} {d d' : Tree}
      (hkey : spelling? ls = some key) (h : R d d') :
      Alters layout key R (.object (before ++ (ls, d) :: after)) (.object (before ++ (ls, d') :: after))
  | item (before after : List Tree) {d d' : Tree} (hkey : layout.names[before.length]? = some key)
      (h : R d d') :
      Alters layout key R (.array (before ++ d :: after)) (.array (before ++ d' :: after))

theorem Layout.Alters.flip {layout : Layout σ α} {key : String} {R : Tree → Tree → Prop} {d d' : Tree}
    (h : layout.Alters key R d d') : layout.Alters key (Function.swap R) d' d := by
  cases h with
  | field before after hkey h => exact .field before after hkey h
  | item before after hkey h => exact .item before after hkey h

/-! ### One of the fields that are given -/

section Middle

variable {before after : List (String × Tree)} {key : String} {d : Tree}

theorem nodup_keysOf_middle : (keysOf (before ++ (key, d) :: after)).Nodup ↔
    key ∉ keysOf (before ++ after) ∧ (keysOf (before ++ after)).Nodup := by
  simp only [keysOf, List.map_append, List.map_cons, List.nodup_middle, List.nodup_cons]

theorem mem_keysOf_middle {k : String} : k ∈ keysOf (before ++ (key, d) :: after) ↔
    k = key ∨ k ∈ keysOf (before ++ after) := by
  simp only [keysOf, List.map_append, List.map_cons, List.mem_append, List.mem_cons]
  tauto

/-- A field that is given once is what is found under its key. -/
theorem lookup_middle (h : key ∉ keysOf (before ++ after)) :
    (fun k => (before ++ (key, d) :: after).lookup k) =
      Function.update (fun k => (before ++ after).lookup k) key (some d) := by
  have hbefore : key ∉ keysOf before := fun hmem => h (by
    rw [keysOf, List.map_append]
    exact List.mem_append_left _ hmem)
  funext k
  rw [List.lookup_append]
  by_cases hk : k = key
  · subst hk
    rw [lookup_eq_none hbefore, List.lookup_cons_self, Function.update_self]
    rfl
  · rw [List.lookup_cons, beq_false_of_ne hk, Function.update_of_ne hk, List.lookup_append]

end Middle

namespace Layout

variable {layout : Layout σ α} {key : String} {ls : List Letter} {d d' : Tree}

theorem key_eq_of_known? {f : List Letter × Tree} {g : String × Tree} (h : layout.known? f = some g) :
    spelling? f.1 = some g.1 := by
  obtain ⟨key, hkey, h⟩ := Option.bind_eq_some_iff.mp h
  obtain ⟨-, h⟩ := Option.ite_none_right_eq_some.mp h
  cases h
  exact hkey

theorem gives_object {fs : List (List Letter × Tree)} {gs : List (String × Tree)} :
    layout.Gives (.object fs) gs ↔ (∀ f ∈ fs, (spelling? f.1).isSome) ∧
      (keysOf (fs.filterMap layout.known?)).Nodup ∧ gs = fs.filterMap layout.known? := by
  constructor
  · intro h
    cases h with
    | object hspelled hnodup => exact ⟨hspelled, hnodup, rfl⟩
  · rintro ⟨hspelled, hnodup, rfl⟩
    exact .object hspelled hnodup

theorem gives_array {ts : List Tree} {gs : List (String × Tree)} :
    layout.Gives (.array ts) gs ↔ ts.length ≤ layout.names.length ∧ gs = layout.names.zip ts := by
  constructor
  · intro h
    cases h with
    | array hlength => exact ⟨hlength, rfl⟩
  · rintro ⟨hlength, rfl⟩
    exact .array hlength

/-- **What is given to a record under its keys**, if all that has to be given is. -/
def Presents (layout : Layout σ α) (d : Tree) (given : String → Option Tree) : Prop :=
  ∃ gs, layout.Gives d gs ∧ (∀ f ∈ layout.fields, f.spare = true ∨ f.name ∈ keysOf gs) ∧
    given = fun key => gs.lookup key

/-- What has to be given is not missed where one field is given that may be missing. -/
theorem spare_or_mem_middle {before after : List (String × Tree)}
    (hspare : ∀ f ∈ layout.fields, f.name = key → f.spare = true) :
    (∀ f ∈ layout.fields, f.spare = true ∨ f.name ∈ keysOf (before ++ (key, d) :: after)) ↔
      ∀ f ∈ layout.fields, f.spare = true ∨ f.name ∈ keysOf (before ++ after) := by
  refine forall₂_congr fun f hf => ?_
  rw [mem_keysOf_middle]
  have h := hspare f hf
  tauto

end Layout

/-- **A record is not given what is left out**, and everything else as before. -/
theorem Tree.Omits.presents {keys : List String} {d d' : Tree} (h : Tree.Omits keys d d')
    (layout : Layout σ α) (hkeys : ∀ key ∈ keys, key ∈ layout.names)
    (hspare : ∀ f ∈ layout.fields, f.name ∈ keys → f.spare = true) :
    ∃ key ∈ keys, (∀ given, layout.Presents d' given → given key = none ∧
        layout.Presents d (Function.update given key (some .null))) ∧
      ∀ given, layout.Presents d given → ∃ given', layout.Presents d' given' ∧ given' key = none ∧
        given = Function.update given' key (some .null) := by
  obtain ⟨before, after, hkey, hmem, honce⟩ := h
  rename_i ls key
  have hknown := Layout.known?_of_spelling hkey (hkeys key hmem) .null
  have hnot : key ∉ keysOf (before.filterMap layout.known? ++ after.filterMap layout.known?) := by
    rw [← List.filterMap_append]
    intro hin
    obtain ⟨g, hg, rfl⟩ := List.mem_map.mp hin
    obtain ⟨f, hf, hfg⟩ := List.mem_filterMap.mp hg
    exact honce f hf (Layout.key_eq_of_known? hfg)
  have hrequired : ∀ f ∈ layout.fields, f.name = key → f.spare = true :=
    fun f hf hname => hspare f hf (hname ▸ hmem)
  have hspelled : (∀ f ∈ before ++ (ls, Tree.null) :: after, (spelling? f.1).isSome) ↔
      ∀ f ∈ before ++ after, (spelling? f.1).isSome := by
    simp only [List.forall_mem_append, List.forall_mem_cons, hkey, Option.isSome_some, true_and]
  simp only [Layout.Presents, Layout.gives_object, hspelled, List.filterMap_append,
    List.filterMap_cons_some hknown, nodup_keysOf_middle, hnot, not_false_eq_true, true_and]
  refine ⟨key, hmem, ?_, ?_⟩
  · rintro _ ⟨_, ⟨hall, hnodup, rfl⟩, hgiven, rfl⟩
    exact ⟨lookup_eq_none hnot, _, ⟨hall, hnodup, rfl⟩,
      (Layout.spare_or_mem_middle hrequired).mpr hgiven, (lookup_middle hnot).symm⟩
  · rintro _ ⟨_, ⟨hall, hnodup, rfl⟩, hgiven, rfl⟩
    exact ⟨_, ⟨_, ⟨hall, hnodup, rfl⟩, (Layout.spare_or_mem_middle hrequired).mp hgiven, rfl⟩,
      lookup_eq_none hnot, lookup_middle hnot⟩

/-- One of the fields that are given is changed. -/
theorem Layout.Alters.gives {layout : Layout σ α} {key : String} (hkey : key ∈ layout.names)
    {R : Tree → Tree → Prop} {d d' : Tree} (h : layout.Alters key R d d') {gs : List (String × Tree)}
    (hgives : layout.Gives d gs) : ∃ before after x x', R x x' ∧ gs = before ++ (key, x) :: after ∧
      layout.Gives d' (before ++ (key, x') :: after) := by
  cases h with
  | @field before after ls x x' hls hx =>
    obtain ⟨hspelled, hnodup, rfl⟩ := gives_object.mp hgives
    have hknown := fun y => List.filterMap_cons_some (l := after) (known?_of_spelling hls hkey y)
    refine ⟨before.filterMap layout.known?, after.filterMap layout.known?, x, x', hx, ?_, ?_⟩
    · rw [List.filterMap_append, hknown]
    · rw [List.filterMap_append, hknown, nodup_keysOf_middle] at hnodup
      rw [gives_object, List.filterMap_append, hknown, nodup_keysOf_middle]
      refine ⟨?_, hnodup, rfl⟩
      simpa only [List.forall_mem_append, List.forall_mem_cons] using hspelled
  | @item before after x x' hindex hx =>
    obtain ⟨hlength, rfl⟩ := gives_array.mp hgives
    obtain ⟨hbound, hindex⟩ := List.getElem?_eq_some_iff.mp hindex
    have hzip : ∀ y : Tree, layout.names.zip (before ++ y :: after) =
        (layout.names.take before.length).zip before ++
          (key, y) :: (layout.names.drop (before.length + 1)).zip after := fun y => by
      conv_lhs => rw [← List.take_append_drop before.length layout.names,
        List.drop_eq_getElem_cons hbound, hindex]
      rw [List.zip_append (List.length_take_of_le hbound.le), List.zip_cons_cons]
    refine ⟨_, _, x, x', hx, hzip x, ?_⟩
    rw [← hzip x', gives_array]
    exact ⟨by simpa using hlength, rfl⟩

/-- **A record is given something else under the key where its tree is changed**, and everything else as
before. -/
theorem Layout.Alters.presents {layout : Layout σ α} (hnames : layout.names.Nodup) {key : String}
    (hkey : key ∈ layout.names) {R : Tree → Tree → Prop} {d d' : Tree} (h : layout.Alters key R d d')
    {given : String → Option Tree} (hgiven : layout.Presents d given) :
    ∃ rest x x', R x x' ∧ rest key = none ∧ given = Function.update rest key (some x) ∧
      layout.Presents d' (Function.update rest key (some x')) := by
  obtain ⟨gs, hgives, hrequired, rfl⟩ := hgiven
  obtain ⟨before, after, x, x', hx, rfl, hgives'⟩ := h.gives hkey hgives
  have hnot := (nodup_keysOf_middle.mp (hgives.keys hnames).1).1
  refine ⟨_, x, x', hx, lookup_eq_none hnot, lookup_middle hnot, _, hgives', fun f hf => ?_,
    (lookup_middle hnot).symm⟩
  simpa only [mem_keysOf_middle] using hrequired f hf

/-! ### What is read of it -/

namespace Sense

variable {layout : Layout σ α} {sense : Sense layout} {Says : Nat → (String → Option Tree) → σ → Prop}

/-- A record is told by what it is given under its keys. -/
theorem Reports.record?_eq_some_iff_presents (h : sense.Reports Says) (hnames : layout.names.Nodup)
    {room : Nat} {d : Tree} {x : α} : sense.record? (room + 1) d = some x ↔ ∃ given draft,
      layout.Presents d given ∧ Says room given draft ∧ layout.finish draft = some x := by
  rw [h.record?_eq_some hnames]
  constructor
  · rintro ⟨gs, draft, hgives, hrequired, hsays, hx⟩
    exact ⟨_, draft, ⟨gs, hgives, hrequired, rfl⟩, hsays, hx⟩
  · rintro ⟨_, draft, ⟨gs, hgives, hrequired, rfl⟩, hsays, hx⟩
    exact ⟨gs, draft, hgives, hrequired, hsays, hx⟩

/-- **A record without a null is the same**, if what it says of the null is what it says of nothing. -/
theorem Reports.record?_omits (h : sense.Reports Says) (hnames : layout.names.Nodup)
    {keys : List String} (hkeys : ∀ key ∈ keys, key ∈ layout.names)
    (hspare : ∀ f ∈ layout.fields, f.name ∈ keys → f.spare = true)
    (hnull : ∀ {room given key draft}, key ∈ keys → given key = none →
      (Says room (Function.update given key (some .null)) draft ↔ Says room given draft))
    {d d' : Tree} (hd : Tree.Omits keys d d') (room : Nat) :
    sense.record? room d = sense.record? room d' := by
  cases room with
  | zero => rfl
  | succ room =>
    obtain ⟨key, hkey, hmore, hless⟩ := hd.presents layout hkeys hspare
    refine Option.ext fun x => ?_
    rw [h.record?_eq_some_iff_presents hnames, h.record?_eq_some_iff_presents hnames]
    constructor
    · rintro ⟨given, draft, hgiven, hsays, hx⟩
      obtain ⟨given', hgiven', hnone, rfl⟩ := hless given hgiven
      exact ⟨given', draft, hgiven', (hnull hkey hnone).mp hsays, hx⟩
    · rintro ⟨given, draft, hgiven, hsays, hx⟩
      obtain ⟨hnone, hgiven'⟩ := hmore given hgiven
      exact ⟨_, draft, hgiven', (hnull hkey hnone).mpr hsays, hx⟩

/-- What a record says of one tree under a key is like what it says of another there, if that can be
read. -/
def Follows (layout : Layout σ α) (Says : Nat → (String → Option Tree) → σ → Prop) (key : String)
    (R : Tree → Tree → Prop) (A : α → α → Prop) : Prop :=
  ∀ ⦃room given d d' draft x⦄, R d d' → given key = none →
    Says room (Function.update given key (some d)) draft → layout.finish draft = some x →
    ∃ draft' x', Says room (Function.update given key (some d')) draft' ∧
      layout.finish draft' = some x' ∧ A x x'

/-- What is read of a record is like what is read of it with something else under a key. -/
theorem Reports.exists_record? (h : sense.Reports Says) (hnames : layout.names.Nodup) {key : String}
    (hkey : key ∈ layout.names) {R : Tree → Tree → Prop} {A : α → α → Prop}
    (hfollows : Follows layout Says key R A) {d d' : Tree} (hd : layout.Alters key R d d') {room : Nat}
    {x : α} (hx : sense.record? (room + 1) d = some x) :
    ∃ x', sense.record? (room + 1) d' = some x' ∧ A x x' := by
  obtain ⟨given, draft, hgiven, hsays, hx⟩ := (h.record?_eq_some_iff_presents hnames).mp hx
  obtain ⟨rest, y, y', hy, hnone, rfl, hgiven'⟩ := hd.presents hnames hkey hgiven
  obtain ⟨draft', x', hsays', hx', hA⟩ := hfollows hy hnone hsays hx
  exact ⟨x', (h.record?_eq_some_iff_presents hnames).mpr ⟨_, draft', hgiven', hsays', hx'⟩, hA⟩

end Sense

/-- Either both are nothing or both are something, and the one like the other. -/
theorem optionRel_iff {β γ : Type} {A : β → γ → Prop} {x : Option β} {y : Option γ} :
    Option.Rel A x y ↔ (∀ a, x = some a → ∃ b, y = some b ∧ A a b) ∧
      ∀ b, y = some b → ∃ a, x = some a ∧ A a b := by
  constructor
  · intro h
    cases h with
    | none => exact ⟨nofun, nofun⟩
    | @some a b hab =>
      exact ⟨fun _ ha => ⟨b, rfl, by cases ha; exact hab⟩, fun _ hb => ⟨a, rfl, by cases hb; exact hab⟩⟩
  · rintro ⟨h, h'⟩
    cases x with
    | some a =>
      obtain ⟨b, rfl, hab⟩ := h a rfl
      exact .some hab
    | none =>
      cases y with
      | none => exact .none
      | some b =>
        obtain ⟨_, ha, -⟩ := h' b rfl
        cases ha

theorem optionRel_refl {β : Type} {A : β → β → Prop} (h : ∀ a, A a a) (x : Option β) :
    Option.Rel A x x := by
  cases x with
  | none => exact .none
  | some a => exact .some (h a)

theorem optionRel_mono {β γ : Type} {A B : β → γ → Prop} (h : ∀ a b, A a b → B a b) {x : Option β}
    {y : Option γ} (hxy : Option.Rel A x y) : Option.Rel B x y := by
  cases hxy with
  | none => exact .none
  | some hab => exact .some (h _ _ hab)

theorem optionRel_trans {β : Type} {A : β → β → Prop} (h : ∀ ⦃a b c⦄, A a b → A b c → A a c)
    {x y z : Option β} (hxy : Option.Rel A x y) (hyz : Option.Rel A y z) : Option.Rel A x z := by
  cases hxy with
  | none => exact hyz
  | some hab =>
    cases hyz with
    | some hbc => exact .some (h hab hbc)

theorem forall₂_trans {β : Type} {A : β → β → Prop} (h : ∀ ⦃a b c⦄, A a b → A b c → A a c)
    {xs ys zs : List β} (hxy : List.Forall₂ A xs ys) (hyz : List.Forall₂ A ys zs) :
    List.Forall₂ A xs zs := by
  induction hxy generalizing zs with
  | nil => exact hyz
  | cons hab _ ih =>
    cases hyz with
    | cons hbc hyz => exact .cons (h hab hbc) (ih hyz)

/-- **A record with something else under a key is read alike**, if what it says of the one is like what
it says of the other. -/
theorem Sense.Reports.record?_alters {layout : Layout σ α} {sense : Sense layout}
    {Says : Nat → (String → Option Tree) → σ → Prop} (h : sense.Reports Says)
    (hnames : layout.names.Nodup) {key : String} (hkey : key ∈ layout.names) {R : Tree → Tree → Prop}
    {A : α → α → Prop} (hfollows : Sense.Follows layout Says key R A)
    (hback : Sense.Follows layout Says key (Function.swap R) (Function.swap A)) {d d' : Tree}
    (hd : layout.Alters key R d d') (room : Nat) :
    Option.Rel A (sense.record? room d) (sense.record? room d') := by
  cases room with
  | zero => exact .none
  | succ room =>
    exact optionRel_iff.mpr ⟨fun _ => h.exists_record? hnames hkey hfollows hd,
      fun _ => h.exists_record? hnames hkey hback hd.flip⟩

/-- Of a field that may be missing, null tells what nothing tells. -/
theorem spareTold?_update_null {m : Nat → Tree → Option α} {room : Nat} {given : String → Option Tree}
    {key : String} (hnone : given key = none) (k : String) :
    spareTold? m room (Function.update given key (some .null) k) = spareTold? m room (given k) := by
  by_cases hk : k = key
  · subst hk
    rw [Function.update_self, hnone]
    rfl
  · rw [Function.update_of_ne hk]

/-! ### Lists -/

theorem mapM_rel {β γ : Type} {A : γ → γ → Prop} {f : β → Option γ} {xs ys : List β}
    (h : List.Forall₂ (fun x y => Option.Rel A (f x) (f y)) xs ys) :
    Option.Rel (List.Forall₂ A) (xs.mapM f) (ys.mapM f) := by
  induction h with
  | nil => exact .some .nil
  | @cons x y xs ys hxy _ ih =>
    simp only [List.mapM_cons]
    generalize f x = a, f y = b at hxy
    generalize xs.mapM f = as, ys.mapM f = bs at ih
    cases hxy with
    | none => exact .none
    | some hab =>
      cases ih with
      | none => exact .none
      | some hall => exact .some (.cons hab hall)

/-- A list is read alike if one of its items is. -/
theorem Tree.ItemAlters.items? {m : Nat → Tree → Option α} {R : Tree → Tree → Prop} {A : α → α → Prop}
    (hrefl : ∀ x, A x x) (hitem : ∀ ⦃room d d'⦄, R d d' → Option.Rel A (m room d) (m room d'))
    {d d' : Tree} (h : Tree.ItemAlters R d d') (room : Nat) :
    Option.Rel (List.Forall₂ A) (Tree.items? m room d) (Tree.items? m room d') := by
  cases h with
  | mk before after h =>
    cases room with
    | zero => exact .none
    | succ room =>
      have hsame : ∀ ts, List.Forall₂ (fun d d' => Option.Rel A (m room d) (m room d')) ts ts :=
        fun _ => List.forall₂_same.mpr fun d _ => optionRel_refl hrefl (m room d)
      exact mapM_rel (List.rel_append (hsame _) (.cons (hitem h) (hsame _)))

/-! ### Values -/

namespace Value

/-- **A null is left out** of an object. -/
inductive Omits (keys : List String) : Value → Value → Prop
  | mk {fs fs' : List (String × Value)} {key : String} (hmem : key ∈ keys)
      (hnull : lookup key fs = some .null) (hnone : lookup key fs' = none)
      (hsame : ∀ k, k ≠ key → lookup k fs' = lookup k fs) : Omits keys (.object fs) (.object fs')

theorem lookup_append (key : String) (fs gs : List (String × Value)) :
    lookup key (fs ++ gs) = (lookup key fs).or (lookup key gs) := by
  simp only [lookup, List.find?_append, Option.map_or]

theorem lookup_eq_none_of_forall {fs : List (String × Value)} {key : String}
    (h : ∀ f ∈ fs, f.1 ≠ key) : lookup key fs = none := by
  rw [lookup, Option.map_eq_none_iff, List.find?_eq_none]
  simpa using h

/-- An object has the same fields without a null that is given once. -/
theorem omits_sortFields {keys : List String} {key : String} {before after : List (String × Value)}
    (hmem : key ∈ keys) (hbefore : ∀ f ∈ before, f.1 ≠ key) (hafter : ∀ f ∈ after, f.1 ≠ key) :
    Omits keys (.object (sortFields (before ++ (key, .null) :: after)))
      (.object (sortFields (before ++ after))) := by
  have hb : lookup key before.reverse = none := lookup_eq_none_of_forall (by simpa using hbefore)
  have ha : lookup key after.reverse = none := lookup_eq_none_of_forall (by simpa using hafter)
  refine .mk hmem ?_ ?_ fun k hk => ?_ <;>
    simp only [lookup_sortFields, List.reverse_append, List.reverse_cons, lookup_append, lookup_cons,
      hb, ha, if_true]
  · rfl
  · rfl
  · rw [if_neg (Ne.symm hk)]
    simp [lookup]

end Value

/-- No field of an object has a key that is not spelled in it. -/
theorem key_of_mapM {f : Tree → Option Value} {gs : List (List Letter × Tree)}
    {fs : List (String × Value)} (h : gs.mapM (fieldTold f) = some fs) {key : String}
    (hgs : ∀ g ∈ gs, spelling? g.1 ≠ some key) : ∀ field ∈ fs, field.1 ≠ key := by
  induction gs generalizing fs with
  | nil =>
    cases h
    nofun
  | cons g gs ih =>
    obtain ⟨field, fs', hfield, hfs', rfl⟩ := mapM_cons_eq_some.mp h
    rw [List.forall_mem_cons] at hgs ⊢
    refine ⟨?_, ih hfs' hgs.2⟩
    rintro rfl
    exact hgs.1 (fieldTold_eq_some.mp hfield).1

theorem Tree.Omits.ne_null {keys : List String} {d d' : Tree} (h : Tree.Omits keys d d') :
    d ≠ .null ∧ d' ≠ .null := by
  cases h
  exact ⟨nofun, nofun⟩

/-- **The value of an object that lacks a null is the value that lacks it.** -/
theorem Tree.Omits.value? {keys : List String} {d d' : Tree} (h : Tree.Omits keys d d') (room : Nat) :
    Option.Rel (Value.Omits keys) (d.value? room) (d'.value? room) := by
  obtain ⟨before, after, hkey, hmem, honce⟩ := h
  rename_i ls key
  cases room with
  | zero => exact .none
  | succ room =>
    have hnull : fieldTold (Tree.value? room) (ls, Tree.null) = some (key, Value.null) :=
      fieldTold_eq_some.mpr ⟨hkey, Tree.value?_eq_null.mpr rfl⟩
    rw [List.forall_mem_append] at honce
    -- all other fields are told in both or in neither
    simp only [Tree.value?, Tree.valueOf?, Option.bind_some, List.mapM_append, List.mapM_cons, hnull]
    cases hbefore : before.mapM (fieldTold (Tree.value? room)) with
    | none => exact .none
    | some gs =>
      cases hafter : after.mapM (fieldTold (Tree.value? room)) with
      | none => exact .none
      | some hs =>
        exact .some (Value.omits_sortFields hmem (key_of_mapM hbefore honce.1)
          (key_of_mapM hafter honce.2))

end Parley.Json
