import Mathlib.Logic.Function.Basic
import Parley.Proofs.Json.Fields
import Parley.Proofs.Json.Record

/-!
# What is given to a record

A record may be written as an object or as an array, and the fields of an object come in any order.
What is left of that is which tree is given under which key (`Parley.Json.Layout.Gives`), no key twice.
A field that has to be there and one that may be left out or null tell of it what they can
(`Parley.Json.askedTold?`, `Parley.Json.spareTold?`).

So a record can be described field by field: as what is said of a draft by the trees that are given. If
that description follows what is put into the draft (`Parley.Json.Sense.Reports`), then a record is read
exactly if what is given says something of it (`Parley.Json.Sense.Reports.record?_eq_some`), in
whatever order it is given.
-/

namespace Parley.Json

variable {α σ : Type}

/-- What is told of a field that may be left out or null. -/
def spareTold? (m : Nat → Tree → Option α) (room : Nat) : Option Tree → Option (Option α)
  | none => some none
  | some d => Tree.optional? m room d

/-- What is told of a field that has to be there. -/
def askedTold? (m : Nat → Tree → Option α) (room : Nat) : Option Tree → Option (Option α)
  | none => some none
  | some d => (m room d).map some

/-- Whoever tells something of a field that is given can read it. -/
theorem isSome_of_askedTold? {m : Nat → Tree → Option α} {room : Nat} {o : Option Tree} {d : Tree}
    {y : Option α} (ho : o = some d) (h : askedTold? m room o = some y) : (m room d).isSome := by
  subst ho
  obtain ⟨x, hx, -⟩ := Option.map_eq_some_iff.mp h
  rw [hx]
  rfl

theorem isSome_of_spareTold? {m : Nat → Tree → Option α} {room : Nat} {o : Option Tree} {d : Tree}
    {y : Option α} (ho : o = some d) (h : spareTold? m room o = some y) :
    (Tree.optional? m room d).isSome := by
  subst ho
  exact Option.isSome_iff_exists.mpr ⟨y, h⟩

theorem exists_of_askedTold? {m : Nat → Tree → Option α} {room : Nat} {o : Option Tree} {x : α}
    (h : askedTold? m room o = some (some x)) : ∃ d, m room d = some x := by
  cases o with
  | none => cases h
  | some d =>
    obtain ⟨y, hy, heq⟩ := Option.map_eq_some_iff.mp h
    cases heq
    exact ⟨d, hy⟩

theorem exists_of_spareTold? {m : Nat → Tree → Option α} {room : Nat} {o : Option Tree} {x : α}
    (h : spareTold? m room o = some (some x)) : ∃ d, m room d = some x := by
  cases o with
  | none => cases h
  | some d =>
    by_cases hnull : d = .null
    · subst hnull
      cases h
    · rw [spareTold?, Tree.optional?_of_ne_null hnull] at h
      exact exists_of_askedTold? (o := some d) h

/-- The keys of the fields that are given. -/
def keysOf (gs : List (String × Tree)) : List String := gs.map Prod.fst

@[simp] theorem keysOf_nil : keysOf [] = [] := rfl

@[simp] theorem keysOf_cons (g : String × Tree) (gs : List (String × Tree)) :
    keysOf (g :: gs) = g.1 :: keysOf gs := rfl

theorem lookup_eq_none {gs : List (String × Tree)} {key : String} (h : key ∉ keysOf gs) :
    gs.lookup key = none := by
  rw [List.lookup_eq_none_iff]
  rintro g hg
  rw [bne_iff_ne]
  rintro rfl
  exact h (List.mem_map_of_mem hg)

/-- What is told of a field is told of one that is given. -/
theorem mem_keysOf_of_askedTold? {m : Nat → Tree → Option α} {room : Nat}
    {gs : List (String × Tree)} {key : String} {x : α}
    (h : askedTold? m room (gs.lookup key) = some (some x)) : key ∈ keysOf gs := by
  by_contra hkey
  rw [lookup_eq_none hkey] at h
  cases h

theorem keysOf_zip (names : List String) (ts : List Tree) :
    keysOf (names.zip ts) = names.take ts.length := by
  induction names generalizing ts with
  | nil => rw [List.zip_nil_left, List.take_nil, keysOf_nil]
  | cons name names ih =>
    cases ts with
    | nil => rfl
    | cons d ts => rw [List.zip_cons_cons, keysOf_cons, ih, List.length_cons, List.take_succ_cons]

namespace Layout

variable (layout : Layout σ α)

/-- The field of an object if it is one of a record. -/
def known? (f : List Letter × Tree) : Option (String × Tree) := do
  let key ← spelling? f.1
  if key ∈ layout.names then some (key, f.2) else none

/-- **The fields that a tree gives to a record**: those of an object that the record has, none of them
twice, or the items of an array in the order of the fields. -/
inductive Gives : Tree → List (String × Tree) → Prop
  | object {fs : List (List Letter × Tree)} (hspelled : ∀ f ∈ fs, (spelling? f.1).isSome)
      (hnodup : (keysOf (fs.filterMap layout.known?)).Nodup) :
      Gives (.object fs) (fs.filterMap layout.known?)
  | array {ts : List Tree} (hlength : ts.length ≤ layout.names.length) :
      Gives (.array ts) (layout.names.zip ts)

variable {layout}

theorem mem_names_of_known? {f : List Letter × Tree} {g : String × Tree}
    (h : layout.known? f = some g) : g.1 ∈ layout.names := by
  obtain ⟨key, -, h⟩ := Option.bind_eq_some_iff.mp h
  obtain ⟨hname, h⟩ := Option.ite_none_right_eq_some.mp h
  cases h
  exact hname

section Known

variable {ls : List Letter} {key : String} (hkey : spelling? ls = some key)

include hkey

theorem known?_of_spelling (hname : key ∈ layout.names) (d : Tree) :
    layout.known? (ls, d) = some (key, d) := by
  simp [known?, hkey, hname]

theorem known?_eq_none (hname : key ∉ layout.names) (d : Tree) : layout.known? (ls, d) = none := by
  simp [known?, hkey, hname]

end Known

/-- No key is given twice, and none that the record does not have. -/
theorem Gives.keys {d : Tree} {gs : List (String × Tree)} (hnames : layout.names.Nodup)
    (h : layout.Gives d gs) : (keysOf gs).Nodup ∧ ∀ key ∈ keysOf gs, key ∈ layout.names := by
  cases h with
  | object _ hnodup =>
    refine ⟨hnodup, fun key hkey => ?_⟩
    obtain ⟨g, hg, rfl⟩ := List.mem_map.mp hkey
    obtain ⟨f, -, hf⟩ := List.mem_filterMap.mp hg
    exact mem_names_of_known? hf
  | array =>
    rw [keysOf_zip]
    exact ⟨hnames.sublist (List.take_sublist _ _), fun _ => List.mem_of_mem_take⟩

end Layout

namespace Sense

variable {layout : Layout σ α} (sense : Sense layout)

/-- What is given is put into a draft, one field after the other. -/
def puts? (room : Nat) (gs : List (String × Tree)) (draft : σ) : Option σ :=
  gs.foldlM (fun draft g => sense.put? room g.1 g.2 draft) draft

theorem puts?_cons (room : Nat) (key : String) (d : Tree) (gs : List (String × Tree)) (draft : σ) :
    sense.puts? room ((key, d) :: gs) draft =
      (sense.put? room key d draft).bind (sense.puts? room gs) := rfl

/-- **The fields of an object fill a draft** if all keys are spelled and none that the record has comes
twice or has been seen before. -/
theorem fill?_eq_some {room : Nat} {fs : List (List Letter × Tree)} {seen seen' : List String}
    {draft draft' : σ} : sense.fill? room fs seen draft = some (draft', seen') ↔
      (∀ f ∈ fs, (spelling? f.1).isSome) ∧
      (keysOf (fs.filterMap layout.known?)).Nodup ∧
      (∀ key ∈ keysOf (fs.filterMap layout.known?), key ∉ seen) ∧
      sense.puts? room (fs.filterMap layout.known?) draft = some draft' ∧
      seen' = (keysOf (fs.filterMap layout.known?)).reverse ++ seen := by
  induction fs generalizing seen draft with
  | nil =>
    constructor
    · intro h
      cases h
      exact ⟨nofun, List.nodup_nil, nofun, rfl, rfl⟩
    · rintro ⟨-, -, -, hputs, rfl⟩
      cases hputs
      rfl
  | cons f fs ih =>
    obtain ⟨ls, d⟩ := f
    rw [List.forall_mem_cons]
    cases hspelling : spelling? ls with
    | none =>
      have hnone : sense.fill? room ((ls, d) :: fs) seen draft = none := by
        rw [fill?, hspelling]
        rfl
      simp [hnone]
    | some key =>
      by_cases hname : key ∈ layout.names
      · rw [List.filterMap_cons_some (Layout.known?_of_spelling hspelling hname d),
          sense.fill?_cons_of_mem hspelling hname, puts?_cons, keysOf_cons, List.nodup_cons,
          List.forall_mem_cons, Option.ite_none_left_eq_some]
        simp only [Option.bind_eq_some_iff, ih, List.reverse_cons, List.append_assoc,
          List.singleton_append, List.mem_cons, not_or]
        constructor
        · rintro ⟨hseen, draft', hput, hspelled, hnodup, hnew, hputs, hseen'⟩
          exact ⟨⟨rfl, hspelled⟩, ⟨fun hmem => (hnew key hmem).1 rfl, hnodup⟩,
            ⟨hseen, fun k hk => (hnew k hk).2⟩, ⟨draft', hput, hputs⟩, hseen'⟩
        · rintro ⟨⟨-, hspelled⟩, ⟨hkey, hnodup⟩, ⟨hseen, hnew⟩, ⟨draft', hput, hputs⟩, hseen'⟩
          exact ⟨hseen, draft', hput, hspelled, hnodup,
            fun k hk => ⟨fun heq => hkey (heq ▸ hk), hnew k hk⟩, hputs, hseen'⟩
      · rw [List.filterMap_cons_none (Layout.known?_eq_none hspelling hname d),
          sense.fill?_cons_of_not_mem hspelling hname, ih]
        simp

/-- The items of an array fill it if there are no more than fields, and only spare fields are left. -/
theorem fillItems?_eq_some {room : Nat} {fields : List (Field σ)} {ts : List Tree} {draft y : σ} :
    sense.fillItems? room fields ts draft = some y ↔ ts.length ≤ fields.length ∧
      (∀ f ∈ fields.drop ts.length, f.spare = true) ∧
      sense.puts? room ((fields.map (·.name)).zip ts) draft = some y := by
  induction fields generalizing ts draft with
  | nil => cases ts <;> simp [fillItems?, puts?]
  | cons field more ih =>
    cases ts with
    | nil =>
      have h : sense.fillItems? room more [] draft = some y ↔ _ := ih
      simp only [List.length_nil, Nat.zero_le, List.drop_zero, List.zip_nil_right, true_and] at h
      simp only [fillItems?, Option.ite_none_right_eq_some, h, List.length_nil, Nat.zero_le,
        List.drop_zero, List.zip_nil_right, true_and, List.forall_mem_cons, and_assoc]
    | cons d ts =>
      simp only [fillItems?, Option.bind_eq_bind, Option.bind_eq_some_iff, ih, List.length_cons,
        Nat.add_le_add_iff_right, List.drop_succ_cons, List.map_cons, List.zip_cons_cons, puts?_cons]
      constructor
      · rintro ⟨draft', hput, hlength, hspare, hputs⟩
        exact ⟨hlength, hspare, draft', hput, hputs⟩
      · rintro ⟨hlength, hspare, draft', hput, hputs⟩
        exact ⟨draft', hput, hlength, hspare, hputs⟩

/-- **A record is told by what is given to it**, if all that has to be given is. -/
theorem record?_eq_some (hnames : layout.names.Nodup) {room : Nat} {d : Tree} {x : α} :
    sense.record? (room + 1) d = some x ↔ ∃ gs draft, layout.Gives d gs ∧
      (∀ f ∈ layout.fields, f.spare = true ∨ f.name ∈ keysOf gs) ∧
      sense.puts? room gs layout.draft = some draft ∧ layout.finish draft = some x := by
  cases d with
  | object fs =>
    constructor
    · intro h
      obtain ⟨⟨draft, seen⟩, hfill, h⟩ := Option.bind_eq_some_iff.mp h
      obtain ⟨hspelled, hnodup, -, hputs, rfl⟩ := sense.fill?_eq_some.mp hfill
      obtain ⟨hall, hx⟩ := Option.ite_none_right_eq_some.mp h
      refine ⟨_, draft, .object hspelled hnodup, fun f hf => ?_, hputs, hx⟩
      simpa using List.all_eq_true.mp hall f hf
    · rintro ⟨gs, draft, hgives, hall, hputs, hx⟩
      cases hgives with
      | object hspelled hnodup =>
        have hfill := sense.fill?_eq_some.mpr
          ⟨hspelled, hnodup, fun _ _ => List.not_mem_nil, hputs, rfl⟩
        refine Option.bind_eq_some_iff.mpr ⟨_, hfill, Option.ite_none_right_eq_some.mpr ⟨?_, hx⟩⟩
        refine List.all_eq_true.mpr fun f hf => ?_
        simpa using hall f hf
  | array ts =>
    constructor
    · intro h
      obtain ⟨draft, hfill, hx⟩ := Option.bind_eq_some_iff.mp h
      obtain ⟨hlength, hspare, hputs⟩ := sense.fillItems?_eq_some.mp hfill
      refine ⟨_, draft, .array (by simpa [Layout.names] using hlength), fun f hf => ?_, hputs, hx⟩
      rw [← List.take_append_drop ts.length layout.fields, List.mem_append] at hf
      rw [keysOf_zip, Layout.names, ← List.map_take]
      exact hf.symm.imp (hspare f) List.mem_map_of_mem
    · rintro ⟨gs, draft, hgives, hall, hputs, hx⟩
      cases hgives with
      | array hlength =>
        refine Option.bind_eq_some_iff.mpr ⟨draft, sense.fillItems?_eq_some.mpr
          ⟨by simpa [Layout.names] using hlength, fun f hf => ?_, hputs⟩, hx⟩
        refine (hall f (List.mem_of_mem_drop hf)).resolve_right fun hkey => ?_
        -- the name of a field that is left out would be that of another
        rw [keysOf_zip] at hkey
        have hname : f.name ∈ layout.names.drop ts.length := by
          rw [Layout.names, ← List.map_drop]
          exact List.mem_map_of_mem hf
        exact List.disjoint_take_drop hnames (Nat.le_refl _) hkey hname
  | null | bool | number | string =>
    constructor
    · intro h
      cases h
    · rintro ⟨_, _, hgives, -⟩
      cases hgives

/-- **A draft is told by what is given**, whatever the order in which it is put in: nothing says what
the empty draft says, what is put in is said from then on, and no two drafts say the same. -/
structure Reports (Says : Nat → (String → Option Tree) → σ → Prop) : Prop where
  nothing (room : Nat) : Says room (fun _ => none) layout.draft
  put {room : Nat} {given : String → Option Tree} {key : String} {d : Tree} {draft draft' : σ}
    (hkey : given key = none) (h : Says room given draft)
    (hput : sense.put? room key d draft = some draft') :
    Says room (Function.update given key (some d)) draft'
  readable {room : Nat} {given : String → Option Tree} {key : String} {d : Tree} {draft : σ}
    (hname : key ∈ layout.names) (h : Says room given draft) (hkey : given key = some d) (draft' : σ) :
    (sense.put? room key d draft').isSome
  unique {room : Nat} {given : String → Option Tree} {draft draft' : σ} (h : Says room given draft)
    (h' : Says room given draft') : draft = draft'

variable {sense} {Says : Nat → (String → Option Tree) → σ → Prop}

/-- What is put into a draft, of which nothing has been given before, is said of it next to what has. -/
theorem Reports.puts?_eq_some_after (h : sense.Reports Says) {room : Nat} {gs : List (String × Tree)}
    {given : String → Option Tree} {draft draft' : σ} (hnodup : (keysOf gs).Nodup)
    (hnames : ∀ key ∈ keysOf gs, key ∈ layout.names) (hnew : ∀ key ∈ keysOf gs, given key = none)
    (hdraft : Says room given draft) : sense.puts? room gs draft = some draft' ↔
      Says room (fun key => (gs.lookup key).or (given key)) draft' := by
  induction gs generalizing given draft with
  | nil =>
    constructor
    · intro hputs
      cases hputs
      exact hdraft
    · exact fun hdraft' => congrArg some (h.unique hdraft hdraft')
  | cons g gs ih =>
    obtain ⟨key, d⟩ := g
    rw [keysOf_cons, List.nodup_cons] at hnodup
    rw [keysOf_cons, List.forall_mem_cons] at hnames hnew
    have hlookup : gs.lookup key = none := lookup_eq_none hnodup.1
    -- the first field is given before the others are put in, so none of these may be under its key
    have hover : (fun k => (((key, d) :: gs).lookup k).or (given k)) =
        fun k => (gs.lookup k).or (Function.update given key (some d) k) := by
      funext k
      by_cases hk : k = key
      · subst hk
        rw [List.lookup_cons_self, hlookup, Function.update_self]
        rfl
      · rw [List.lookup_cons, beq_false_of_ne hk, Function.update_of_ne hk]
    have hrest : ∀ k ∈ keysOf gs, Function.update given key (some d) k = none := fun k hk => by
      have hne : k ≠ key := by
        rintro rfl
        exact hnodup.1 hk
      rw [Function.update_of_ne hne]
      exact hnew.2 k hk
    rw [hover, puts?_cons, Option.bind_eq_some_iff]
    constructor
    · rintro ⟨draft₁, hput, hputs⟩
      exact (ih hnodup.2 hnames.2 hrest (h.put hnew.1 hdraft hput)).mp hputs
    · intro hsays
      have hgiven : (gs.lookup key).or (Function.update given key (some d) key) = some d := by
        rw [hlookup, Function.update_self]
        rfl
      obtain ⟨draft₁, hput⟩ := Option.isSome_iff_exists.mp (h.readable hnames.1 hsays hgiven draft)
      exact ⟨draft₁, hput, (ih hnodup.2 hnames.2 hrest (h.put hnew.1 hdraft hput)).mpr hsays⟩

/-- **What is put into the empty draft is what is given.** -/
theorem Reports.record?_eq_some (h : sense.Reports Says) (hnames : layout.names.Nodup) {room : Nat}
    {d : Tree} {x : α} : sense.record? (room + 1) d = some x ↔ ∃ gs draft, layout.Gives d gs ∧
      (∀ f ∈ layout.fields, f.spare = true ∨ f.name ∈ keysOf gs) ∧
      Says room (fun key => gs.lookup key) draft ∧ layout.finish draft = some x := by
  rw [sense.record?_eq_some hnames]
  refine exists_congr fun gs => exists_congr fun draft => and_congr_right fun hgives =>
    and_congr_right fun _ => and_congr_left fun _ => ?_
  obtain ⟨hnodup, hkeys⟩ := hgives.keys hnames
  have hputs : sense.puts? room gs layout.draft = some draft ↔ _ :=
    h.puts?_eq_some_after hnodup hkeys (fun _ _ => rfl) (h.nothing room)
  simpa using hputs

/-- **Something is said of every record that is read**, namely what it holds. -/
theorem Reports.exists_draft (h : sense.Reports Says) (hnames : layout.names.Nodup) {text : String}
    {x : α} (hread : decode layout.decoder text = .ok x) :
    ∃ room given draft, Says room given draft ∧ layout.finish draft = some x := by
  obtain ⟨d, -, hrecord⟩ := sense.decodes.decode_eq_ok.mp hread
  obtain ⟨gs, draft, -, -, hsays, hfinish⟩ := (h.record?_eq_some hnames).mp hrecord
  exact ⟨_, _, draft, hsays, hfinish⟩

end Sense

/-! ### Objects that have a value -/

section Values

variable {f : Tree → Option Value} {gs : List (List Letter × Tree)}
  {fs : List (String × Value)}

theorem fieldTold_eq_some {g : List Letter × Tree} {field : String × Value} :
    fieldTold f g = some field ↔ spelling? g.1 = some field.1 ∧ f g.2 = some field.2 := by
  obtain ⟨ls, d⟩ := g
  obtain ⟨key, v⟩ := field
  cases hspelling : spelling? ls <;> cases hv : f d <;> simp [fieldTold, hspelling, hv]

/-- The keys of an object that has a value are spelled. -/
theorem spelled_of_told (h : gs.mapM (fieldTold f) = some fs) : ∀ g ∈ gs, (spelling? g.1).isSome := by
  induction gs generalizing fs with
  | nil => nofun
  | cons g gs ih =>
    obtain ⟨field, fs', hfield, hfs', -⟩ := mapM_cons_eq_some.mp h
    rw [List.forall_mem_cons, (fieldTold_eq_some.mp hfield).1]
    exact ⟨rfl, ih hfs'⟩

/-- A record is given what an object that has a value has under its keys. -/
theorem known?_of_told (layout : Layout σ α) (h : gs.mapM (fieldTold f) = some fs) :
    keysOf (gs.filterMap layout.known?) = (fs.map Prod.fst).filter (· ∈ layout.names) ∧
    ∀ key ∈ layout.names, Option.Rel (fun d v => f d = some v)
      ((gs.filterMap layout.known?).lookup key) (Value.lookup key fs) := by
  induction gs generalizing fs with
  | nil =>
    cases h
    exact ⟨rfl, fun _ _ => .none⟩
  | cons g gs ih =>
    obtain ⟨⟨key, v⟩, fs', hfield, hfs', rfl⟩ := mapM_cons_eq_some.mp h
    obtain ⟨ls, d⟩ := g
    obtain ⟨hspelling, hv⟩ := fieldTold_eq_some.mp hfield
    obtain ⟨hkeys, hlookup⟩ := ih hfs'
    simp only at hspelling hv
    by_cases hname : key ∈ layout.names
    · rw [List.filterMap_cons_some (Layout.known?_of_spelling hspelling hname d)]
      refine ⟨by simp [hkeys, hname], fun k hk => ?_⟩
      rw [Value.lookup_cons]
      by_cases heq : key = k
      · subst heq
        rw [List.lookup_cons_self, if_pos rfl]
        exact .some hv
      · rw [List.lookup_cons, beq_false_of_ne (Ne.symm heq), if_neg heq]
        exact hlookup k hk
    · rw [List.filterMap_cons_none (Layout.known?_eq_none hspelling hname d)]
      refine ⟨by simp [hkeys, hname], fun k hk => ?_⟩
      have hne : key ≠ k := by
        rintro rfl
        exact hname hk
      rw [Value.lookup_cons, if_neg hne]
      exact hlookup k hk

end Values

end Parley.Json
