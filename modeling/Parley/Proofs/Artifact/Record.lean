import Parley.Artifact.Basic
import Parley.Proofs.Json.Fields
import Parley.Proofs.Json.Sheet
import Parley.Proofs.Time.Stamp

/-!
# An artifact that was written is read again

An artifact is read in two ways. Whoever fills in what is missing looks for each field under all of its
names (`Parley.Artifact.ofWire?`); whoever reads the records that are kept fills in nothing but a
description, and refuses a field that is given twice (`Parley.Artifact.decode_eq_ok`). What is written
has all its fields, each of them once and under its first name, so neither is in want of anything
(`Parley.Artifact.written_is_read`).

Two things are asked of the artifact. An empty identifier would be taken for none, and a time has to be
one that a stamp can tell.
-/

namespace Parley.Artifact

open Time
open Json (Decodes IsObject Sense Value askedTold? isSome_of_askedTold? isSome_of_spareTold? maxDepth
  mem_keysOf_of_askedTold? spareTold?)

/-! ### What a record of an artifact says -/

/-- The time that a tree tells. -/
def timeTold? (_ : Nat) (d : Json.Tree) : Option Instant :=
  d.text?.bind fun text => (Instant.ofText text).toOption

theorem decodes_stamp : Decodes Json.stamp timeTold? := by
  refine (Json.decodes_writtenAs _ _).congr fun room d => ?_
  rw [timeTold?]
  congr 1
  funext text
  cases Instant.ofText text <;> rfl

theorem isDated_of_timeTold? {room : Nat} {d : Json.Tree} {t : Instant}
    (h : timeTold? room d = some t) : t.IsDated := by
  obtain ⟨stamp, -, hstamp⟩ := Option.bind_eq_some_iff.mp h
  exact Instant.isDated_of_ofText (Instant.eq_ok_of_toOption hstamp)

/-- What the fields of an artifact tell. -/
def sense : Sense layout where
  put? room key d a :=
    match key with
    | "id" => d.text?.map fun x => { a with id := some x }
    | "artifact_type" => d.text?.map fun x => { a with tag := some x }
    | "title" => d.text?.map fun x => { a with title := some x }
    | "content" => (d.value? room).map fun x => { a with content := some x }
    | "description" =>
      (Json.Tree.optional? (fun _ => Json.Tree.text?) room d).map fun x => { a with description := x }
    | "created_at" => (timeTold? room d).map fun x => { a with createdAt := some x }
    | _ => none
  reads room draft field h := by
    simp only [layout, List.mem_cons, List.not_mem_nil, or_false] at h
    rcases h with rfl | rfl | rfl | rfl | rfl | rfl
    · exact Json.decodes_text.reads_put room _
    · exact Json.decodes_text.reads_put room _
    · exact Json.decodes_text.reads_put room _
    · exact Json.decodes_anyValue.reads_put room _
    · exact (Json.decodes_optional Json.decodes_text).reads_put room _
    · exact decodes_stamp.reads_put room _

/-- **What is said of an artifact** by the fields that are given. -/
structure Says (room : Nat) (given : String → Option Json.Tree) (a : Draft) : Prop where
  id : askedTold? (fun _ => Json.Tree.text?) room (given "id") = some a.id
  tag : askedTold? (fun _ => Json.Tree.text?) room (given "artifact_type") = some a.tag
  title : askedTold? (fun _ => Json.Tree.text?) room (given "title") = some a.title
  content : askedTold? Json.Tree.value? room (given "content") = some a.content
  description : spareTold? (fun _ => Json.Tree.text?) room (given "description") = some a.description
  createdAt : askedTold? timeTold? room (given "created_at") = some a.createdAt

theorem reports : sense.Reports Says where
  nothing _ := ⟨rfl, rfl, rfl, rfl, rfl, rfl⟩
  put {room given key d draft draft'} hkey h hput := by
    obtain ⟨hid, htag, htitle, hcontent, hdescription, hcreatedAt⟩ := h
    simp only [sense] at hput
    split at hput
    case h_7 => cases hput
    all_goals
      obtain ⟨x, hx, rfl⟩ := Option.map_eq_some_iff.mp hput
      constructor <;> simp [Function.update, hx, askedTold?, spareTold?] <;> assumption
  readable {room given key d draft} hname h hkey draft' := by
    obtain ⟨hid, htag, htitle, hcontent, hdescription, hcreatedAt⟩ := h
    simp only [Json.Layout.names, layout, List.map_cons, List.map_nil, List.mem_cons,
      List.not_mem_nil, or_false] at hname
    rcases hname with rfl | rfl | rfl | rfl | rfl | rfl <;>
      simp only [sense, Option.isSome_map]
    · exact isSome_of_askedTold? hkey hid
    · exact isSome_of_askedTold? hkey htag
    · exact isSome_of_askedTold? hkey htitle
    · exact isSome_of_askedTold? hkey hcontent
    · exact isSome_of_spareTold? hkey hdescription
    · exact isSome_of_askedTold? hkey hcreatedAt
  unique {room given draft draft'} h h' := by
    obtain ⟨hid, htag, htitle, hcontent, hdescription, hcreatedAt⟩ := h
    obtain ⟨hid', htag', htitle', hcontent', hdescription', hcreatedAt'⟩ := h'
    cases draft
    cases draft'
    simp_all

/-! ### The artifact of some fields -/

/-- A text that may be null or missing. -/
def spareText? : Option Value → Option (Option String)
  | none => some none
  | some .null => some none
  | some v => v.text?.map some

/-- **The artifact that fields describe**: all of them have to be there but for a description, and
nothing is filled in. -/
def ofFields? (field : String → Option Value) : Option Artifact := do
  return {
    id := ← (field "id").bind (·.text?)
    tag := ← (field "artifact_type").bind (·.text?)
    title := ← (field "title").bind (·.text?)
    content := ← field "content"
    description := ← spareText? (field "description")
    createdAt := ← ((field "created_at").bind (·.text?)).bind fun s => (Instant.ofText s).toOption }

theorem ofFields?_eq_some {field : String → Option Value} {a : Artifact} :
    ofFields? field = some a ↔ (field "id").bind (·.text?) = some a.id ∧
      (field "artifact_type").bind (·.text?) = some a.tag ∧
      (field "title").bind (·.text?) = some a.title ∧ field "content" = some a.content ∧
      spareText? (field "description") = some a.description ∧
      ((field "created_at").bind (·.text?)).bind (fun s => (Instant.ofText s).toOption) =
        some a.createdAt := by
  obtain ⟨id, tag, title, content, description, createdAt⟩ := a
  simp only [ofFields?, Option.bind_eq_bind, Option.pure_def]
  constructor
  · intro h
    obtain ⟨_, hid, h⟩ := Option.bind_eq_some_iff.mp h
    obtain ⟨_, htag, h⟩ := Option.bind_eq_some_iff.mp h
    obtain ⟨_, htitle, h⟩ := Option.bind_eq_some_iff.mp h
    obtain ⟨_, hcontent, h⟩ := Option.bind_eq_some_iff.mp h
    obtain ⟨_, hdescription, h⟩ := Option.bind_eq_some_iff.mp h
    obtain ⟨_, htime, h⟩ := Option.bind_eq_some_iff.mp h
    cases h
    exact ⟨hid, htag, htitle, hcontent, hdescription, htime⟩
  · rintro ⟨hid, htag, htitle, hcontent, hdescription, htime⟩
    simp only [hid, htag, htitle, hcontent, hdescription, htime, Option.bind_some]

/-! ### What is said of an artifact is what its fields describe -/

section Values

variable {room : Nat} {o : Option Json.Tree} {v : Option Value}
  (h : Option.Rel (fun d v => d.value? room = some v) o v)

include h

theorem askedText_iff {x : String} :
    askedTold? (fun _ => Json.Tree.text?) room o = some (some x) ↔ v.bind (·.text?) = some x := by
  cases h with
  | none => simp [askedTold?]
  | some h =>
    rw [askedTold?, Json.Tree.text?_of_value? h]
    simp

theorem askedValue_iff {x : Value} :
    askedTold? Json.Tree.value? room o = some (some x) ↔ v = some x := by
  cases h with
  | none => simp [askedTold?]
  | some h =>
    rw [askedTold?, h]
    simp

theorem askedTime_iff {t : Instant} : askedTold? timeTold? room o = some (some t) ↔
    (v.bind (·.text?)).bind (fun s => (Instant.ofText s).toOption) = some t := by
  cases h with
  | none => simp [askedTold?]
  | some h =>
    rw [askedTold?, timeTold?, Json.Tree.text?_of_value? h, Option.bind_some]
    simp only [Option.map_eq_some_iff, Option.some.injEq, exists_eq_right]

theorem spareText_iff {y : Option String} :
    spareTold? (fun _ => Json.Tree.text?) room o = some y ↔ spareText? v = some y := by
  cases h with
  | none => rfl
  | @some d v h =>
    by_cases hnull : d = .null
    · subst hnull
      obtain rfl : v = .null := by
        rw [Json.Tree.value?_eq_null.mpr rfl] at h
        exact (Option.some.inj h).symm
      rfl
    · have hne : v ≠ .null := by
        rintro rfl
        exact hnull (Json.Tree.value?_eq_null.mp h)
      rw [spareTold?, Json.Tree.optional?_of_ne_null hnull, Json.Tree.text?_of_value? h]
      cases v <;> first | rfl | exact absurd rfl hne

end Values

theorem finish_eq_some {draft : Draft} {a : Artifact} : layout.finish draft = some a ↔
    draft = ⟨some a.id, some a.tag, some a.title, some a.content, a.description, some a.createdAt⟩ := by
  obtain ⟨id, tag, title, content, description, createdAt⟩ := draft
  obtain ⟨id', tag', title', content', description', createdAt'⟩ := a
  cases id <;> cases tag <;> cases title <;> cases content <;> cases createdAt <;>
    simp [layout]

/-- **What is said of an artifact is what its fields describe.** -/
theorem says_iff {room : Nat} {given : String → Option Json.Tree} {field : String → Option Value}
    (h : ∀ key ∈ layout.names, Option.Rel (fun d v => d.value? room = some v) (given key) (field key))
    {a : Artifact} : (∃ draft, Says room given draft ∧ layout.finish draft = some a) ↔
      ofFields? field = some a := by
  have hid := h "id" (by decide)
  have htag := h "artifact_type" (by decide)
  have htitle := h "title" (by decide)
  have hcontent := h "content" (by decide)
  have hdescription := h "description" (by decide)
  have htime := h "created_at" (by decide)
  simp only [finish_eq_some, exists_eq_right]
  rw [ofFields?_eq_some, ← askedText_iff hid, ← askedText_iff htag, ← askedText_iff htitle,
    ← askedValue_iff hcontent, ← spareText_iff hdescription, ← askedTime_iff htime]
  constructor
  · exact fun ⟨h₁, h₂, h₃, h₄, h₅, h₆⟩ => ⟨h₁, h₂, h₃, h₄, h₅, h₆⟩
  · exact fun ⟨h₁, h₂, h₃, h₄, h₅, h₆⟩ => ⟨h₁, h₂, h₃, h₄, h₅, h₆⟩

/-- **An artifact is read from the text of an object** if its fields describe one and none of them is
given twice. -/
theorem decode_eq_ok {text : String} {fs : List (String × Value)} (htext : IsObject maxDepth text fs)
    {a : Artifact} : Json.decode decoder text = .ok a ↔
      ((fs.map Prod.fst).filter (· ∈ layout.names)).Nodup ∧
        ofFields? (fun key => Value.lookup key fs) = some a := by
  obtain ⟨gs, hgs, htold⟩ := Json.isObject_iff.mp htext
  obtain ⟨hkeys, hlookup⟩ := Json.known?_of_told layout htold
  have hnames : layout.names.Nodup := by decide
  rw [decoder, sense.decodes.decode_eq_ok, ← says_iff hlookup, ← hkeys]
  constructor
  · rintro ⟨d, hd, h⟩
    obtain rfl := hd.unique hgs
    obtain ⟨_, draft, hgives, -, hsays, hfinish⟩ := (reports.record?_eq_some hnames).mp h
    cases hgives with
    | object _ hnodup => exact ⟨hnodup, draft, hsays, hfinish⟩
  · rintro ⟨hnodup, draft, hsays, hfinish⟩
    refine ⟨_, hgs, (reports.record?_eq_some hnames).mpr ⟨_, draft,
      .object (Json.spelled_of_told htold) hnodup, fun f hf => ?_, hsays, hfinish⟩⟩
    rw [finish_eq_some] at hfinish
    subst hfinish
    simp only [layout, List.mem_cons, List.not_mem_nil, or_false] at hf
    rcases hf with rfl | rfl | rfl | rfl | rfl | rfl
    · exact .inr (mem_keysOf_of_askedTold? hsays.id)
    · exact .inr (mem_keysOf_of_askedTold? hsays.tag)
    · exact .inr (mem_keysOf_of_askedTold? hsays.title)
    · exact .inr (mem_keysOf_of_askedTold? hsays.content)
    · exact .inl rfl
    · exact .inr (mem_keysOf_of_askedTold? hsays.createdAt)

/-! ### What is written is read again -/

section Written

variable {a : Artifact} {gs fs : List (String × Value)} (h : a.toJson = .object gs)

include h

theorem nodup_keys_toJson : (gs.map Prod.fst).Nodup := by
  cases h
  cases a.description with
  | none =>
    change ["id", "artifact_type", "title", "content", "created_at"].Nodup
    decide
  | some d =>
    change ["id", "artifact_type", "title", "content", "description", "created_at"].Nodup
    decide

variable (hsame : ∀ key, Value.lookup key fs = Value.lookup key gs)

include hsame

/-- What is found in an artifact that is written. -/
theorem lookup_toJson : Value.lookup "id" fs = some (.string a.id) ∧
    Value.lookup "artifact_type" fs = some (.string a.tag) ∧
    Value.lookup "title" fs = some (.string a.title) ∧
    Value.lookup "content" fs = some a.content ∧
    Value.lookup "description" fs = a.description.map .string ∧
    Value.lookup "created_at" fs = some (.string a.createdAt.renderZulu) := by
  simp only [hsame]
  cases h
  cases a.description <;> exact ⟨rfl, rfl, rfl, rfl, rfl, rfl⟩

/-- **Whoever fills in what is missing has nothing to fill in.** -/
theorem ofWire?_toJson (hid : a.id ≠ "") (htime : a.createdAt.IsTold) (s : Supply) :
    ofWire? (.object fs) s = (some a, s) := by
  obtain ⟨id, tag, title, content, description, time⟩ := lookup_toJson h hsame
  have hgiven : givenTime? (.object fs) = some a.createdAt := by
    simp only [givenTime?, Value.get?, time, Option.bind_some, Value.text?]
    exact Instant.ofRfc3339?_renderZulu htime
  have hdescription : firstText ["description"] (.object fs) = a.description := by
    rw [firstText, List.findSome?_singleton, Value.get?, description]
    cases a.description <;> rfl
  have htag : firstText ["artifact_type", "artifactType", "type"] (.object fs) = some a.tag := by
    rw [firstText, List.findSome?_cons, Value.get?, tag]
    rfl
  have htitle : firstText ["title"] (.object fs) = some a.title := by
    rw [firstText, List.findSome?_singleton, Value.get?, title]
    rfl
  simp only [ofWire?, hgiven, hdescription, htag, htitle, Value.get?, id, givenId?,
    String.isEmpty_iff, hid, if_false, content, Option.getD_some]

/-- **Whoever fills in nothing misses nothing.** -/
theorem ofFields?_toJson (htime : a.createdAt.IsTold) :
    ofFields? (fun key => Value.lookup key fs) = some a := by
  obtain ⟨id, tag, title, content, description, time⟩ := lookup_toJson h hsame
  have hdescription : spareText? (Value.lookup "description" fs) = some a.description := by
    rw [description]
    cases a.description <;> rfl
  have htold : ((Value.lookup "created_at" fs).bind (·.text?)).bind
      (fun s => (Instant.ofText s).toOption) = some a.createdAt := by
    simp only [time, Option.bind_some, Value.text?, Instant.ofText_renderZulu htime]
    rfl
  exact ofFields?_eq_some.mpr ⟨by rw [id]; rfl, by rw [tag]; rfl, by rw [title]; rfl, content,
    hdescription, htold⟩

end Written

/-- **An artifact that is written is read for itself.** Whoever fills in what is missing, and whoever
does not, finds in the value of an artifact that has an identifier and a time that can be told all that
the artifact is, and takes neither an identifier nor a time from elsewhere; so it is with every text of
that value, whatever the order of its fields. -/
theorem written_is_read {a : Artifact} (hid : a.id ≠ "") (htime : a.createdAt.IsTold) :
    ∃ gs, a.toJson = .object gs ∧ (∀ s, ofWire? a.toJson s = (some a, s)) ∧
      ofFields? (fun key => Value.lookup key gs) = some a ∧
      ∀ fs text, fs.Perm gs → IsObject maxDepth text fs →
        Json.decode decoder text = .ok a ∧
        ∃ v, Json.parse text = .ok v ∧ ∀ s, ofWire? v s = (some a, s) := by
  obtain ⟨gs, h⟩ : ∃ gs, a.toJson = .object gs := ⟨_, rfl⟩
  have hgs := nodup_keys_toJson h
  refine ⟨gs, h, fun s => ?_, ofFields?_toJson h (fun _ => rfl) htime, fun fs text hperm htext => ?_⟩
  · rw [h]
    exact ofWire?_toJson h (fun _ => rfl) hid htime s
  have hsame := Value.lookup_perm hperm hgs
  have hfs : (fs.map Prod.fst).Nodup := (hperm.map Prod.fst).nodup_iff.mpr hgs
  refine ⟨(decode_eq_ok htext).mpr ⟨hfs.filter _, ofFields?_toJson h hsame htime⟩, _,
    Json.parse_eq_ok.mpr (Json.isText_object.mpr ⟨fs, htext, rfl⟩), fun s => ?_⟩
  refine ofWire?_toJson h (fun key => ?_) hid htime s
  rw [Value.lookup_sortFields]
  exact Value.lookup_perm ((List.reverse_perm fs).trans hperm) hgs key

/-- A report without a description, made half a second after the start of 1970 or in the leap second at
the end of 2016, is read for itself. -/
theorem written_is_read_of_report :
    let a : Artifact := ⟨"a", "Report", "", .array [.null], none, ⟨0, 500000000⟩⟩
    let b : Artifact := ⟨"b", "", "Minutes", .null, some "", ⟨1483228799, 1000000000⟩⟩
    a.createdAt.IsTold ∧ b.createdAt.IsTold ∧ ∀ s, ofWire? a.toJson s = (some a, s) ∧
      ofWire? b.toJson s = (some b, s) := by
  have hearly : (⟨0, 500000000⟩ : Instant).IsTold := ⟨by decide, by decide⟩
  have hleap : (⟨1483228799, 1000000000⟩ : Instant).IsTold := ⟨by decide +kernel, by decide⟩
  intro a b
  obtain ⟨_, -, ha, -⟩ := written_is_read (a := a) (by decide) hearly
  obtain ⟨_, -, hb, -⟩ := written_is_read (a := b) (by decide) hleap
  exact ⟨hearly, hleap, fun s => ⟨ha s, hb s⟩⟩

end Parley.Artifact
