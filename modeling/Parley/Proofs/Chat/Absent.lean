import Parley.Chat.History
import Parley.Proofs.Json.Absence

/-!
# What a history lacks

Of a conversation the server keeps a summary and a list of entries, and most of what there is to say of
either may be null. It may be missing as well, and that makes no difference
(`Parley.Summary.record?_omits`, `Parley.HistoryEntry.record?_omits`): a summary without a null is the
same, and so is an entry, but for its metadata. These are kept as they are given, so that a null that is
left out of them is missing there too (`Parley.HistoryEntry.Alike`); what is looked up in them is not
changed by that, and so no message is (`Parley.HistoryEntry.Alike.toMessage_eq`).

Whatever nulls are left out of a body, one after the other, the list that is read of it is alike
(`Parley.listRecord?_alters_star`). Only the list itself is not to be null, although it may be missing:
the field has an empty list to fall back on and not a list that may be null, so a null is refused
(`Parley.listRecord?_of_null`) where nothing is an empty list (`Parley.listRecord?_of_omits`).
-/

namespace Parley

open Json (Decoder Decodes IsWritten Layout Sense Value Written askedTold? isSome_of_askedTold?
  isSome_of_spareTold? letters maxDepth spareTold?)

/-! ### Lists -/

section Lists

variable {α : Type} {name key : String} {item : Decoder α} {m : Nat → Json.Tree → Option α}

/-- What is told of a list that may be missing, and may not be null. -/
def listTold? (m : Nat → Json.Tree → Option α) (room : Nat) : Option Json.Tree → Option (List α)
  | none => some []
  | some d => Json.Tree.items? m room d

/-- What the one field of a list tells. -/
def listSense (name key : String) (hitem : Decodes item m) : Sense (listLayout name key item) where
  put? room k d _ := if k = key then Json.Tree.items? m room d else none
  reads room draft field h := by
    cases List.mem_singleton.mp h
    simpa only [if_true] using Json.decodes_listOf hitem room

/-- **What is said of a list** by the field that is given. -/
def ListSays (m : Nat → Json.Tree → Option α) (key : String) (room : Nat)
    (given : String → Option Json.Tree) (xs : List α) : Prop := listTold? m room (given key) = some xs

theorem listSays_update {room : Nat} {given : String → Option Json.Tree} {d : Json.Tree}
    {xs : List α} : ListSays m key room (Function.update given key (some d)) xs ↔
      Json.Tree.items? m room d = some xs := by
  rw [ListSays, Function.update_self]
  rfl

theorem listReports (hitem : Decodes item m) :
    (listSense name key hitem).Reports (ListSays m key) where
  nothing _ := rfl
  put {room given k d xs ys} _ _ hput := by
    obtain ⟨hk, htold⟩ := Option.ite_none_right_eq_some.mp hput
    subst hk
    exact listSays_update.mpr htold
  readable {room given k d xs} hname h hkey _ := by
    cases List.mem_singleton.mp hname
    rw [ListSays, hkey] at h
    simp only [listSense, if_true]
    exact Option.isSome_iff_exists.mpr ⟨xs, h⟩
  unique h h' := Option.some.inj (h.symm.trans h')

theorem nodup_names_listLayout : (listLayout name key item).names.Nodup := List.nodup_singleton key

theorem mem_names_listLayout : key ∈ (listLayout name key item).names := List.mem_singleton_self key

/-- **A list is read alike if one of its items is.** -/
theorem listRecord?_alters (hitem : Decodes item m) {R : Json.Tree → Json.Tree → Prop}
    {A : α → α → Prop} (hrefl : ∀ x, A x x)
    (halike : ∀ ⦃room d d'⦄, R d d' → Option.Rel A (m room d) (m room d')) {d d' : Json.Tree}
    (h : (listLayout name key item).Alters key (Json.Tree.ItemAlters R) d d') (room : Nat) :
    Option.Rel (List.Forall₂ A) ((listSense name key hitem).record? room d)
      ((listSense name key hitem).record? room d') := by
  refine (listReports hitem).record?_alters nodup_names_listLayout mem_names_listLayout ?_ ?_ h room
  · intro room given d d' xs ys hd _ hsays hx
    cases hx
    have hrel := Json.optionRel_iff.mp (hd.items? hrefl halike room)
    obtain ⟨ys, hys, hall⟩ := hrel.1 xs (listSays_update.mp hsays)
    exact ⟨ys, ys, listSays_update.mpr hys, rfl, hall⟩
  · intro room given d d' xs ys hd _ hsays hx
    cases hx
    have hrel := Json.optionRel_iff.mp (Json.Tree.ItemAlters.items? hrefl halike hd room)
    obtain ⟨ys, hys, hall⟩ := hrel.2 xs (listSays_update.mp hsays)
    exact ⟨ys, ys, listSays_update.mpr hys, rfl, hall⟩

/-- So it is if any number of items is, one after the other. -/
theorem listRecord?_alters_star (hitem : Decodes item m) {R : Json.Tree → Json.Tree → Prop}
    {A : α → α → Prop} (hrefl : ∀ x, A x x) (htrans : ∀ ⦃x y z⦄, A x y → A y z → A x z)
    (halike : ∀ ⦃room d d'⦄, R d d' → Option.Rel A (m room d) (m room d')) {d d' : Json.Tree}
    (h : Relation.ReflTransGen ((listLayout name key item).Alters key (Json.Tree.ItemAlters R)) d d')
    (room : Nat) : Option.Rel (List.Forall₂ A) ((listSense name key hitem).record? room d)
      ((listSense name key hitem).record? room d') := by
  induction h with
  | refl => exact Json.optionRel_refl (fun _ => List.forall₂_same.mpr fun x _ => hrefl x) _
  | tail _ h ih =>
    exact Json.optionRel_trans (A := List.Forall₂ A) (fun _ _ _ => Json.forall₂_trans htrans) ih
      (listRecord?_alters hitem hrefl halike h room)

/-- **A list that is null is refused.** -/
theorem listRecord?_of_null (hitem : Decodes item m) {d d' : Json.Tree} (h : Json.Tree.Omits [key] d d')
    (room : Nat) : (listSense name key hitem).record? room d = none := by
  cases room with
  | zero => rfl
  | succ room =>
    obtain ⟨k, hk, -, hless⟩ := h.presents (listLayout name key item) (fun _ => id)
      (fun f hf _ => by cases List.mem_singleton.mp hf; rfl)
    cases List.mem_singleton.mp hk
    refine Option.eq_none_iff_forall_ne_some.mpr fun xs hxs => ?_
    obtain ⟨given, _, hgiven, hsays, -⟩ :=
      ((listReports hitem).record?_eq_some_iff_presents nodup_names_listLayout).mp hxs
    obtain ⟨_, -, -, rfl⟩ := hless given hgiven
    have hnull := listSays_update.mp hsays
    cases room <;> cases hnull

/-- A list that is missing is empty. -/
theorem listRecord?_of_omits (hitem : Decodes item m) {d : Json.Tree}
    {fs : List (List Json.Letter × Json.Tree)} (h : Json.Tree.Omits [key] d (.object fs))
    (hfs : ∀ f ∈ fs, (Json.spelling? f.1).isSome) (room : Nat) :
    (listSense name key hitem).record? (room + 1) (.object fs) = some [] := by
  have hnone : fs.filterMap (listLayout name key item).known? = [] := by
    obtain ⟨before, after, hkey, hmem, honce⟩ := h
    cases List.mem_singleton.mp hmem
    refine List.filterMap_eq_nil_iff.mpr fun f hf => ?_
    refine Option.eq_none_iff_forall_ne_some.mpr fun g hg => ?_
    cases List.mem_singleton.mp (Layout.mem_names_of_known? hg)
    exact honce f hf (Layout.key_eq_of_known? hg)
  refine ((listReports hitem).record?_eq_some_iff_presents nodup_names_listLayout).mpr
    ⟨_, [], ⟨[], Layout.gives_object.mpr ⟨hfs, ?_, hnone.symm⟩, ?_, rfl⟩, rfl, rfl⟩
  · rw [hnone]
    exact List.nodup_nil
  · intro f hf
    cases List.mem_singleton.mp hf
    exact .inl rfl

end Lists

/-! ### Summaries -/

namespace Summary

/-- The number of messages that a tree tells. -/
def countTold? (_ : Nat) (d : Json.Tree) : Option Nat := (d.whole? .word32).map Int.toNat

/-- What the fields of a summary tell. -/
def sense : Sense layout where
  put? room key d x :=
    match key with
    | "id" => (d.whole? .int64).map fun y => { x with id := some y }
    | "title" =>
      (Json.Tree.optional? (fun _ => Json.Tree.text?) room d).map fun y => { x with title := y }
    | "message_count" =>
      (Json.Tree.optional? countTold? room d).map fun y => { x with messageCount := y }
    | "created_at" =>
      (Json.Tree.optional? (fun _ => Json.Tree.text?) room d).map fun y => { x with createdAt := y }
    | "updated_at" =>
      (Json.Tree.optional? (fun _ => Json.Tree.text?) room d).map fun y => { x with updatedAt := y }
    | _ => none
  reads room draft field h := by
    simp only [layout, List.mem_cons, List.not_mem_nil, or_false] at h
    rcases h with rfl | rfl | rfl | rfl | rfl
    · exact Json.decodes_int64.reads_put room _
    · exact (Json.decodes_optional Json.decodes_text).reads_put room _
    · exact (Json.decodes_optional Json.decodes_word32).reads_put room _
    · exact (Json.decodes_optional Json.decodes_text).reads_put room _
    · exact (Json.decodes_optional Json.decodes_text).reads_put room _

/-- **What is said of a conversation** by the fields that are given. -/
@[mk_iff]
structure Says (room : Nat) (given : String → Option Json.Tree) (x : Draft) : Prop where
  id : askedTold? (fun _ => Json.Tree.whole? .int64) room (given "id") = some x.id
  title : spareTold? (fun _ => Json.Tree.text?) room (given "title") = some x.title
  messageCount : spareTold? countTold? room (given "message_count") = some x.messageCount
  createdAt : spareTold? (fun _ => Json.Tree.text?) room (given "created_at") = some x.createdAt
  updatedAt : spareTold? (fun _ => Json.Tree.text?) room (given "updated_at") = some x.updatedAt

theorem reports : sense.Reports Says where
  nothing _ := ⟨rfl, rfl, rfl, rfl, rfl⟩
  put {room given key d draft draft'} hkey h hput := by
    obtain ⟨hid, htitle, hcount, hcreated, hupdated⟩ := h
    simp only [sense] at hput
    split at hput
    case h_6 => cases hput
    all_goals
      obtain ⟨x, hx, rfl⟩ := Option.map_eq_some_iff.mp hput
      constructor <;> simp [Function.update, hx, askedTold?, spareTold?] <;> assumption
  readable {room given key d draft} hname h hkey draft' := by
    obtain ⟨hid, htitle, hcount, hcreated, hupdated⟩ := h
    simp only [Layout.names, layout, List.map_cons, List.map_nil, List.mem_cons, List.not_mem_nil,
      or_false] at hname
    rcases hname with rfl | rfl | rfl | rfl | rfl <;> simp only [sense, Option.isSome_map]
    · exact isSome_of_askedTold? hkey hid
    · exact isSome_of_spareTold? hkey htitle
    · exact isSome_of_spareTold? hkey hcount
    · exact isSome_of_spareTold? hkey hcreated
    · exact isSome_of_spareTold? hkey hupdated
  unique {room given draft draft'} h h' := by
    obtain ⟨hid, htitle, hcount, hcreated, hupdated⟩ := h
    obtain ⟨hid', htitle', hcount', hcreated', hupdated'⟩ := h'
    cases draft
    cases draft'
    simp_all

/-- What may be null in a summary. -/
def spareKeys : List String := ["title", "message_count", "created_at", "updated_at"]

/-- **A summary without a null is the same.** -/
theorem record?_omits {d d' : Json.Tree} (h : Json.Tree.Omits spareKeys d d') (room : Nat) :
    sense.record? room d = sense.record? room d' := by
  refine reports.record?_omits (by decide) (by decide) (by decide) ?_ h room
  intro room given key draft hkey hnone
  have hid : "id" ≠ key := by
    rintro rfl
    exact absurd hkey (by decide)
  simp only [says_iff, Json.spareTold?_update_null hnone, Function.update_of_ne hid]

end Summary

/-! ### Entries -/

namespace HistoryEntry

/-- What the fields of an entry tell. -/
def sense : Sense layout where
  put? room key d e :=
    match key with
    | "id" => (Json.Tree.optional? Json.Tree.value? room d).map fun y => { e with id := y }
    | "role" =>
      (Json.Tree.optional? (fun _ => Json.Tree.text?) room d).map fun y => { e with role := y }
    | "content" =>
      (Json.Tree.optional? (fun _ => Json.Tree.text?) room d).map fun y => { e with content := y }
    | "created_at" =>
      (Json.Tree.optional? (fun _ => Json.Tree.text?) room d).map fun y => { e with createdAt := y }
    | "timestamp" =>
      (Json.Tree.optional? (fun _ => Json.Tree.text?) room d).map fun y => { e with timestamp := y }
    | "metadata" => (Json.Tree.optional? Json.Tree.value? room d).map fun y => { e with metadata := y }
    | _ => none
  reads room draft field h := by
    simp only [layout, List.mem_cons, List.not_mem_nil, or_false] at h
    rcases h with rfl | rfl | rfl | rfl | rfl | rfl
    · exact (Json.decodes_optional Json.decodes_anyValue).reads_put room _
    · exact (Json.decodes_optional Json.decodes_text).reads_put room _
    · exact (Json.decodes_optional Json.decodes_text).reads_put room _
    · exact (Json.decodes_optional Json.decodes_text).reads_put room _
    · exact (Json.decodes_optional Json.decodes_text).reads_put room _
    · exact (Json.decodes_optional Json.decodes_anyValue).reads_put room _

/-- **What is said of an entry** by the fields that are given. -/
@[mk_iff]
structure Says (room : Nat) (given : String → Option Json.Tree) (e : HistoryEntry) : Prop where
  id : spareTold? Json.Tree.value? room (given "id") = some e.id
  role : spareTold? (fun _ => Json.Tree.text?) room (given "role") = some e.role
  content : spareTold? (fun _ => Json.Tree.text?) room (given "content") = some e.content
  createdAt : spareTold? (fun _ => Json.Tree.text?) room (given "created_at") = some e.createdAt
  timestamp : spareTold? (fun _ => Json.Tree.text?) room (given "timestamp") = some e.timestamp
  metadata : spareTold? Json.Tree.value? room (given "metadata") = some e.metadata

theorem reports : sense.Reports Says where
  nothing _ := ⟨rfl, rfl, rfl, rfl, rfl, rfl⟩
  put {room given key d e e'} hkey h hput := by
    obtain ⟨hid, hrole, hcontent, hcreated, htimestamp, hmetadata⟩ := h
    simp only [sense] at hput
    split at hput
    case h_7 => cases hput
    all_goals
      obtain ⟨x, hx, rfl⟩ := Option.map_eq_some_iff.mp hput
      constructor <;> simp [Function.update, hx, spareTold?] <;> assumption
  readable {room given key d e} hname h hkey e' := by
    obtain ⟨hid, hrole, hcontent, hcreated, htimestamp, hmetadata⟩ := h
    simp only [Layout.names, layout, List.map_cons, List.map_nil, List.mem_cons, List.not_mem_nil,
      or_false] at hname
    rcases hname with rfl | rfl | rfl | rfl | rfl | rfl <;> simp only [sense, Option.isSome_map]
    · exact isSome_of_spareTold? hkey hid
    · exact isSome_of_spareTold? hkey hrole
    · exact isSome_of_spareTold? hkey hcontent
    · exact isSome_of_spareTold? hkey hcreated
    · exact isSome_of_spareTold? hkey htimestamp
    · exact isSome_of_spareTold? hkey hmetadata
  unique {room given e e'} h h' := by
    obtain ⟨hid, hrole, hcontent, hcreated, htimestamp, hmetadata⟩ := h
    obtain ⟨hid', hrole', hcontent', hcreated', htimestamp', hmetadata'⟩ := h'
    cases e
    cases e'
    simp_all

/-- What may be null in an entry. -/
def spareKeys : List String := ["id", "role", "content", "created_at", "timestamp", "metadata"]

/-- What may be null in the metadata of an entry. -/
def metadataKeys : List String := ["insights", "artifacts"]

/-- **A null is left out** of an entry or of its metadata. -/
inductive Omits : Json.Tree → Json.Tree → Prop
  | field {d d' : Json.Tree} (h : Json.Tree.Omits spareKeys d d') : Omits d d'
  | metadata {d d' : Json.Tree} (h : layout.Alters "metadata" (Json.Tree.Omits metadataKeys) d d') :
      Omits d d'

/-- Entries are alike if only their metadata differ, and by nulls that are left out. -/
inductive Alike : HistoryEntry → HistoryEntry → Prop
  | mk {e : HistoryEntry} {m : Option Value}
      (h : Option.Rel (Relation.ReflTransGen (Value.Omits metadataKeys)) e.metadata m) :
      Alike e { e with metadata := m }

theorem Alike.refl (e : HistoryEntry) : Alike e e :=
  .mk (Json.optionRel_refl (fun _ => .refl) e.metadata)

theorem Alike.trans {e e' e'' : HistoryEntry} (h : Alike e e') (h' : Alike e' e'') : Alike e e'' := by
  cases h with
  | mk h =>
    cases h' with
    | mk h' => exact .mk (Json.optionRel_trans (fun _ _ _ => Relation.ReflTransGen.trans) h h')

/-- What is said of an entry, its metadata apart. -/
theorem says_update_metadata {room : Nat} {given : String → Option Json.Tree} {d : Json.Tree}
    {e : HistoryEntry} (hnone : given "metadata" = none) :
    Says room (Function.update given "metadata" (some d)) e ↔
      Says room given { e with metadata := none } ∧
        Json.Tree.optional? Json.Tree.value? room d = some e.metadata := by
  simp only [says_iff, hnone, Function.update_self,
    Function.update_of_ne (by decide : "id" ≠ "metadata"),
    Function.update_of_ne (by decide : "role" ≠ "metadata"),
    Function.update_of_ne (by decide : "content" ≠ "metadata"),
    Function.update_of_ne (by decide : "created_at" ≠ "metadata"),
    Function.update_of_ne (by decide : "timestamp" ≠ "metadata"), spareTold?]
  tauto

/-- Metadata without a null are the metadata that lack it. -/
theorem metadata_omits {d d' : Json.Tree} (h : Json.Tree.Omits metadataKeys d d') (room : Nat) :
    Option.Rel (Option.Rel (Relation.ReflTransGen (Value.Omits metadataKeys)))
      (Json.Tree.optional? Json.Tree.value? room d) (Json.Tree.optional? Json.Tree.value? room d') := by
  rw [Json.Tree.optional?_of_ne_null h.ne_null.1, Json.Tree.optional?_of_ne_null h.ne_null.2]
  have hvalue := h.value? room
  generalize d.value? room = v, d'.value? room = v' at hvalue
  cases hvalue with
  | none => exact .none
  | some hv => exact .some (.some (.single hv))

/-- **An entry without a null is alike.** -/
theorem record?_omits {d d' : Json.Tree} (h : Omits d d') (room : Nat) :
    Option.Rel Alike (sense.record? room d) (sense.record? room d') := by
  cases h with
  | field h =>
    have hsame : sense.record? room d = sense.record? room d' := by
      refine reports.record?_omits (by decide) (by decide) (by decide) ?_ h room
      intro room given key e _ hnone
      simp only [says_iff, Json.spareTold?_update_null hnone]
    rw [hsame]
    exact Json.optionRel_refl Alike.refl _
  | metadata h =>
    refine reports.record?_alters (by decide) (by decide) ?_ ?_ h room
    · intro room given d d' e _ hd hnone hsays hx
      cases hx
      obtain ⟨hrest, hmetadata⟩ := (says_update_metadata hnone).mp hsays
      obtain ⟨m, hm, hlike⟩ := (Json.optionRel_iff.mp (metadata_omits hd room)).1 _ hmetadata
      exact ⟨{ e with metadata := m }, _, (says_update_metadata hnone).mpr ⟨hrest, hm⟩, rfl, .mk hlike⟩
    · intro room given d d' e _ hd hnone hsays hx
      cases hx
      obtain ⟨hrest, hmetadata⟩ := (says_update_metadata hnone).mp hsays
      obtain ⟨m, hm, hlike⟩ := (Json.optionRel_iff.mp (metadata_omits hd room)).2 _ hmetadata
      exact ⟨{ e with metadata := m }, _, (says_update_metadata hnone).mpr ⟨hrest, hm⟩, rfl,
        Alike.mk (e := { e with metadata := m }) hlike⟩

/-! ### What comes of alike entries -/

/-- Nothing is found under a key of metadata where there was null. -/
theorem get?_of_omits {keys : List String} {v v' : Value} (h : Value.Omits keys v v') (key : String) :
    v'.get? key = v.get? key ∨ v.get? key = some .null ∧ v'.get? key = none := by
  cases h with
  | @mk fs fs' k _ hnull hnone hsame =>
    by_cases hk : key = k
    · subst hk
      exact .inr ⟨hnull, hnone⟩
    · exact .inl (hsame key hk)

/-- The insights and the titles in metadata do not depend on nulls. -/
theorem linesIn_omits {m m' : Option Value}
    (h : Option.Rel (Relation.ReflTransGen (Value.Omits metadataKeys)) m m') (key : String) :
    linesIn (m'.bind (·.get? key)) = linesIn (m.bind (·.get? key)) ∧
      titlesIn (m'.bind (·.get? key)) = titlesIn (m.bind (·.get? key)) := by
  cases h with
  | none => exact ⟨rfl, rfl⟩
  | some h =>
    induction h with
    | refl => exact ⟨rfl, rfl⟩
    | tail _ h ih =>
      obtain hsame | ⟨hnull, hnone⟩ := get?_of_omits h key
      · simpa only [Option.bind_some, hsame] using ih
      -- there are no more lines in null than in nothing
      · simp only [Option.bind_some, hnull] at ih
        simp only [Option.bind_some, hnone]
        exact ih

/-- **Alike entries make the same message.** -/
theorem Alike.toMessage_eq {e e' : HistoryEntry} (h : Alike e e') (s : Supply) :
    e'.toMessage s = e.toMessage s := by
  cases h with
  | @mk m h =>
    have hinsights : ({ e with metadata := m } : HistoryEntry).insights = e.insights :=
      (linesIn_omits h "insights").1
    have htitles : ({ e with metadata := m } : HistoryEntry).titles = e.titles :=
      (linesIn_omits h "artifacts").2
    unfold toMessage
    rw [hinsights, htitles]
    rfl

theorem toMessages_eq {es es' : List HistoryEntry} (h : List.Forall₂ Alike es es') (s : Supply) :
    toMessages es' s = toMessages es s := by
  induction h generalizing s with
  | nil => rfl
  | cons h _ ih => simp only [toMessages, h.toMessage_eq, ih]

end HistoryEntry

/-! ### Bodies -/

/-- Nulls are left out of the summaries in a list of conversations, one after the other. -/
def Summary.ListOmits : Json.Tree → Json.Tree → Prop :=
  Relation.ReflTransGen ((listLayout "ConversationList" "conversations" Summary.decoder).Alters
    "conversations" (Json.Tree.ItemAlters (Json.Tree.Omits Summary.spareKeys)))

/-- Nulls are left out of the entries of a conversation, one after the other. -/
def HistoryEntry.ListOmits : Json.Tree → Json.Tree → Prop :=
  Relation.ReflTransGen ((listLayout "MessageList" "messages" HistoryEntry.decoder).Alters
    "messages" (Json.Tree.ItemAlters HistoryEntry.Omits))

theorem decodes_summaries : Decodes conversationList
    (listSense "ConversationList" "conversations" Summary.sense.decodes).record? :=
  Sense.decodes _

theorem decodes_entries :
    Decodes entryList (listSense "MessageList" "messages" HistoryEntry.sense.decodes).record? :=
  Sense.decodes _

/-- A list of conversations without nulls is the same. -/
theorem Summary.listRecord?_omits {d d' : Json.Tree} (h : ListOmits d d') (room : Nat) :
    (listSense "ConversationList" "conversations" Summary.sense.decodes).record? room d' =
      (listSense "ConversationList" "conversations" Summary.sense.decodes).record? room d := by
  have hsame : ∀ ⦃room d d'⦄, Json.Tree.Omits spareKeys d d' →
      Option.Rel Eq (sense.record? room d) (sense.record? room d') := fun room d d' h => by
    rw [record?_omits h room]
    exact Json.optionRel_refl (fun _ => rfl) _
  have hrel := listRecord?_alters_star Summary.sense.decodes (fun _ => rfl) (fun _ _ _ => Eq.trans)
    hsame h room
  rw [List.forall₂_eq_eq_eq] at hrel
  refine Option.ext fun x => ?_
  obtain ⟨hto, hfrom⟩ := Json.optionRel_iff.mp hrel
  constructor
  · intro hx
    obtain ⟨_, hy, rfl⟩ := hfrom x hx
    exact hy
  · intro hx
    obtain ⟨_, hy, rfl⟩ := hto x hx
    exact hy

/-- **Null is read as nothing**, but for the lists themselves. Whatever nulls are left out of the
summaries in a list of conversations, the same conversations are read of it, or none. Whatever nulls are
left out of the entries of a conversation and of their metadata, alike entries are read, of which the
same messages come, or none. But a list that is null is refused where one that is missing is empty. -/
theorem null_is_absence {body body' : String} {d d' : Json.Tree} (hbody : IsWritten body d)
    (hbody' : IsWritten body' d') :
    (Summary.ListOmits d d' → (Json.decode conversationList body').toOption =
      (Json.decode conversationList body).toOption) ∧
    (HistoryEntry.ListOmits d d' → Option.Rel (fun es es' => List.Forall₂ HistoryEntry.Alike es es' ∧
        ∀ s, HistoryEntry.toMessages es' s = HistoryEntry.toMessages es s)
      (Json.decode entryList body).toOption (Json.decode entryList body').toOption) ∧
    (Json.Tree.Omits ["conversations"] d d' → (Json.decode conversationList body).toOption = none ∧
      ∀ fs, d' = .object fs → (∀ f ∈ fs, (Json.spelling? f.1).isSome) →
        Json.decode conversationList body' = .ok []) ∧
    (Json.Tree.Omits ["messages"] d d' → (Json.decode entryList body).toOption = none ∧
      ∀ fs, d' = .object fs → (∀ f ∈ fs, (Json.spelling? f.1).isSome) →
        Json.decode entryList body' = .ok []) := by
  rw [decodes_summaries.toOption_decode hbody, decodes_summaries.toOption_decode hbody',
    decodes_entries.toOption_decode hbody, decodes_entries.toOption_decode hbody']
  refine ⟨fun h => Summary.listRecord?_omits h _, fun h => ?_, fun h => ⟨?_, ?_⟩, fun h => ⟨?_, ?_⟩⟩
  · have hrel := listRecord?_alters_star HistoryEntry.sense.decodes HistoryEntry.Alike.refl
      (fun _ _ _ => HistoryEntry.Alike.trans) (fun room _ _ h => HistoryEntry.record?_omits h room) h
      maxDepth
    refine Json.optionRel_mono (fun es es' hall => ⟨hall, fun s => ?_⟩) hrel
    exact HistoryEntry.toMessages_eq hall s
  · exact listRecord?_of_null _ h _
  · rintro fs rfl hfs
    exact decodes_summaries.decode_eq_ok.mpr ⟨_, hbody', listRecord?_of_omits _ h hfs _⟩
  · exact listRecord?_of_null _ h _
  · rintro fs rfl hfs
    exact decodes_entries.decode_eq_ok.mpr ⟨_, hbody', listRecord?_of_omits _ h hfs _⟩

/-- A role that is null is left out, and so are insights that are in the metadata of the same entry. -/
theorem null_is_absence_of_role :
    let body := "\x7b\"messages\":[\x7b\"role\":null,\"metadata\":\x7b\"insights\":null\x7d\x7d]\x7d"
    let body' := "\x7b\"messages\":[\x7b\"metadata\":\x7b\x7d\x7d]\x7d"
    (Json.decode entryList body).toOption.isSome ∧
      Option.Rel (fun es es' => List.Forall₂ HistoryEntry.Alike es es' ∧
          ∀ s, HistoryEntry.toMessages es' s = HistoryEntry.toMessages es s)
        (Json.decode entryList body).toOption (Json.decode entryList body').toOption := by
  have hnull : ∀ t, Written ('n' :: 'u' :: 'l' :: 'l' :: t) .null t :=
    fun _ => Json.written_iff.mpr .null
  -- the text of an entry and what is around it
  have hlist : ∀ {s : List Char} {d : Json.Tree}, (∀ t, Written (s ++ t) d t) →
      Written ("\x7b\"messages\":[".toList ++ s ++ [']', '\x7d'])
        (.object [(letters "messages", .array [d])]) [] := fun {s d} h => by
    rw [List.append_assoc]
    exact Json.written_iff.mpr (.object (.cons (.first .nil) (.of_plain "messages" (by decide)
      (Json.written_iff.mpr (.array (.cons (.first .nil) (h _) (.close .nil))))) (.close .nil)))
  have hentry : ∀ t, Written
      ("\x7b\"role\":null,\"metadata\":\x7b\"insights\":null\x7d\x7d".toList ++ t)
      (.object [(letters "role", .null), (letters "metadata", .object [(letters "insights", .null)])])
      t :=
    fun t => Json.written_iff.mpr (.object (.cons (.first .nil) (.of_plain "role" (by decide) (hnull _))
      (.cons (.comma .nil .nil) (.of_plain "metadata" (by decide) (Json.written_iff.mpr (.object
        (.cons (.first .nil) (.of_plain "insights" (by decide) (hnull _)) (.close .nil)))))
        (.close .nil))))
  have hentry' : ∀ t, Written ("\x7b\"metadata\":\x7b\x7d\x7d".toList ++ t)
      (.object [(letters "metadata", .object [])]) t :=
    fun t => Json.written_iff.mpr (.object (.cons (.first .nil) (.of_plain "metadata" (by decide)
      (Json.written_iff.mpr (.object (.close .nil)))) (.close .nil)))
  have hbody : IsWritten
      "\x7b\"messages\":[\x7b\"role\":null,\"metadata\":\x7b\"insights\":null\x7d\x7d]\x7d" _ :=
    Json.isWritten_of_toList (hlist hentry) rfl
  have hbody' : IsWritten "\x7b\"messages\":[\x7b\"metadata\":\x7b\x7d\x7d]\x7d" _ :=
    Json.isWritten_of_toList (hlist hentry') rfl
  have hstep : ∀ {d d' : Json.Tree}, HistoryEntry.Omits d d' → HistoryEntry.ListOmits
      (.object [(letters "messages", .array [d])]) (.object [(letters "messages", .array [d'])]) :=
    fun h => .single (.field [] [] (Json.spelling?_letters _) (.mk [] [] h))
  have hrole : HistoryEntry.Omits (.object [(letters "role", .null), (letters "metadata",
      .object [(letters "insights", .null)])]) (.object [(letters "metadata",
      .object [(letters "insights", .null)])]) :=
    .field (.mk [] [_] (Json.spelling?_letters "role") (by decide) (by decide))
  have hinsights : HistoryEntry.Omits (.object [(letters "metadata",
      .object [(letters "insights", .null)])]) (.object [(letters "metadata", .object [])]) :=
    .metadata (.field [] [] (Json.spelling?_letters "metadata")
      (.mk [] [] (Json.spelling?_letters "insights") (by decide) nofun))
  exact ⟨by decide +kernel,
    (null_is_absence hbody hbody').2.1 ((hstep hrole).trans (hstep hinsights))⟩

/-- **A list that is null is not read as one that is missing.** -/
theorem null_list_is_refused :
    (∃ d d', IsWritten "\x7b\"messages\":null\x7d" d ∧ IsWritten "\x7b\x7d" d' ∧
      Json.Tree.Omits ["messages"] d d') ∧
    (Json.decode entryList "\x7b\"messages\":null\x7d").toOption.isNone ∧
      Json.decode entryList "\x7b\x7d" = .ok [] ∧
    (Json.decode conversationList "\x7b\"conversations\":null\x7d").toOption.isNone ∧
      Json.decode conversationList "\x7b\x7d" = .ok [] := by
  have hnull : Written "\x7b\"messages\":null\x7d".toList (.object [(letters "messages", .null)]) [] :=
    Json.written_iff.mpr (.object (.cons (.first .nil) (.of_plain "messages" (by decide)
      (Json.written_iff.mpr .null)) (.close .nil)))
  have hempty : Written "\x7b\x7d".toList (.object []) [] :=
    Json.written_iff.mpr (.object (.close .nil))
  exact ⟨⟨_, _, Json.isWritten_of_toList hnull rfl, Json.isWritten_of_toList hempty rfl,
    .mk [] [] (Json.spelling?_letters _) (by decide) nofun⟩, by decide +kernel, rfl, by decide +kernel,
    rfl⟩

end Parley
