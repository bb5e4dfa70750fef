import Parley.Chat.Message
import Parley.Files.Disk
import Parley.Proofs.Artifact.Record
import Parley.Proofs.Chat.Absent
import Parley.Proofs.Json.Kept
import Parley.Proofs.Json.Printing
import Parley.Proofs.Numeral.Whole

/-!
# What is written of a conversation is read again

A message, what the server says of a conversation, and the session that is kept between two runs are
written as objects, and whoever reads one of them asks for its fields by their names. The quotation
marks and line breaks in a text, a text that is missing, and a time to the nanosecond all come back as
they were (`Parley.Message.decode_render_eq_ok`, `Parley.Summary.decode_render_eq_ok`,
`Parley.SavedSession.ofText_toText_eq_ok`), and so do the fields of a question, which the server reads
and not the program (`Parley.Question.parse_render`).

Not every time is one of the calendar, and not every whole number is one that a field may hold. What is
outside of that can be written and is refused when it is read, so that what comes back is said exactly:
a time has to be dated (`Parley.Time.Instant.IsDated`) and a number within its range.
-/

namespace Parley

open Numeral
open Json (Holds IsWide Layout Sense Value askedTold? exists_of_askedTold? exists_of_spareTold?
  isObject_indented isObject_render isSome_of_askedTold? isSome_of_spareTold? spareTold?)

/-- A list that is given and not null tells what its value tells. -/
theorem listTold?_of_holds {α : Type} {m : Nat → Json.Tree → Option α} {room : Nat}
    {o : Option Json.Tree} {v : Value} {xs : List α} (h : Holds room o (some v))
    (hm : ∀ d, d.value? room = some v → Json.Tree.items? m room d = some xs) :
    listTold? m room o = some xs := by
  cases h with
  | some h => exact hm _ h

/-! ### Messages -/

/-- A role is known by its name. -/
theorem Role.named?_name (r : Role) : Json.named? Role.byName r.name = some r := by
  cases r <;> rfl

namespace Message

/-- What the fields of a message tell. -/
def sense : Sense layout where
  put? room key d m :=
    match key with
    | "id" => d.text?.map fun x => { m with id := some x }
    | "role" => (d.named? Role.byName room).map fun x => { m with role := some x }
    | "content" => d.text?.map fun x => { m with content := some x }
    | "html" =>
      (Json.Tree.optional? (fun _ => Json.Tree.text?) room d).map fun x => { m with html := x }
    | "created_at" => (Artifact.timeTold? room d).map fun x => { m with createdAt := some x }
    | "artifact_refs" =>
      (Json.Tree.items? (fun _ => Json.Tree.text?) room d).map fun x => { m with refs := x }
    | _ => none
  reads room draft field h := by
    simp only [layout, List.mem_cons, List.not_mem_nil, or_false] at h
    rcases h with rfl | rfl | rfl | rfl | rfl | rfl
    · exact Json.decodes_text.reads_put room _
    · exact Json.decodes_nameOf.reads_put room _
    · exact Json.decodes_text.reads_put room _
    · exact (Json.decodes_optional Json.decodes_text).reads_put room _
    · exact Artifact.decodes_stamp.reads_put room _
    · exact (Json.decodes_listOf Json.decodes_text).reads_put room _

/-- **What is said of a message** by the fields that are given. -/
structure Says (room : Nat) (given : String → Option Json.Tree) (m : Draft) : Prop where
  id : askedTold? (fun _ => Json.Tree.text?) room (given "id") = some m.id
  role : askedTold? (Json.Tree.named? Role.byName) room (given "role") = some m.role
  content : askedTold? (fun _ => Json.Tree.text?) room (given "content") = some m.content
  html : spareTold? (fun _ => Json.Tree.text?) room (given "html") = some m.html
  createdAt : askedTold? Artifact.timeTold? room (given "created_at") = some m.createdAt
  refs : listTold? (fun _ => Json.Tree.text?) room (given "artifact_refs") = some m.refs

theorem reports : sense.Reports Says where
  nothing _ := ⟨rfl, rfl, rfl, rfl, rfl, rfl⟩
  put {room given key d draft draft'} hkey h hput := by
    obtain ⟨hid, hrole, hcontent, hhtml, hcreated, hrefs⟩ := h
    simp only [sense] at hput
    split at hput
    case h_7 => cases hput
    all_goals
      obtain ⟨x, hx, rfl⟩ := Option.map_eq_some_iff.mp hput
      constructor <;> simp [Function.update, hx, askedTold?, spareTold?, listTold?] <;> assumption
  readable {room given key d draft} hname h hkey draft' := by
    obtain ⟨hid, hrole, hcontent, hhtml, hcreated, hrefs⟩ := h
    simp only [Layout.names, layout, List.map_cons, List.map_nil, List.mem_cons, List.not_mem_nil,
      or_false] at hname
    rcases hname with rfl | rfl | rfl | rfl | rfl | rfl <;> simp only [sense, Option.isSome_map]
    · exact isSome_of_askedTold? hkey hid
    · exact isSome_of_askedTold? hkey hrole
    · exact isSome_of_askedTold? hkey hcontent
    · exact isSome_of_spareTold? hkey hhtml
    · exact isSome_of_askedTold? hkey hcreated
    · rw [hkey] at hrefs
      exact Option.isSome_iff_exists.mpr ⟨_, hrefs⟩
  unique {room given draft draft'} h h' := by
    obtain ⟨hid, hrole, hcontent, hhtml, hcreated, hrefs⟩ := h
    obtain ⟨hid', hrole', hcontent', hhtml', hcreated', hrefs'⟩ := h'
    cases draft
    cases draft'
    simp_all

theorem finish_eq_some {draft : Draft} {m : Message} : layout.finish draft = some m ↔
    draft = ⟨some m.id, some m.role, some m.content, m.html, some m.createdAt, m.refs⟩ := by
  obtain ⟨id, role, content, html, createdAt, refs⟩ := draft
  obtain ⟨id', role', content', html', createdAt', refs'⟩ := m
  cases id <;> cases role <;> cases content <;> cases createdAt <;> simp [layout]

/-- The fields of a message that is written; the HTML is left out if there is none. -/
def fields (m : Message) : List (String × Value) :=
  [("id", .string m.id), ("role", .string m.role.name), ("content", .string m.content)] ++
    (m.html.map fun h => ("html", .string h)).toList ++
    [("created_at", .string m.createdAt.renderZulu),
      ("artifact_refs", .array (m.refs.map .string))]

variable {m : Message}

theorem keys_fields : m.fields.map Prod.fst = ["id", "role", "content"] ++
    (if m.html.isSome then ["html"] else []) ++ ["created_at", "artifact_refs"] := by
  unfold fields
  cases m.html <;> rfl

theorem isPrintable_fields {room : Nat} : ∀ f ∈ m.fields, f.2.IsPrintable (room + 1) := by
  have hrefs : Value.IsPrintable (room + 1) (.array (m.refs.map .string)) := by
    refine .array fun v hv => ?_
    obtain ⟨x, -, rfl⟩ := List.mem_map.mp hv
    exact .string x
  unfold fields
  cases m.html <;> simp [Value.IsPrintable.string, hrefs]

/-- What is found in a message that is written. -/
theorem lookup_fields : Value.lookup "id" m.fields = some (.string m.id) ∧
    Value.lookup "role" m.fields = some (.string m.role.name) ∧
    Value.lookup "content" m.fields = some (.string m.content) ∧
    Value.lookup "html" m.fields = m.html.map .string ∧
    Value.lookup "created_at" m.fields = some (.string m.createdAt.renderZulu) ∧
    Value.lookup "artifact_refs" m.fields = some (.array (m.refs.map .string)) := by
  unfold fields
  cases m.html <;> exact ⟨rfl, rfl, rfl, rfl, rfl, rfl⟩

/-- **The fields of a message say what it is.** -/
theorem says_fields (hdated : m.createdAt.IsDated) {room : Nat} {given : String → Option Json.Tree}
    (hgiven : ∀ key ∈ layout.names, Holds room (given key) (Value.lookup key m.fields)) : Says room
      given ⟨some m.id, some m.role, some m.content, m.html, some m.createdAt, m.refs⟩ := by
  obtain ⟨id, role, content, html, createdAt, refs⟩ := lookup_fields (m := m)
  constructor
  · exact Holds.asked (id ▸ hgiven "id" (by decide)) fun _ => Json.Tree.text?_of_string
  · refine Holds.asked (role ▸ hgiven "role" (by decide)) fun d hd => ?_
    rw [Json.Tree.named?_of_string hd, Role.named?_name]
  · exact Holds.asked (content ▸ hgiven "content" (by decide)) fun _ => Json.Tree.text?_of_string
  · have hhtml : Holds room (given "html") (m.html.map .string) := html ▸ hgiven "html" (by decide)
    exact hhtml.spare_map (fun _ => nofun) fun _ _ _ => Json.Tree.text?_of_string
  · refine Holds.asked (createdAt ▸ hgiven "created_at" (by decide)) fun d hd => ?_
    rw [Artifact.timeTold?, Json.Tree.text?_of_string hd, Option.bind_some,
      Time.Instant.ofText_renderZulu_of_isDated hdated]
    rfl
  · exact listTold?_of_holds (refs ▸ hgiven "artifact_refs" (by decide)) fun _ =>
      Json.Tree.items?_of_strings

/-- **A message is read from the line that it is written on**, if its time is one of the calendar. -/
theorem decode_render_eq_ok :
    Json.decode decoder m.toJson.render = .ok m ↔ m.createdAt.IsDated := by
  constructor
  · intro h
    obtain ⟨_, _, draft, hsays, hfinish⟩ := reports.exists_draft (by decide) h
    rw [finish_eq_some] at hfinish
    subst hfinish
    obtain ⟨d, hd⟩ := exists_of_askedTold? hsays.createdAt
    exact Artifact.isDated_of_timeTold? hd
  · intro hdated
    refine reports.decode_of_isObject (by decide) (isObject_render isPrintable_fields) ?_ ?_
      (fun _ _ => says_fields hdated) rfl
    -- the keys are known but for that of the HTML
    all_goals
      rw [keys_fields]
      cases m.html.isSome <;> decide

end Message

/-! ### Numbers -/

/-- The numbers of a range are of 64 bits if the ends of the range are. -/
theorem isWide_of_holds {r : Range} (hleast : IsWide r.least) (hgreatest : IsWide r.greatest)
    {i : Int} (h : r.holds i = true) : IsWide i := by
  obtain ⟨hi, hi'⟩ := Range.holds_iff.mp h
  exact ⟨hleast.1.trans hi, hi'.trans_lt hgreatest.2⟩

theorem isWide_of_int64 {i : Int} (h : Range.int64.holds i = true) : IsWide i :=
  isWide_of_holds ⟨by decide, by decide⟩ ⟨by decide, by decide⟩ h

theorem isWide_of_word32 {i : Int} (h : Range.word32.holds i = true) : IsWide i :=
  isWide_of_holds ⟨by decide, by decide⟩ ⟨by decide, by decide⟩ h

/-- The number of a conversation, if there is one, is within the range of its field. -/
def IsNumbered (conversation : Option Int) : Prop :=
  ∀ i, conversation = some i → Range.int64.holds i = true

theorem isPrintable_elim {α : Type} {room : Nat} {o : Option α} {f : α → Value}
    (h : ∀ x, o = some x → (f x).IsPrintable room) : (o.elim .null f).IsPrintable room := by
  cases o with
  | none => exact .null
  | some x => exact h x rfl

/-! ### Summaries -/

namespace Summary

theorem finish_eq_some {draft : Draft} {c : Summary} : layout.finish draft = some c ↔
    draft = ⟨some c.id, c.title, c.messageCount, c.createdAt, c.updatedAt⟩ := by
  obtain ⟨id, title, messageCount, createdAt, updatedAt⟩ := draft
  obtain ⟨id', title', messageCount', createdAt', updatedAt'⟩ := c
  cases id <;> simp [layout]

/-- The numbers of a summary are within the ranges of their fields. -/
structure IsRanged (c : Summary) : Prop where
  id : Range.int64.holds c.id = true
  messageCount : ∀ n, c.messageCount = some n → Range.word32.holds n = true

/-- The fields of a summary that is written, null being what is not known. -/
def fields (c : Summary) : List (String × Value) :=
  [("id", .number (.integer c.id)), ("title", c.title.elim .null .string),
    ("message_count", c.messageCount.elim .null fun n => .number (.integer n)),
    ("created_at", c.createdAt.elim .null .string), ("updated_at", c.updatedAt.elim .null .string)]

variable {c : Summary}

theorem toJson_eq : c.toJson = .object c.fields := by
  obtain ⟨id, title, messageCount, createdAt, updatedAt⟩ := c
  cases title <;> cases messageCount <;> cases createdAt <;> cases updatedAt <;> rfl

theorem IsRanged.isPrintable (h : c.IsRanged) {room : Nat} :
    ∀ f ∈ c.fields, f.2.IsPrintable room := by
  have htext : ∀ o : Option String, (o.elim Value.null .string).IsPrintable room := fun o =>
    isPrintable_elim fun x _ => .string x
  have hid : Value.IsPrintable room (.number (.integer c.id)) := .integer (isWide_of_int64 h.id)
  have hcount : Value.IsPrintable room
      (c.messageCount.elim .null fun n => .number (.integer n)) :=
    isPrintable_elim fun n hn => .integer (isWide_of_word32 (h.messageCount n hn))
  simp only [fields, List.forall_mem_cons, htext, hid, hcount, true_and]
  exact List.forall_mem_nil _

/-- **The fields of a summary say what it is.** -/
theorem IsRanged.says_fields (h : c.IsRanged) {room : Nat} {given : String → Option Json.Tree}
    (hgiven : ∀ key ∈ layout.names, Holds room (given key) (Value.lookup key c.fields)) :
    Says room given ⟨some c.id, c.title, c.messageCount, c.createdAt, c.updatedAt⟩ := by
  have hid : Holds room (given "id") (some (.number (.integer c.id))) := hgiven "id" (by decide)
  have htitle : Holds room (given "title") (some (c.title.elim .null .string)) :=
    hgiven "title" (by decide)
  have hcount : Holds room (given "message_count")
      (some (c.messageCount.elim .null fun n => .number (.integer n))) :=
    hgiven "message_count" (by decide)
  have hcreated : Holds room (given "created_at") (some (c.createdAt.elim .null .string)) :=
    hgiven "created_at" (by decide)
  have hupdated : Holds room (given "updated_at") (some (c.updatedAt.elim .null .string)) :=
    hgiven "updated_at" (by decide)
  constructor
  · exact hid.asked fun _ => Json.Tree.whole?_of_integer h.id
  · exact htitle.spare_elim (fun _ => nofun) fun _ _ _ => Json.Tree.text?_of_string
  · refine hcount.spare_elim (fun _ => nofun) fun n hn d hd => ?_
    rw [countTold?, Json.Tree.whole?_of_integer (h.messageCount n hn) hd]
    rfl
  · exact hcreated.spare_elim (fun _ => nofun) fun _ _ _ => Json.Tree.text?_of_string
  · exact hupdated.spare_elim (fun _ => nofun) fun _ _ _ => Json.Tree.text?_of_string

/-- **A summary is read from the line that it is written on**, if its numbers are within range. -/
theorem decode_render_eq_ok : Json.decode decoder c.toJson.render = .ok c ↔ c.IsRanged := by
  constructor
  · intro h
    obtain ⟨_, _, draft, hsays, hfinish⟩ := reports.exists_draft (by decide) h
    rw [finish_eq_some] at hfinish
    subst hfinish
    obtain ⟨d, hd⟩ := exists_of_askedTold? hsays.id
    refine ⟨Json.Tree.holds_of_whole? hd, fun n hn => ?_⟩
    have hcount := hsays.messageCount
    rw [hn] at hcount
    obtain ⟨d, hd⟩ := exists_of_spareTold? hcount
    obtain ⟨i, hi, hin⟩ := Option.map_eq_some_iff.mp hd
    -- it is read as a number that may have a sign, but none below zero is in the range
    have hholds := Json.Tree.holds_of_whole? hi
    have hnonneg : 0 ≤ i := (Range.holds_iff.mp hholds).1
    rwa [← hin, Int.toNat_of_nonneg hnonneg]
  · intro h
    have hkeys : c.fields.map Prod.fst =
        ["id", "title", "message_count", "created_at", "updated_at"] := rfl
    rw [toJson_eq]
    refine reports.decode_of_isObject (by decide) (isObject_render h.isPrintable) ?_ ?_
      (fun _ _ => h.says_fields) rfl
    all_goals
      rw [hkeys]
      decide

end Summary

/-! ### The saved session -/

namespace SavedSession

/-- What the field of a session tells. -/
def sense : Sense layout where
  put? room key d _ :=
    match key with
    | "conversation_id" =>
      (Json.Tree.optional? (fun _ => Json.Tree.whole? .int64) room d).map fun x => ⟨x⟩
    | _ => none
  reads room draft field h := by
    cases List.mem_singleton.mp h
    exact (Json.decodes_optional Json.decodes_int64).reads_put room _

/-- **What is said of a session** by the field that is given. -/
def Says (room : Nat) (given : String → Option Json.Tree) (s : SavedSession) : Prop :=
  spareTold? (fun _ => Json.Tree.whole? .int64) room (given "conversation_id") = some s.conversation

theorem reports : sense.Reports Says where
  nothing _ := rfl
  put {room given key d draft draft'} hkey h hput := by
    simp only [sense] at hput
    split at hput
    · obtain ⟨x, hx, rfl⟩ := Option.map_eq_some_iff.mp hput
      simp [Says, spareTold?, hx]
    · cases hput
  readable {room given key d draft} hname h hkey draft' := by
    cases List.mem_singleton.mp hname
    simp only [sense, Option.isSome_map]
    exact isSome_of_spareTold? hkey h
  unique {room given draft draft'} h h' := by
    cases draft
    cases draft'
    exact congrArg _ (Option.some.inj (h.symm.trans h'))

variable {s : SavedSession}

theorem toJson_eq : s.toJson =
    .object [("conversation_id", s.conversation.elim .null fun i => .number (.integer i))] := by
  obtain ⟨conversation⟩ := s
  cases conversation <;> rfl

theorem ofText_eq_ok {text : String} : ofText text = .ok s ↔ Json.decode decoder text = .ok s := by
  unfold ofText
  cases Json.decode decoder text with
  | ok s' => exact ⟨fun h => congrArg _ (Except.ok.inj h), fun h => congrArg _ (Except.ok.inj h)⟩
  | error e => exact ⟨nofun, nofun⟩

/-- **A session is read from the lines that it is written on**, if its conversation is within range. -/
theorem ofText_toText_eq_ok : ofText s.toText = .ok s ↔ IsNumbered s.conversation := by
  rw [ofText_eq_ok]
  constructor
  · intro h i hi
    obtain ⟨_, _, draft, hsays, hfinish⟩ := reports.exists_draft (by decide) h
    cases hfinish
    rw [Says, hi] at hsays
    obtain ⟨d, hd⟩ := exists_of_spareTold? hsays
    exact Json.Tree.holds_of_whole? hd
  · intro h
    rw [toText, toJson_eq]
    refine reports.decode_of_isObject (List.nodup_singleton _) (isObject_indented ?_) ?_ ?_
      (fun room given hgiven => ?_) rfl
    · refine List.forall_mem_singleton.mpr (isPrintable_elim fun i hi => ?_)
      exact .integer (isWide_of_int64 (h i hi))
    · exact List.nodup_singleton _
    · intro f hf
      cases List.mem_singleton.mp hf
      exact .inl rfl
    · have hconversation : Holds room (given "conversation_id")
          (some (s.conversation.elim .null fun i => .number (.integer i))) :=
        hgiven "conversation_id" (List.mem_singleton_self _)
      exact hconversation.spare_elim (fun _ => nofun) fun i hi _ =>
        Json.Tree.whole?_of_integer (h i hi)

end SavedSession

/-! ### Questions -/

namespace Question

/-- The fields of a question that is written, in the order of their keys. -/
def fields (q : Question) : List (String × Value) :=
  (q.conversation.map fun i => ("conversation_id", .number (.integer i))).toList ++
    (q.persona.map fun p => ("persona", .string p)).toList ++ [("query", .string q.text)]

variable {q : Question}

theorem keysIncrease_fields : Value.KeysIncrease q.fields := by
  unfold fields
  cases q.conversation <;> cases q.persona
  · change ["query"].Pairwise (· < ·)
    decide
  · change ["persona", "query"].Pairwise (· < ·)
    decide
  · change ["conversation_id", "query"].Pairwise (· < ·)
    decide
  · change ["conversation_id", "persona", "query"].Pairwise (· < ·)
    decide

/-- The fields of a question as it is sent, the text first. -/
def sent (q : Question) : List (String × Value) :=
  [("query", .string q.text)] ++
    (q.conversation.map fun i => ("conversation_id", .number (.integer i))).toList ++
    (q.persona.map fun p => ("persona", .string p)).toList

theorem perm_sent : q.fields.Perm q.sent := by
  rw [fields, sent, List.append_assoc [_]]
  exact List.perm_append_comm

theorem isPrintable_sent (h : IsNumbered q.conversation) {room : Nat} :
    ∀ f ∈ q.sent, f.2.IsPrintable room := by
  intro f hf
  simp only [sent, List.mem_append, List.mem_singleton, Option.mem_toList, Option.map_eq_some_iff] at hf
  rcases hf with (rfl | ⟨i, hi, rfl⟩) | ⟨p, -, rfl⟩
  · exact .string q.text
  · exact .integer (isWide_of_int64 (h i hi))
  · exact .string p

/-- **A question is read for the text and the number that it holds**, whoever reads it. -/
theorem parse_render (h : IsNumbered q.conversation) :
    Json.parse q.toJson.render = .ok (.object q.fields) :=
  Json.parse_eq_ok.mpr (Json.isText_object.mpr
    ⟨_, isObject_render (isPrintable_sent h), Value.sortFields_eq perm_sent keysIncrease_fields⟩)

end Question

end Parley
