import Parley.Chat.History
import Parley.Proofs.Render.Form

/-!
# One thing under several names

Servers do not agree on names. The type of an artifact, its time, the time of an entry and most of what
is told of a chart are looked for in several places one after the other, and each is to be taken from
the first place where there is something of use (`Parley.FirstOf`): a null, a value of another kind or
a blank text in front of it ought to make no difference.

Where each place is asked for something of use, that is what happens. But the two times and the
categories of a chart are taken from the first place where there is *anything*, and only then it is
seen whether that is of use. There what is of use further back is hidden
(`Parley.Hidden`) by whatever else stands in front of it, and is not taken; everywhere else it is
(`Parley.taken_unless_hidden`).
-/

namespace Parley

open Json (Value)
open Time

/-! ### The first of several places -/

section FirstOf

variable {κ α : Type} {has : κ → α → Prop}

/-- **What is taken** from the first of some places that has something. -/
inductive FirstOf (has : κ → α → Prop) : List κ → Option α → Prop
  | nowhere : FirstOf has [] none
  | here {k : κ} {ks : List κ} {x : α} (h : has k x) : FirstOf has (k :: ks) (some x)
  | later {k : κ} {ks : List κ} {y : Option α} (hnot : ∀ x, ¬ has k x) (h : FirstOf has ks y) :
      FirstOf has (k :: ks) y

/-- **Something is hidden** at the second of two places: there is something at the first, but nothing
that is of use. -/
def Hidden (has : κ → α → Prop) (there : κ → Prop) (first second : κ) : Prop :=
  there first ∧ (∀ x, ¬ has first x) ∧ ∃ x, has second x

/-- A search finds what is to be taken. -/
theorem firstOf_findSome? {f : κ → Option α} (hf : ∀ k x, has k x ↔ f k = some x) (ks : List κ) :
    FirstOf has ks (ks.findSome? f) := by
  induction ks with
  | nil => exact .nowhere
  | cons k ks ih =>
    rw [List.findSome?_cons]
    cases hk : f k with
    | some x => exact .here ((hf k x).mpr hk)
    | none =>
      refine .later (fun x hx => ?_) ih
      rw [hf, hk] at hx
      cases hx

/-- **Where the first place decides** at which there is anything, what is of use is taken from the first
place that has it unless it is hidden, and if it is nothing is taken. -/
theorem firstOf_or {β : Type} {raw : κ → Option β} {read : β → Option α}
    (hhas : ∀ k x, has k x ↔ (raw k).bind read = some x) (j k : κ) :
    (¬ Hidden has (fun k => ∃ w, raw k = some w) j k →
      FirstOf has [j, k] (((raw j).or (raw k)).bind read)) ∧
    (Hidden has (fun k => ∃ w, raw k = some w) j k → ((raw j).or (raw k)).bind read = none) := by
  have hsearch := firstOf_findSome? hhas [j, k]
  rw [List.findSome?_cons, List.findSome?_singleton] at hsearch
  cases hj : raw j with
  | none =>
    -- nothing is there, so nothing is hidden either
    rw [hj, Option.bind_none] at hsearch
    rw [Option.none_or]
    refine ⟨fun _ => hsearch, fun h => ?_⟩
    obtain ⟨w, hw⟩ := h.1
    rw [hj] at hw
    cases hw
  | some w =>
    rw [hj, Option.bind_some] at hsearch
    rw [Option.some_or, Option.bind_some]
    cases hw : read w with
    | some x =>
      rw [hw] at hsearch
      refine ⟨fun _ => hsearch, fun h => absurd ?_ (h.2.1 x)⟩
      rw [hhas, hj, Option.bind_some, hw]
    | none =>
      rw [hw] at hsearch
      refine ⟨fun h => ?_, fun _ => rfl⟩
      have hnot : ∀ x, ¬ has j x := fun x hx => by
        rw [hhas, hj, Option.bind_some, hw] at hx
        cases hx
      exact .later hnot (.later (fun x hx => h ⟨⟨w, hj⟩, hnot, x, hx⟩) .nowhere)

end FirstOf

/-! ### What is of use -/

namespace Json.Value

/-- A value has a text under a key. -/
def HasText (v : Value) (key text : String) : Prop := v.get? key = some (.string text)

/-- A value has a time under a key, as a time stamp of the standard's form. -/
def HasStamp (v : Value) (key : String) (time : Instant) : Prop :=
  ∃ text, v.HasText key text ∧ Instant.ofRfc3339? text = some time

/-- A value has a label along a path: a text that is not blank. -/
def HasLabel (v : Value) (path : List String) (label : String) : Prop :=
  ∃ text, v.at? path = some (.string text) ∧ Text.trim text = label ∧ label ≠ ""

/-- A value has a list along a path. -/
def HasList (v : Value) (path : List String) (items : List Value) : Prop :=
  v.at? path = some (.array items)

end Json.Value

/-- A text tells a time: one with an offset, or else one without. -/
def TellsTime (text : String) (time : Instant) : Prop :=
  Instant.ofRfc3339? text = some time ∨
    Instant.ofRfc3339? text = none ∧ Instant.ofLocal? text = some time

/-- A field that may be missing tells a time. -/
def FieldTellsTime (field : Option String) (time : Instant) : Prop :=
  ∃ text, field = some text ∧ TellsTime text time

section Use

variable (v : Value) (key : String) (path : List String) {text : String}

theorem text?_eq_some {v : Value} : v.text? = some text ↔ v = .string text := by
  cases v <;> simp [Value.text?]

theorem bind_text?_eq_some {o : Option Value} :
    o.bind (·.text?) = some text ↔ o = some (.string text) := by
  rw [Option.bind_eq_some_iff]
  constructor
  · rintro ⟨w, rfl, hw⟩
    rw [text?_eq_some.mp hw]
  · rintro rfl
    exact ⟨_, rfl, rfl⟩

theorem hasText_iff (text : String) : v.HasText key text ↔ (v.get? key).bind (·.text?) = some text :=
  bind_text?_eq_some.symm

theorem hasStamp_iff (time : Instant) : v.HasStamp key time ↔
    (v.get? key).bind (fun w => w.text?.bind Instant.ofRfc3339?) = some time := by
  rw [← Option.bind_assoc, Option.bind_eq_some_iff]
  simp only [Value.HasStamp, hasText_iff]

theorem hasLabel_iff (label : String) : v.HasLabel path label ↔ Chart.labelAt path v = some label := by
  unfold Chart.labelAt
  rw [Option.bind_eq_some_iff]
  simp only [bind_text?_eq_some, Value.HasLabel]
  refine exists_congr fun text => and_congr_right fun _ => ?_
  split
  · rename_i hempty
    rw [String.isEmpty_iff] at hempty
    simp [hempty, eq_comm]
  · rename_i hempty
    rw [String.isEmpty_iff] at hempty
    rw [Option.some.injEq]
    exact ⟨And.left, fun h => ⟨h, h ▸ hempty⟩⟩

theorem hasList_iff (items : List Value) :
    v.HasList path items ↔ (v.at? path).bind (·.items?) = some items := by
  unfold Value.HasList
  cases v.at? path with
  | none => simp
  | some w => cases w <;> simp [Value.items?]

theorem fieldTellsTime_iff (field : Option String) (time : Instant) : FieldTellsTime field time ↔
    field.bind (fun t => (Instant.ofRfc3339? t).or (Instant.ofLocal? t)) = some time := by
  rw [Option.bind_eq_some_iff]
  refine exists_congr fun text => and_congr_right fun _ => ?_
  rw [TellsTime, Option.or_eq_some_iff]

end Use

/-! ### Artifacts -/

namespace Artifact

/-- A time of use is hidden in the value of an artifact. -/
def StampHidden (v : Value) : Prop :=
  Hidden v.HasStamp (fun key => ∃ w, v.get? key = some w) "created_at" "createdAt"

/-- **An artifact takes** its type from the first field that holds a text, and its time from the first
that holds a time stamp unless that is hidden. -/
theorem taken (fs : List (String × Value)) (s : Supply) :
    ∃ a s' tag time, ofWire? (.object fs) s = (some a, s') ∧
      a.tag = Option.getD tag "UNKNOWN" ∧
      FirstOf (Value.object fs).HasText ["artifact_type", "artifactType", "type"] tag ∧
      a.createdAt = Option.getD time s.now ∧
      (¬ StampHidden (.object fs) →
        FirstOf (Value.object fs).HasStamp ["created_at", "createdAt"] time) ∧
      (StampHidden (.object fs) → time = none) := by
  have htag := firstOf_findSome? (hasText_iff (.object fs)) ["artifact_type", "artifactType", "type"]
  have htime := firstOf_or (hasStamp_iff (.object fs)) "created_at" "createdAt"
  have hgiven : givenTime? (.object fs) = (((Value.object fs).get? "created_at").or
      ((Value.object fs).get? "createdAt")).bind fun w => w.text?.bind Instant.ofRfc3339? := by
    rw [givenTime?, ← Option.bind_assoc]
    cases (Value.object fs).get? "created_at" <;> rfl
  rw [← hgiven] at htime
  cases hid : givenId? ((Value.object fs).get? "id") with
  | some id => exact ⟨_, _, _, _, by rw [ofWire?, hid], rfl, htag, rfl, htime⟩
  | none => exact ⟨_, _, _, _, by rw [ofWire?, hid], rfl, htag, rfl, htime⟩

end Artifact

/-! ### Entries -/

namespace HistoryEntry

/-- A time of use is hidden in an entry. -/
def TimeHidden (e : HistoryEntry) : Prop :=
  Hidden FieldTellsTime (fun field => ∃ text, field = some text) e.createdAt e.timestamp

/-- **An entry takes** its time from the first field that tells one unless that is hidden. -/
theorem taken (e : HistoryEntry) (s : Supply) :
    ∃ time, (e.toMessage s).1.createdAt = Option.getD time s.now ∧
      (¬ e.TimeHidden → FirstOf FieldTellsTime [e.createdAt, e.timestamp] time) ∧
      (e.TimeHidden → time = none) := by
  have htime := firstOf_or fieldTellsTime_iff e.createdAt e.timestamp
  have hgiven : e.time? = (e.createdAt.or e.timestamp).bind fun t =>
      (Instant.ofRfc3339? t).or (Instant.ofLocal? t) := by
    rw [time?]
    cases e.createdAt with
    | some t =>
      change _ = (Instant.ofRfc3339? t).or (Instant.ofLocal? t)
      cases h : Instant.ofRfc3339? t <;> simp [h]
    | none =>
      cases e.timestamp with
      | none => rfl
      | some t =>
        change _ = (Instant.ofRfc3339? t).or (Instant.ofLocal? t)
        cases h : Instant.ofRfc3339? t <;> simp [h]
  refine ⟨e.time?, ?_, ?_⟩
  · rfl
  · rw [hgiven]
    exact htime

end HistoryEntry

/-! ### Charts -/

namespace Chart

/-- Categories of use are hidden in a content. -/
def CategoriesHidden (c : Value) : Prop :=
  Hidden c.HasList (fun path => ∃ w, c.at? path = some w) ["categories"] ["xAxis", "categories"]

/-- A label is taken from the first place that has one. -/
theorem firstOf_firstLabel (paths : List (List String)) (c : Value) :
    FirstOf c.HasLabel paths (firstLabel paths c) :=
  firstOf_findSome? (hasLabel_iff c) paths

/-- **A chart takes** its kind, its title and its labels from the first place that has a label, and its
categories from the first that has a list unless that is hidden. -/
theorem taken {c : Value} {x : Chart} (h : ofContent c = .ok x) :
    ∃ kind y categories, x.kind = normalKind kind ∧
      FirstOf c.HasLabel [["type"], ["chart", "type"]] kind ∧
      FirstOf c.HasLabel [["chart_title"], ["title", "text"], ["title"]] x.title ∧
      FirstOf c.HasLabel [["x_axis_label"], ["xAxis", "title", "text"]] x.xLabel ∧
      x.yLabel = Option.getD y standardYLabel ∧
      FirstOf c.HasLabel [["y_axis_label"], ["yAxis", "title", "text"]] y ∧
      x.categories = (Option.getD categories []).map labelOf ∧
      (¬ CategoriesHidden c →
        FirstOf c.HasList [["categories"], ["xAxis", "categories"]] categories) ∧
      (CategoriesHidden c → categories = none) := by
  have hcategories := firstOf_or (hasList_iff c) ["categories"] ["xAxis", "categories"]
  cases c with
  | object fs =>
    simp only [ofContent] at h
    split at h
    · cases h
    · cases h
      refine ⟨_, _, _, rfl, firstOf_firstLabel _ _, firstOf_firstLabel _ _,
        firstOf_firstLabel _ _, rfl, firstOf_firstLabel _ _, categoriesOf_eq _, hcategories⟩
  | null | bool | number | string | array => cases h

end Chart

/-! ### All of them -/

/-- **What is of use is taken from the first place that has it, unless it is hidden.** For every value
of an artifact that is an object, every entry and every content of a chart: nothing that is of no use
stands in the way of a type, a kind, a title or the label of an axis. A time or a list of categories is
taken in the same way unless it is hidden, and then nothing is taken, so that the time is that of the
clock and there are no categories. -/
theorem taken_unless_hidden (fs : List (String × Value)) (e : HistoryEntry) (c : Value) (s : Supply) :
    (∃ a s' tag time, Artifact.ofWire? (.object fs) s = (some a, s') ∧
      a.tag = Option.getD tag "UNKNOWN" ∧
      FirstOf (Value.object fs).HasText ["artifact_type", "artifactType", "type"] tag ∧
      a.createdAt = Option.getD time s.now ∧
      (¬ Artifact.StampHidden (.object fs) →
        FirstOf (Value.object fs).HasStamp ["created_at", "createdAt"] time) ∧
      (Artifact.StampHidden (.object fs) → time = none)) ∧
    (∃ time, (e.toMessage s).1.createdAt = Option.getD time s.now ∧
      (¬ e.TimeHidden → FirstOf FieldTellsTime [e.createdAt, e.timestamp] time) ∧
      (e.TimeHidden → time = none)) ∧
    ∀ x, Chart.ofContent c = .ok x → ∃ kind y categories,
      x.kind = Chart.normalKind kind ∧
      FirstOf c.HasLabel [["type"], ["chart", "type"]] kind ∧
      FirstOf c.HasLabel [["chart_title"], ["title", "text"], ["title"]] x.title ∧
      FirstOf c.HasLabel [["x_axis_label"], ["xAxis", "title", "text"]] x.xLabel ∧
      x.yLabel = Option.getD y Chart.standardYLabel ∧
      FirstOf c.HasLabel [["y_axis_label"], ["yAxis", "title", "text"]] y ∧
      x.categories = (Option.getD categories []).map Chart.labelOf ∧
      (¬ Chart.CategoriesHidden c →
        FirstOf c.HasList [["categories"], ["xAxis", "categories"]] categories) ∧
      (Chart.CategoriesHidden c → categories = none) :=
  ⟨Artifact.taken fs s, HistoryEntry.taken e s, fun _ h => Chart.taken h⟩

/-- An artifact and an entry with a time under the second name only, and a chart with a blank title on
top and a number for its kind, of which the title and the kind stand further inside. -/
theorem taken_unless_hidden_of_blank_title :
    let fs : List (String × Value) := [("createdAt", .string "2025-11-06T10:00:00Z"), ("id", .null)]
    let e : HistoryEntry := { timestamp := some "2025-11-06T10:00:00" }
    let c : Value := .object [("categories", .array [.string "A"]), ("chart", .object [("type",
      .string "Pie")]), ("chart_title", .string " "), ("series", .array [.null]),
      ("title", .object [("text", .string "Map")]), ("type", .number (.integer 1))]
    (∃ a s' time, Artifact.ofWire? (.object fs) default = (some a, s') ∧
      a.createdAt = Option.getD time s'.now ∧
      FirstOf (Value.object fs).HasStamp ["created_at", "createdAt"] time) ∧
    (∃ time, (e.toMessage default).1.createdAt = Option.getD time (default : Supply).now ∧
      FirstOf FieldTellsTime [e.createdAt, e.timestamp] time) ∧
    ∃ x, Chart.ofContent c = .ok x ∧ x.kind = "pie" ∧ x.title = some "Map" ∧
      FirstOf c.HasLabel [["chart_title"], ["title", "text"], ["title"]] x.title ∧
      ∃ categories, x.categories = (Option.getD categories []).map Chart.labelOf ∧
        FirstOf c.HasList [["categories"], ["xAxis", "categories"]] categories := by
  intro fs e c
  obtain ⟨⟨a, s', _, time, ha, -, -, htime, hstamp, -⟩, ⟨time', htime', htells, -⟩, hchart⟩ :=
    taken_unless_hidden fs e c default
  have hshown : ¬ Artifact.StampHidden (.object fs) := fun ⟨⟨_, h⟩, _⟩ => by cases h
  have hshown' : ¬ e.TimeHidden := fun ⟨⟨_, h⟩, _⟩ => by cases h
  have hshown'' : ¬ Chart.CategoriesHidden c := fun h => h.2.1 [.string "A"] rfl
  have hnow : s'.now = (default : Supply).now := by
    rw [← show (Artifact.ofWire? (.object fs) default).2 = s' from congrArg Prod.snd ha]
    rfl
  obtain ⟨_, _, categories, -, -, htitle, -, -, -, hcategories, hlist, -⟩ := hchart _ rfl
  exact ⟨⟨a, s', time, ha, by rw [hnow]; exact htime, hstamp hshown⟩,
    ⟨time', htime', htells hshown'⟩, _, rfl, by decide +kernel, by decide +kernel, htitle,
    categories, hcategories, hlist hshown''⟩

/-- **Something of use can be hidden.** A time under the second name stands behind a null, the time of
an entry behind a text that tells none, and categories behind a null; none of them is taken. -/
theorem hidden_is_not_taken :
    let v : Value := .object [("createdAt", .string "2025-11-06T10:00:00Z"), ("created_at", .null),
      ("id", .string "a")]
    let e : HistoryEntry := { createdAt := some "soon", timestamp := some "2025-11-06T10:00:00" }
    let c : Value := .object [("categories", .null), ("series", .array [.object []]),
      ("xAxis", .object [("categories", .array [.string "A"])])]
    let t : Instant := ⟨1762423200, 0⟩
    (FirstOf v.HasStamp ["created_at", "createdAt"] (some t) ∧
      ∀ s, ((Artifact.ofWire? v s).1.map (·.createdAt)) = some s.now) ∧
    (FirstOf FieldTellsTime [e.createdAt, e.timestamp] (some t) ∧
      ∀ s, (e.toMessage s).1.createdAt = s.now) ∧
    (FirstOf c.HasList [["categories"], ["xAxis", "categories"]] (some [.string "A"]) ∧
      (Chart.ofContent c).toOption.map (·.categories) = some []) := by
  intro v e c t
  have hstamp : Instant.ofRfc3339? "2025-11-06T10:00:00Z" = some t := by decide +kernel
  have hlocal : Instant.ofRfc3339? "2025-11-06T10:00:00" = none ∧
      Instant.ofLocal? "2025-11-06T10:00:00" = some t := by decide +kernel
  have hsoon : Instant.ofRfc3339? "soon" = none ∧ Instant.ofLocal? "soon" = none := by
    decide +kernel
  refine ⟨⟨.later ?_ (.here ⟨_, rfl, hstamp⟩), fun s => rfl⟩,
    ⟨.later ?_ (.here ⟨_, rfl, .inr hlocal⟩), fun s => ?_⟩, ⟨.later ?_ (.here rfl), by decide +kernel⟩⟩
  · rintro x ⟨text, htext, -⟩
    cases htext
  · rintro x ⟨text, htext, htime⟩
    cases htext
    rcases htime with h | ⟨-, h⟩
    · cases hsoon.1.symm.trans h
    · cases hsoon.2.symm.trans h
  · have htime : e.time? = none := by
      simp only [HistoryEntry.time?, e, Option.bind_some, hsoon]
    change e.time?.getD s.now = s.now
    rw [htime, Option.getD_none]
  · intro items hitems
    cases hitems

end Parley
