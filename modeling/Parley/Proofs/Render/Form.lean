import Parley.Proofs.Json.Fields
import Parley.Render.Chart

/-!
# One chart in many forms

What is told of a chart may stand in two places, on top of the content or further inside, where a
charting library looks for it; a title may also stand alone in place of what it would be inside of.
Two things stand inside of the same object, the categories and the label of the horizontal axis, and
each has its own place whether or not the other one is there.

So a content is looked at as a *sketch*: what is told of the chart, each thing once, wherever it stands
(`Parley.Chart.Tells`). The chart, or why there is none, is made of the sketch alone
(`Parley.Chart.ofContent_of_tells`), so that it makes no difference in which form it was told. A
sketch can be told in each of the forms (`Parley.Chart.Form.tells_content`).
-/

namespace Parley

open Json (Value)

namespace Json.Value

variable {v : Value} {key : String} {path : List String}

@[simp] theorem at?_nil : v.at? [] = some v := rfl

@[simp] theorem at?_cons : v.at? (key :: path) = (v.get? key).bind (at? path) := rfl

/-- A path that goes no further. -/
theorem bind_at?_nil (v : Option Value) : v.bind (at? []) = v := by cases v <;> rfl

/-- Nothing is under a key of anything that is not an object. -/
theorem exists_fields_of_get? {w : Value} (h : v.get? key = some w) : ∃ fs, v = .object fs := by
  cases v with
  | object fs => exact ⟨fs, rfl⟩
  | null | bool | number | string | array => cases h

end Json.Value

namespace Chart

/-! ### Sketches -/

/-- The label a value gives. -/
def label? (v : Value) : Option String := labelAt [] v

/-- What is told of a chart. -/
structure Sketch where
  kind : Option Value := none
  title : Option String := none
  categories : Option Value := none
  xLabel : Option Value := none
  yLabel : Option Value := none
  series : Option Value := none

/-- The chart of a sketch, or why there is none. -/
def Sketch.chart (k : Sketch) : Except Failure Chart :=
  let series := ((k.series.bind (·.items?)).getD []).mapIdx fun i e => seriesOf (i + 1) e
  if series.isEmpty then .error (.rendering "Invalid chart configuration: no data series")
  else
    .ok {
      kind := normalKind (k.kind.bind label?)
      title := (k.title.map Value.string).bind label?
      categories := ((k.categories.bind (·.items?)).getD []).map labelOf
      series
      xLabel := k.xLabel.bind label?
      yLabel := (k.yLabel.bind label?).getD standardYLabel }

/-- A thing is told once, on top or further inside, or not at all. -/
inductive Told (c : Value) (top inside : List String) : Option Value → Prop
  | top {v : Value} (h : c.at? top = some v) (hinside : c.at? inside = none) :
      Told c top inside (some v)
  | inside {v : Value} (htop : c.at? top = none) (h : c.at? inside = some v) :
      Told c top inside (some v)
  | not (htop : c.at? top = none) (hinside : c.at? inside = none) : Told c top inside none

/-- A title is told once, on top, inside of an object or in its place, or not at all. -/
inductive TitleTold (c : Value) : Option String → Prop
  | top {s : String} (h : c.get? "chart_title" = some (.string s)) (hinside : c.get? "title" = none) :
      TitleTold c (some s)
  | inside {s : String} (htop : c.get? "chart_title" = none)
      (h : c.at? ["title", "text"] = some (.string s)) : TitleTold c (some s)
  | alone {s : String} (htop : c.get? "chart_title" = none)
      (h : c.get? "title" = some (.string s)) : TitleTold c (some s)
  | not (htop : c.get? "chart_title" = none) (hinside : c.get? "title" = none) : TitleTold c none

/-- **What a content tells of a chart**: each thing once, or not at all. -/
structure Tells (c : Value) (k : Sketch) : Prop where
  isObject : ∃ fs, c = .object fs
  kind : Told c ["type"] ["chart", "type"] k.kind
  title : TitleTold c k.title
  categories : Told c ["categories"] ["xAxis", "categories"] k.categories
  xLabel : Told c ["x_axis_label"] ["xAxis", "title", "text"] k.xLabel
  yLabel : Told c ["y_axis_label"] ["yAxis", "title", "text"] k.yLabel
  series : c.get? "series" = k.series

/-! ### What is told is what is found -/

variable {c : Value} {k : Sketch} {top inside : List String}

theorem labelAt_eq (path : List String) (c : Value) : labelAt path c = (c.at? path).bind label? := by
  unfold labelAt label?
  cases c.at? path <;> rfl

theorem firstLabel_cons (path : List String) (paths : List (List String)) (c : Value) :
    firstLabel (path :: paths) c = ((c.at? path).bind label?).or (firstLabel paths c) := by
  rw [firstLabel, List.findSome?_cons, labelAt_eq]
  cases (c.at? path).bind label? <;> rfl

theorem firstLabel_nil : firstLabel [] c = none := rfl

/-- A label that is told is the first that is found. -/
theorem Told.firstLabel {v : Option Value} (h : Told c top inside v) :
    firstLabel [top, inside] c = v.bind label? := by
  rw [firstLabel_cons, firstLabel_cons, firstLabel_nil, Option.or_none]
  cases h with
  | top h hinside => rw [h, hinside, Option.bind_none, Option.or_none]
  | inside htop h => rw [h, htop, Option.bind_none, Option.none_or]
  | not htop hinside => rw [htop, hinside, Option.bind_none, Option.none_or]

/-- An object has a title inside, but is none. -/
theorem label?_of_get? {v w : Value} {key : String} (h : v.get? key = some w) : label? v = none := by
  obtain ⟨fs, rfl⟩ := Value.exists_fields_of_get? h
  rfl

theorem TitleTold.firstLabel {s : Option String} (h : TitleTold c s) :
    firstLabel [["chart_title"], ["title", "text"], ["title"]] c =
      (s.map Value.string).bind label? := by
  simp only [firstLabel_cons, firstLabel_nil, Option.or_none, Value.at?_cons]
  cases h with
  | top h hinside => simp [h, hinside]
  | @inside s htop h =>
    rw [Value.at?_cons] at h
    obtain ⟨v, hv, h⟩ := Option.bind_eq_some_iff.mp h
    rw [Value.at?_cons] at h
    obtain ⟨w, hw, h⟩ := Option.bind_eq_some_iff.mp h
    cases h
    simp [htop, hv, hw, label?_of_get? hw]
  | @alone s htop h =>
    have htext : (Value.string s).get? "text" = none := rfl
    simp [htop, h, htext]
  | not htop hinside => simp [htop, hinside]

theorem categoriesOf_eq (c : Value) : categoriesOf c =
    ((((c.at? ["categories"]).or (c.at? ["xAxis", "categories"])).bind (·.items?)).getD []).map
      labelOf := by
  have hget : c.at? ["categories"] = c.get? "categories" := by
    rw [Value.at?_cons, Value.bind_at?_nil]
  rw [hget, categoriesOf]
  cases c.get? "categories" <;> rfl

/-- Categories that are told are the first that are found. -/
theorem Told.categoriesOf {v : Option Value}
    (h : Told c ["categories"] ["xAxis", "categories"] v) :
    categoriesOf c = ((v.bind (·.items?)).getD []).map labelOf := by
  rw [categoriesOf_eq]
  cases h with
  | top h hinside => rw [h, hinside, Option.or_none]
  | inside htop h => rw [h, htop, Option.none_or]
  | not htop hinside => rw [htop, hinside, Option.or_none]

/-- **A chart is made of what is told of it**, wherever it was told. -/
theorem ofContent_of_tells (h : Tells c k) : ofContent c = k.chart := by
  have hkind := h.kind.firstLabel
  have htitle := h.title.firstLabel
  have hcategories := h.categories.categoriesOf
  have hx := h.xLabel.firstLabel
  have hy := h.yLabel.firstLabel
  have hseries := h.series
  obtain ⟨fs, rfl⟩ := h.isObject
  simp only [ofContent, Sketch.chart, hkind, htitle, hcategories, hx, hy, hseries]

/-! ### The forms -/

/-- Where a thing is told. -/
inductive Place where
  | top
  | inside
  deriving DecidableEq, Repr

/-- Where a title is told. -/
inductive TitlePlace where
  | top
  | inside
  | alone
  deriving DecidableEq, Repr

/-- **A form of content**: where each thing is told, independently of the others. -/
structure Form where
  kind : Place
  title : TitlePlace
  categories : Place
  xLabel : Place
  yLabel : Place
  deriving DecidableEq, Repr

/-- A thing that is told on top. -/
def Place.onTop {α : Type} : Place → Option α → Option α
  | .top, x => x
  | .inside, _ => none

/-- A thing that is told further inside. -/
def Place.within {α : Type} : Place → Option α → Option α
  | .top, _ => none
  | .inside, x => x

/-- The fields of the things there are. -/
def given (entries : List (String × Option Value)) : List (String × Value) :=
  entries.filterMap fun e => e.2.map (e.1, ·)

/-- An object of the things there are, if there are any. -/
def group (entries : List (String × Option Value)) : Option Value :=
  match given entries with
  | [] => none
  | fs => some (.object fs)

namespace Form

variable (f : Form) (k : Sketch)

/-- What stands under `chart_title`. -/
def topTitle : Option Value :=
  match f.title with
  | .top => k.title.map .string
  | _ => none

/-- What stands under `title`. -/
def titleValue : Option Value :=
  match f.title with
  | .top => none
  | .inside => group [("text", k.title.map .string)]
  | .alone => k.title.map .string

/-- What stands on top of a content, under each of the keys. -/
def entries : List (String × Option Value) :=
  [("type", f.kind.onTop k.kind),
    ("chart", group [("type", f.kind.within k.kind)]),
    ("chart_title", f.topTitle k),
    ("title", f.titleValue k),
    ("categories", f.categories.onTop k.categories),
    ("x_axis_label", f.xLabel.onTop k.xLabel),
    ("y_axis_label", f.yLabel.onTop k.yLabel),
    ("xAxis", group [("title", group [("text", f.xLabel.within k.xLabel)]),
      ("categories", f.categories.within k.categories)]),
    ("yAxis", group [("title", group [("text", f.yLabel.within k.yLabel)])]),
    ("series", k.series)]

/-- **The content that tells a sketch** in a form. -/
def content : Value := .object (given (f.entries k))

end Form

/-! ### A sketch can be told in every form -/

theorem lookup_given_of_notMem {entries : List (String × Option Value)} {key : String}
    (h : key ∉ entries.map Prod.fst) : Value.lookup key (given entries) = none := by
  induction entries with
  | nil => rfl
  | cons e entries ih =>
    obtain ⟨key', v⟩ := e
    rw [List.map_cons, List.mem_cons, not_or] at h
    cases v with
    | none => exact ih h.2
    | some v =>
      change Value.lookup key ((key', v) :: given entries) = none
      rw [Value.lookup_cons, if_neg (Ne.symm h.1), ih h.2]

/-- Among entries of different keys, what is found under a key is what was given under it. -/
theorem lookup_given {entries : List (String × Option Value)} {key : String} {v : Option Value}
    (hnodup : (entries.map Prod.fst).Nodup) (h : (key, v) ∈ entries) :
    Value.lookup key (given entries) = v := by
  induction entries with
  | nil => cases h
  | cons e entries ih =>
    obtain ⟨key', w⟩ := e
    rw [List.map_cons, List.nodup_cons] at hnodup
    obtain ⟨hnew, hnodup⟩ := hnodup
    rcases List.mem_cons.mp h with heq | hmem
    · cases heq
      cases v with
      | none =>
        change Value.lookup key (given entries) = none
        exact lookup_given_of_notMem hnew
      | some v =>
        change Value.lookup key ((key, v) :: given entries) = some v
        rw [Value.lookup_cons, if_pos rfl]
    · cases w with
      | none => exact ih hnodup hmem
      | some w =>
        have hne : key' ≠ key := by
          rintro rfl
          exact hnew (List.mem_map.mpr ⟨_, hmem, rfl⟩)
        change Value.lookup key ((key', w) :: given entries) = v
        rw [Value.lookup_cons, if_neg hne, ih hnodup hmem]

/-- What is found inside of a group is what was given in it. -/
theorem group_bind_at? {entries : List (String × Option Value)} {key : String} {v : Option Value}
    (hnodup : (entries.map Prod.fst).Nodup) (h : (key, v) ∈ entries) (path : List String) :
    (group entries).bind (Value.at? (key :: path)) = v.bind (Value.at? path) := by
  have hlookup := lookup_given hnodup h
  unfold group
  split
  · rename_i hnil
    rw [hnil] at hlookup
    rw [← hlookup]
    rfl
  · rw [← hlookup]
    rfl

theorem at?_singleton (key : String) (v : Option Value) :
    (group [(key, v)]).bind (Value.at? [key]) = v := by
  rw [group_bind_at? (by simp) (List.mem_singleton_self _), Value.bind_at?_nil]

/-- What stands in its place is told. -/
theorem Place.told {p : Place} {v : Option Value} (htop : c.at? top = p.onTop v)
    (hinside : c.at? inside = p.within v) : Told c top inside v := by
  cases v with
  | none => cases p <;> exact .not htop hinside
  | some v =>
    cases p with
    | top => exact .top htop hinside
    | inside => exact .inside htop hinside

namespace Form

variable (f : Form) (k : Sketch)

theorem nodup_entries : ((f.entries k).map Prod.fst).Nodup := by
  change List.Nodup ["type", "chart", "chart_title", "title", "categories", "x_axis_label",
    "y_axis_label", "xAxis", "yAxis", "series"]
  decide

variable {f k} in
theorem get?_content {key : String} {v : Option Value} (h : (key, v) ∈ f.entries k) :
    (f.content k).get? key = v :=
  lookup_given (f.nodup_entries k) h

variable {f k} in
/-- What is found in a content further inside. -/
theorem at?_content {key : String} {v : Option Value} (h : (key, v) ∈ f.entries k)
    (path : List String) : (f.content k).at? (key :: path) = v.bind (Value.at? path) := by
  rw [Value.at?_cons, get?_content h]

theorem titleTold_content : TitleTold (f.content k) k.title := by
  have htop : (f.content k).get? "chart_title" = f.topTitle k := get?_content (by simp [entries])
  have hmem : ("title", f.titleValue k) ∈ f.entries k := by simp [entries]
  have htitle := get?_content hmem
  have hinside := at?_content hmem ["text"]
  cases hs : k.title with
  | none =>
    refine .not (htop.trans ?_) (htitle.trans ?_)
    · rw [topTitle, hs]
      split <;> rfl
    · rw [titleValue, hs]
      split <;> rfl
  | some s =>
    unfold topTitle at htop
    unfold titleValue at htitle hinside
    rw [hs] at htop htitle hinside
    cases hplace : f.title with
    | top =>
      rw [hplace] at htop htitle
      exact .top htop htitle
    | inside =>
      rw [hplace] at htop hinside
      exact .inside htop hinside
    | alone =>
      rw [hplace] at htop htitle
      exact .alone htop htitle

variable {f k} in
theorem told_content {p : Place} {v : Option Value} {key : String} {path : List String}
    (htop : (key, p.onTop v) ∈ f.entries k) (hinside : (f.content k).at? path = p.within v) :
    Told (f.content k) [key] path v :=
  Place.told ((at?_content htop []).trans (Value.bind_at?_nil _)) hinside

variable {f k} in
/-- What is found under the title of an axis. -/
theorem at?_axis {axis : String} {v : Option Value} (others : List (String × Option Value))
    (hkeys : ((("title", group [("text", v)]) :: others).map Prod.fst).Nodup)
    (h : (axis, group (("title", group [("text", v)]) :: others)) ∈ f.entries k) :
    (f.content k).at? [axis, "title", "text"] = v := by
  have htitle : (group (("title", group [("text", v)]) :: others)).bind
      (Value.at? ["title", "text"]) = (group [("text", v)]).bind (Value.at? ["text"]) :=
    group_bind_at? hkeys List.mem_cons_self ["text"]
  rw [at?_content h, htitle, at?_singleton]

/-- **A sketch can be told in every form.** -/
theorem tells_content : Tells (f.content k) k where
  isObject := ⟨_, rfl⟩
  title := f.titleTold_content k
  series := get?_content (by simp [entries])
  kind := by
    have hchart : ("chart", group [("type", f.kind.within k.kind)]) ∈ f.entries k := by
      simp [entries]
    exact told_content (p := f.kind) (by simp [entries])
      ((at?_content hchart ["type"]).trans (at?_singleton _ _))
  categories := by
    have haxis : ("xAxis", group [("title", group [("text", f.xLabel.within k.xLabel)]),
        ("categories", f.categories.within k.categories)]) ∈ f.entries k := by simp [entries]
    refine told_content (p := f.categories) (by simp [entries]) ?_
    rw [at?_content haxis, group_bind_at? (by simp)
      (List.mem_cons_of_mem _ (List.mem_singleton_self _)), Value.bind_at?_nil]
  xLabel := told_content (p := f.xLabel) (by simp [entries])
    (at?_axis [("categories", f.categories.within k.categories)] (by simp) (by simp [entries]))
  yLabel := told_content (p := f.yLabel) (by simp [entries])
    (at?_axis [] (by simp) (by simp [entries]))

end Form

/-- **One chart in every form.** A content gives the chart of what it tells, or the error of it, in
whatever place each thing is told; each of the forms tells the sketch it is a form of; so any two of
them give the same. -/
theorem same_chart_in_every_form (k : Sketch) :
    (∀ c, Tells c k → ofContent c = k.chart) ∧
    ∀ f g : Form, Tells (f.content k) k ∧ ofContent (f.content k) = ofContent (g.content k) :=
  ⟨fun _ h => ofContent_of_tells h, fun f g => ⟨f.tells_content k,
    (ofContent_of_tells (f.tells_content k)).trans (ofContent_of_tells (g.tells_content k)).symm⟩⟩

/-- A content with the kind further inside, the title alone and the label of an axis on top is a chart
of that kind, with that title and that label. -/
theorem same_chart_of_mixture :
    let k : Sketch := {
      kind := some (.string "spider")
      title := some " Map "
      xLabel := some (.string "Year")
      series := some (.array [.object []]) }
    let c : Value := .object [("chart", .object [("type", .string "spider")]),
      ("series", .array [.object []]), ("title", .string " Map "), ("x_axis_label", .string "Year")]
    Tells c k ∧ (ofContent c).toOption.map (fun x => (x.kind, x.title, x.xLabel, x.yLabel)) =
      some ("radar", some "Map", some "Year", "Values") := by
  intro k c
  have hc : Tells c k :=
    ⟨⟨_, rfl⟩, .inside rfl rfl, .alone rfl rfl, .not rfl rfl, .top rfl rfl, .not rfl rfl, rfl⟩
  refine ⟨hc, ?_⟩
  rw [(same_chart_in_every_form k).1 c hc]
  decide +kernel

end Chart

end Parley
