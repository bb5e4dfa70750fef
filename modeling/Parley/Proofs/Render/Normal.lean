import Parley.Proofs.Chat.Alternatives
import Parley.Proofs.Render.Content
import Parley.Proofs.Text.Blank
import Parley.Proofs.Text.Decimal

/-!
# The normal form of a chart

Whoever draws charts is handed a chart and not the content it was made from, so that it need not know
what a server may have sent: labels that are blank, kinds that there are not, series that are numbers.
What it is handed is in a *normal form* (`Parley.Chart.IsNormal`). Kinds are ones that there are, and
are spelled as they are there. Labels say something, and neither begin nor end with a blank. And there
is one series for every entry of the content, in its place and with all of its data, whatever the entry
is, so no series is taken for another, nor a data point for that of another category.

There is such a chart exactly if the content is an object with at least one entry
(`Parley.Chart.normal_form`).
-/

namespace Parley.Chart

open Json (Value)

variable {c entry : Value} {entries : List Value} {x : Chart} {n : Nat} {l : String}

/-! ### Kinds and labels -/

/-- A kind of chart that there is, spelled as it is there. -/
def IsKind (k : String) : Prop := k ∈ kinds ∧ normalKind (some k) = k

/-- A text that says something, without blanks at its ends. -/
def IsLabel (l : String) : Prop := Text.isBlankText l = false ∧ Text.trim l = l

theorem kindNamed_mem_kinds (name : String) : kindNamed name ∈ kinds := by
  unfold kindNamed
  dsimp only
  split
  · decide
  · split
    · rename_i h
      exact List.contains_iff_mem.mp h
    · decide

/-- The kinds that there are stand for themselves. -/
theorem isKind_of_mem {k : String} (h : k ∈ kinds) : IsKind k :=
  ⟨h, (by decide : ∀ k ∈ kinds, kindNamed k = k) k h⟩

/-- **Every name stands for a kind that there is**, and so does none. -/
theorem isKind_normalKind (name : Option String) : IsKind (normalKind name) := by
  cases name with
  | none => exact isKind_of_mem (by decide)
  | some name => exact isKind_of_mem (kindNamed_mem_kinds name)

/-- **What is found as a label is one.** -/
theorem isLabel_of_hasLabel {path : List String} (h : c.HasLabel path l) : IsLabel l := by
  obtain ⟨text, -, rfl, hne⟩ := h
  exact ⟨Text.isBlankText_trim hne, Text.trim_trim text⟩

theorem isLabel_of_firstOf {paths : List (List String)} {label : Option String}
    (h : FirstOf c.HasLabel paths label) : ∀ l ∈ label, IsLabel l := by
  induction h with
  | nowhere => exact nofun
  | here h => rintro l ⟨⟩; exact isLabel_of_hasLabel h
  | later _ _ ih => exact ih

/-! ### Series -/

/-- The name of a series that has none of its own. -/
def standardName (n : Nat) : String := "Series " ++ String.ofList (Text.decimal n)

/-- A series has a name in any case. -/
theorem isLabel_standardName (n : Nat) : IsLabel (standardName n) := by
  have htoList : (standardName n).toList = "Series ".toList ++ Text.decimal n := by
    simp [standardName]
  -- it begins with a letter and ends with a digit
  have htrim : Text.trim (standardName n) = standardName n := by
    rw [Text.trim, Text.trimChars_eq_self, String.ofList_toList]
    · intro d hd
      rw [htoList] at hd
      cases hd
      rfl
    · intro d hd
      rw [htoList, List.getLast?_append, Option.or_eq_some_iff] at hd
      obtain hd | ⟨hd, -⟩ := hd
      · exact Text.isBlank_of_isDigit (Text.isDigit_of_mem_decimal (List.mem_of_getLast? hd))
      · exact absurd (List.getLast?_eq_none_iff.mp hd) Nat.toDigits_ne_nil
  have hne : standardName n ≠ "" := by
    intro h
    rw [h] at htoList
    cases htoList
  refine ⟨?_, htrim⟩
  rw [← htrim] at hne ⊢
  exact Text.isBlankText_trim hne

/-- **A series is that of an entry**, the entry being the `n`th. -/
structure IsSeriesOf (n : Nat) (entry : Value) (s : Series) : Prop where
  name : entry.HasLabel ["name"] s.name ∨
    (∀ l, ¬ entry.HasLabel ["name"] l) ∧ s.name = standardName n
  isLabel : IsLabel s.name
  kind : (∃ l, entry.HasLabel ["type"] l ∧ s.kind = some (normalKind (some l))) ∨
    (∀ l, ¬ entry.HasLabel ["type"] l) ∧ s.kind = none
  isKind : ∀ k ∈ s.kind, IsKind k
  data : Value.Lists (entry.get? "data") s.data

/-- **Every entry has its series**, whatever it is. -/
theorem isSeriesOf_seriesOf (n : Nat) (entry : Value) : IsSeriesOf n entry (seriesOf n entry) where
  name := by
    cases h : labelAt ["name"] entry with
    | some l =>
      refine .inl ((hasLabel_iff entry ["name"] _).mpr ?_)
      rw [seriesOf, h]
      rfl
    | none =>
      refine .inr ⟨fun l hl => ?_, ?_⟩
      · rw [hasLabel_iff, h] at hl
        cases hl
      · rw [seriesOf, h]
        rfl
  isLabel := by
    cases h : labelAt ["name"] entry with
    | some l =>
      rw [seriesOf, h]
      exact isLabel_of_hasLabel ((hasLabel_iff entry ["name"] l).mpr h)
    | none =>
      rw [seriesOf, h]
      exact isLabel_standardName n
  kind := by
    cases h : labelAt ["type"] entry with
    | some l => exact .inl ⟨l, (hasLabel_iff entry ["type"] l).mpr h, by rw [seriesOf, h]; rfl⟩
    | none =>
      refine .inr ⟨fun l hl => ?_, by rw [seriesOf, h]; rfl⟩
      rw [hasLabel_iff, h] at hl
      cases hl
  isKind := by
    intro k hk
    obtain ⟨name, -, rfl⟩ := Option.map_eq_some_iff.mp hk
    exact isKind_normalKind (some name)
  data := Value.lists_items? _

/-! ### Charts -/

/-- Where the categories of a content stand: in the first of two places where there is anything. -/
def categoriesField (c : Value) : Option Value :=
  (c.at? ["categories"]).or (c.at? ["xAxis", "categories"])

/-- **A chart is in the normal form** of a content with some entries. -/
structure IsNormal (c : Value) (entries : List Value) (x : Chart) : Prop where
  kind : IsKind x.kind
  title : ∀ l ∈ x.title, IsLabel l
  xLabel : ∀ l ∈ x.xLabel, IsLabel l
  yLabel : IsLabel x.yLabel
  length_series : x.series.length = entries.length
  series : ∀ i entry, entries[i]? = some entry →
    ∃ s, x.series[i]? = some s ∧ IsSeriesOf (i + 1) entry s
  categories : ∃ items, Value.Lists (categoriesField c) items ∧
    List.Forall₂ Value.ShownAs items x.categories

theorem isLabel_standardYLabel : IsLabel standardYLabel := by
  constructor <;> decide

/-- A content is an object with some entries. -/
def HasEntries (c : Value) (entries : List Value) : Prop :=
  (∃ fs, c = .object fs) ∧ entries ≠ [] ∧ c.get? "series" = some (.array entries)

/-- **A content with entries is made into a chart**, and that is in normal form. -/
theorem exists_isNormal (h : HasEntries c entries) :
    ∃ x, ofContent c = .ok x ∧ IsNormal c entries x := by
  obtain ⟨⟨fs, rfl⟩, hne, hseries⟩ := h
  have hentries : (((Value.object fs).get? "series").bind (·.items?)).getD [] = entries := by
    rw [hseries]
    rfl
  -- the chart is refused if no series comes of the entries, but each entry has one
  have hempty : (entries.mapIdx fun i e => seriesOf (i + 1) e).isEmpty = false := by
    rw [List.isEmpty_eq_false_iff]
    exact fun hnil => hne (List.mapIdx_eq_nil_iff.mp hnil)
  refine ⟨_, by simp only [ofContent, hentries, hempty, Bool.false_eq_true, if_false]; rfl, ?_⟩
  refine ⟨isKind_normalKind _, isLabel_of_firstOf (firstOf_firstLabel _ _),
    isLabel_of_firstOf (firstOf_firstLabel _ _), ?_, List.length_mapIdx, fun i entry hi => ?_, ?_⟩
  · dsimp only
    cases hy : firstLabel [["y_axis_label"], ["yAxis", "title", "text"]] (.object fs) with
    | none => exact isLabel_standardYLabel
    | some l => exact isLabel_of_firstOf (hy ▸ firstOf_firstLabel _ _) l rfl
  · exact ⟨_, by rw [List.getElem?_mapIdx, hi]; rfl, isSeriesOf_seriesOf (i + 1) entry⟩
  · refine ⟨_, Value.lists_items? _, ?_⟩
    dsimp only
    rw [categoriesOf_eq]
    exact Value.forall₂_shownAs Value.shownAs_labelOf _

/-- **A content without entries is refused**, because it cannot be rendered. -/
theorem exists_rendering (h : ∀ entries, ¬ HasEntries c entries) :
    ∃ reason, ofContent c = .error (.rendering reason) := by
  cases c with
  | object fs =>
    have hentries : (((Value.object fs).get? "series").bind (·.items?)).getD [] = [] := by
      by_contra hne
      exact h _ ⟨⟨fs, rfl⟩, hne, (Value.lists_items? _).eq_some_of_ne_nil hne⟩
    refine ⟨"Invalid chart configuration: no data series", ?_⟩
    simp only [ofContent, hentries, List.mapIdx_nil, List.isEmpty_nil, if_true]
  | null | bool | number | string | array => exact ⟨_, rfl⟩

/-- **The normal form of a chart.** For every content:

* There is no chart exactly if the content is no object or its series are no array with at least one
  entry, and the failure says that it cannot be rendered.
* Otherwise there is a chart, and it is in normal form. It has one series for each entry, in the order
  of the entries, with the data of the entry as they are, or none if they are no array, and with a name
  that is a label: the one of the entry or else the number of the series. Its kind and those of its
  series are ones that there are and stand for themselves. Its title and the label of its horizontal
  axis are labels if there are any, and that of the vertical axis always is. It has one category for
  each item of the categories of the content, in their order, and that of a null is empty. -/
theorem normal_form (c : Value) :
    ((∃ f, ofContent c = .error f) ↔
      (∀ fs, c ≠ .object fs) ∨ ∀ e es, c.get? "series" ≠ some (.array (e :: es))) ∧
    (∀ f, ofContent c = .error f → ∃ reason, f = .rendering reason) ∧
    ∀ fs e es, c = .object fs → c.get? "series" = some (.array (e :: es)) →
      ∃ x, ofContent c = .ok x ∧ IsNormal c (e :: es) x := by
  have hrefused : (∀ fs, c ≠ .object fs) ∨ (∀ e es, c.get? "series" ≠ some (.array (e :: es))) →
      ∃ reason, ofContent c = .error (.rendering reason) := by
    refine fun h => exists_rendering fun entries hentries => ?_
    obtain ⟨⟨fs, hc⟩, hne, hseries⟩ := hentries
    obtain ⟨e, es, rfl⟩ := List.exists_cons_of_ne_nil hne
    exact h.elim (fun h => h fs hc) fun h => h e es hseries
  have hmade : ∀ fs e es, c = .object fs → c.get? "series" = some (.array (e :: es)) →
      ∃ x, ofContent c = .ok x ∧ IsNormal c (e :: es) x :=
    fun fs e es hc hseries => exists_isNormal ⟨⟨fs, hc⟩, List.cons_ne_nil e es, hseries⟩
  have hfails : ∀ f, ofContent c = .error f →
      (∀ fs, c ≠ .object fs) ∨ ∀ e es, c.get? "series" ≠ some (.array (e :: es)) := by
    intro f hf
    by_contra hnot
    simp only [not_or, not_forall, not_not] at hnot
    obtain ⟨⟨fs, hc⟩, e, es, hseries⟩ := hnot
    obtain ⟨x, hx, -⟩ := hmade fs e es hc hseries
    cases hx.symm.trans hf
  refine ⟨⟨fun ⟨f, hf⟩ => hfails f hf, fun h => ?_⟩, fun f hf => ?_, hmade⟩
  · obtain ⟨reason, hreason⟩ := hrefused h
    exact ⟨_, hreason⟩
  · obtain ⟨reason, hreason⟩ := hrefused (hfails f hf)
    cases hreason.symm.trans hf
    exact ⟨reason, rfl⟩

/-- Entries that are nothing, a blank name with a kind in capitals, and data that are a number: each has
its series. -/
theorem normal_form_of_junk :
    let e : Value := .null
    let es : List Value := [.object [("name", .string " "), ("type", .string " SPIDER ")],
      .object [("data", .number (.integer 1)), ("name", .string " A ")]]
    let c : Value := .object [("categories", .array [.null, .string "B"]), ("series", .array (e :: es))]
    ∃ x, ofContent c = .ok x ∧ IsNormal c (e :: es) x ∧ x.categories = ["", "B"] ∧
      x.series.map (fun s => (s.name, s.kind)) =
        [("Series 1", none), ("Series 2", some "radar"), ("A", none)] := by
  intro e es c
  obtain ⟨-, -, h⟩ := normal_form c
  obtain ⟨x, hx, hnormal⟩ := h _ e es rfl rfl
  refine ⟨x, hx, hnormal, ?_⟩
  cases hx
  decide +kernel

end Parley.Chart
