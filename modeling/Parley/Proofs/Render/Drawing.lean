import Parley.Proofs.Json.Printing
import Parley.Proofs.Numeral.Fixed
import Parley.Proofs.Render.Layout
import Parley.Render.Picture

/-!
# How a chart is drawn with characters

Under two lines of heading there is a block of lines for each series, in their order: its name, and a
line for each data point, in their order too. A data point may be anything, and whatever it is it has a
line at its place (`Parley.Chart.IsBlock`). What is written there depends on what the point says of
itself. It names itself if it is a list of two things or more, or an object with a name
(`Parley.Chart.Names`), and otherwise is called after its place (`Parley.Chart.IsPointLabel`); and it may
or may not have a number (`Parley.Chart.Measures`). A number has one text, which is whole or goes to the
nearest hundredth (`Parley.Chart.writes_iff`). The labels of a series stand in a field that is as wide as
the longest of them.

All of that is about lines, and texts in which a line ends would spoil it
(`Parley.Chart.IsOneLine`). Nothing else can: whatever is not a string is printed without control
characters before it is used as a label.
-/

namespace Parley.Chart

open Json (Value IsLegible isLegible_append isLegible_cons isLegible_decimal)
open Numeral (Binary64 IsNearest)

variable {categories : List String} {i : Nat} {v : Value} {x : Binary64} {c : Chart} {s : Series}

/-! ### What a data point says of itself -/

/-- **A data point names itself**: by the first of two or more things, or by a name. -/
inductive Names : Value → Value → Prop
  | first (x y : Value) (rest : List Value) : Names (.array (x :: y :: rest)) x
  | name {fields : List (String × Value)} {x : Value} (h : Value.lookup "name" fields = some x) :
      Names (.object fields) x

/-- **The label of a data point**: its own, or else the category at its place, or else its number. -/
inductive IsPointLabel (categories : List String) (i : Nat) (v : Value) : String → Prop
  | own {x : Value} {label : String} (h : Names v x) (hx : x.ShownAs label) :
      IsPointLabel categories i v label
  | category {label : String} (h : ∀ x, ¬ Names v x) (hcategory : categories[i]? = some label) :
      IsPointLabel categories i v label
  | number (h : ∀ x, ¬ Names v x) (hcategory : categories[i]? = none) :
      IsPointLabel categories i v (String.ofList (Text.decimal (i + 1)))

/-- **The number of a data point**: itself, the last of two or more things, or what is under `y` or,
where there is no `y`, under `value`. -/
inductive Measures : Value → Binary64 → Prop
  | number (n : Json.Number) : Measures (.number n) n.toReal
  | last {items : List Value} {n : Json.Number} (hlength : 2 ≤ items.length)
      (h : items.getLast? = some (.number n)) : Measures (.array items) n.toReal
  | y {fields : List (String × Value)} {n : Json.Number}
      (h : Value.lookup "y" fields = some (.number n)) : Measures (.object fields) n.toReal
  | value {fields : List (String × Value)} {n : Json.Number} (hy : Value.lookup "y" fields = none)
      (h : Value.lookup "value" fields = some (.number n)) : Measures (.object fields) n.toReal

theorem isPointLabel_fallbackLabel (h : ∀ x, ¬ Names v x) :
    IsPointLabel categories i v (fallbackLabel categories i) := by
  unfold fallbackLabel
  cases hcategory : categories[i]? with
  | some label => exact .category h hcategory
  | none => exact .number h hcategory

/-- **Every data point has a label.** -/
theorem isPointLabel_pointAt (categories : List String) (i : Nat) (v : Value) :
    IsPointLabel categories i v (pointAt categories i v).label := by
  match v with
  | .null | .bool _ | .number _ | .string _ | .array [] | .array [_] =>
    exact isPointLabel_fallbackLabel nofun
  | .array (x :: y :: rest) => exact .own (.first x y rest) (Value.shownAs_labelOf x)
  | .object fields =>
    rw [pointAt, Value.get?]
    cases hname : Value.lookup "name" fields with
    | some x => exact .own (.name hname) (Value.shownAs_labelOf x)
    | none =>
      refine isPointLabel_fallbackLabel ?_
      rintro x (_ | hx)
      cases hname.symm.trans hx

theorem real?_eq_some : v.real? = some x ↔ ∃ n, v = .number n ∧ n.toReal = x := by
  cases v <;> simp [Value.real?]

/-- **A data point is drawn with the number it has**, if it has one. -/
theorem value_pointAt (categories : List String) (i : Nat) (v : Value) (x : Binary64) :
    (pointAt categories i v).value = some x ↔ Measures v x := by
  match v with
  | .null | .bool _ | .string _ => exact ⟨nofun, nofun⟩
  | .number n =>
    refine ⟨fun h => Option.some.inj h ▸ .number n, ?_⟩
    rintro (_ | _)
    rfl
  | .array [] | .array [_] =>
    refine ⟨nofun, ?_⟩
    rintro (_ | hlength)
    simp at hlength
  | .array (w :: y :: rest) =>
    rw [pointAt, Option.bind_eq_some_iff]
    constructor
    · rintro ⟨z, hz, hx⟩
      obtain ⟨n, rfl, rfl⟩ := real?_eq_some.mp hx
      exact .last (by simp) (by rwa [List.getLast?_cons_cons])
    · rintro (_ | ⟨-, h⟩)
      rw [List.getLast?_cons_cons] at h
      exact ⟨_, h, rfl⟩
  | .object fields =>
    rw [pointAt, Option.bind_eq_some_iff]
    simp only [Value.get?]
    constructor
    · rintro ⟨z, hz, hx⟩
      obtain ⟨n, rfl, rfl⟩ := real?_eq_some.mp hx
      cases hy : Value.lookup "y" fields with
      | some y =>
        rw [hy] at hz
        obtain rfl := Option.some.inj hz
        exact .y hy
      | none =>
        rw [hy] at hz
        exact .value hy hz
    · rintro (_ | _ | hy | ⟨hy, hvalue⟩)
      · exact ⟨_, by rw [hy], rfl⟩
      · exact ⟨_, by rw [hy, hvalue], rfl⟩

/-! ### What is written of a number -/

/-- **The text of a number**: a whole one below the bound is written by its digits, any other with
two places, in the hundredths that are nearest to it. The sign of the latter stands even where only
zeros are left of the number. -/
inductive Writes (x : Binary64) : String → Prop
  | whole {n : Nat} (h : x.ratio.1 = n * x.ratio.2) (hn : n < wholeBound) :
      Writes x (String.ofList (Text.decimalInt (if x.negative then -(n : Int) else n)))
  | hundredths {q : Nat} (h : ∀ n < wholeBound, x.ratio.1 ≠ n * x.ratio.2)
      (hq : IsNearest (x.ratio.1 * 100) x.ratio.2 q) :
      Writes x (String.ofList ((if x.negative then ['-'] else []) ++ Text.decimal (q / 100) ++
        '.' :: Text.zeroPadded 2 (q % 100)))

/-- **A number has one text.** -/
theorem Writes.unique {text text' : String} (h : Writes x text) (h' : Writes x text') :
    text = text' := by
  cases h with
  | whole h hn =>
    cases h' with
    | whole h' =>
      obtain rfl := Nat.eq_of_mul_eq_mul_right x.ratio_pos (h.symm.trans h')
      rfl
    | hundredths hnone => exact absurd h (hnone _ hn)
  | hundredths hnone hq =>
    cases h' with
    | whole h' hn' => exact absurd h' (hnone _ hn')
    | hundredths _ hq' =>
      obtain rfl := hq.unique x.ratio_pos hq'
      rfl

theorem isWhole_and_absLt_iff : (x.isWhole && x.absLt (.ofInt wholeBound)) = true ↔
    ∃ n < wholeBound, x.ratio.1 = n * x.ratio.2 := by
  have hbound : (Binary64.ofInt wholeBound).ratio = (wholeBound * 8, 8) := by decide +kernel
  have hlt (n : Nat) : n * x.ratio.2 * 8 < wholeBound * 8 * x.ratio.2 ↔ n < wholeBound := by
    rw [Nat.mul_assoc, Nat.mul_assoc, Nat.mul_comm x.ratio.2 8]
    exact Nat.mul_lt_mul_right (Nat.mul_pos (by decide) x.ratio_pos)
  simp only [Bool.and_eq_true, Binary64.isWhole, Binary64.absLt, hbound, beq_iff_eq,
    decide_eq_true_eq]
  constructor
  · rintro ⟨hwhole, hless⟩
    obtain ⟨n, hn⟩ := Nat.dvd_of_mod_eq_zero hwhole
    rw [Nat.mul_comm] at hn
    exact ⟨n, (hlt n).mp (hn ▸ hless), hn⟩
  · rintro ⟨n, hn, h⟩
    rw [h]
    exact ⟨Nat.mul_mod_left _ _, (hlt n).mpr hn⟩

/-- **The text of a number is what is written of it.** -/
theorem writes_iff {text : String} : Writes x text ↔ text = valueText x := by
  have hwrites : Writes x (valueText x) := by
    unfold valueText
    split
    · rename_i hwhole
      obtain ⟨n, hn, h⟩ := isWhole_and_absLt_iff.mp hwhole
      have hfloor : x.floorAbs = n :=
        (congrArg (· / x.ratio.2) h).trans (Nat.mul_div_cancel n x.ratio_pos)
      rw [hfloor]
      exact .whole h hn
    · rename_i hwhole
      obtain ⟨q, hq, hfixed⟩ := x.fixed_eq 1
      rw [hfixed]
      exact .hundredths (fun n hn h => hwhole (isWhole_and_absLt_iff.mpr ⟨n, hn, h⟩)) hq
  exact ⟨fun h => h.unique hwrites, fun h => h ▸ hwrites⟩

/-! ### Blocks of lines -/

/-- **What stands behind the label of a data point**: a dash, or a bar and the number. -/
inductive IsShown (v : Value) : String → Prop
  | dash (h : ∀ x, ¬ Measures v x) : IsShown v "-"
  | bar {x : Binary64} (h : Measures v x) (length : Nat) :
      IsShown v (Text.run length '#' ++ " " ++ valueText x)

/-- The line of a data point, its label in a field of so many characters. -/
structure IsPointLine (categories : List String) (field i : Nat) (v : Value)
    (label line : String) : Prop where
  isLabel : IsPointLabel categories i v label
  line : ∃ shown, IsShown v shown ∧ line = "  " ++
    (label ++ String.ofList (List.replicate (field - label.length) ' ')) ++ " " ++ shown

/-- **The block of a series**: its name, and for each of its data points a line at the same place. The
labels are in a field that is as wide as the longest of them. -/
def IsBlock (categories : List String) (s : Series) (block : List String) : Prop :=
  ∃ field labels lines, block = s.name :: lines ∧ labels.length = s.data.length ∧
    lines.length = s.data.length ∧ (labels ≠ [] → Table.IsLargest String.length labels field) ∧
    ∀ i v, s.data[i]? = some v → ∃ label line, labels[i]? = some label ∧ lines[i]? = some line ∧
      IsPointLine categories field i v label line

theorem isPointLine_pointLine (width field : Nat) (top : Binary64) (categories : List String)
    (i : Nat) (v : Value) : IsPointLine categories field i v (pointAt categories i v).label
      (pointLine width field top (pointAt categories i v)) := by
  refine ⟨isPointLabel_pointAt categories i v, ?_⟩
  have hvalue := value_pointAt categories i v
  unfold pointLine
  cases hx : (pointAt categories i v).value with
  | some x => exact ⟨_, .bar ((hvalue x).mp hx) _, rfl⟩
  | none =>
    refine ⟨_, .dash fun x hmeasures => ?_, rfl⟩
    cases hx.symm.trans ((hvalue x).mpr hmeasures)

/-- The labels of some points are in a field that is as wide as the longest of them. -/
theorem isLargest_field (ps : List Point) (hne : ps.map (·.label) ≠ []) :
    Table.IsLargest String.length (ps.map (·.label))
      (ps.foldl (fun n p => max n p.label.length) 0) := by
  cases ps with
  | nil => exact absurd rfl hne
  | cons p ps =>
    have hfold : ((p :: ps).foldl (fun n p => max n p.label.length) 0) =
        (ps.map (·.label)).foldl (fun n label => max n label.length) p.label.length := by
      rw [List.foldl_cons, Nat.zero_max, List.foldl_map]
    rw [hfold]
    exact Table.isLargest_foldl String.length p.label (ps.map (·.label))

/-- **A series is drawn as its block.** -/
theorem isBlock_seriesLines (width : Nat) (categories : List String) (s : Series) :
    IsBlock categories s (seriesLines width categories s) := by
  refine ⟨_, (points categories s).map (·.label), _, rfl, ?_, ?_, isLargest_field _, ?_⟩
  · rw [List.length_map, points, List.length_mapIdx]
  · rw [List.length_map, points, List.length_mapIdx]
  intro i v hv
  have hpoint : (points categories s)[i]? = some (pointAt categories i v) := by
    rw [points, List.getElem?_mapIdx, hv, Option.map_some]
  refine ⟨_, _, ?_, ?_, isPointLine_pointLine width _ (largest (points categories s)) _ _ _⟩
  · rw [List.getElem?_map, hpoint, Option.map_some]
  · rw [List.getElem?_map, hpoint, Option.map_some]

/-! ### Where lines end -/

/-- No line ends in a text. -/
def OneLine (text : String) : Prop := '\n' ∉ text.toList

instance : DecidablePred OneLine := fun text => inferInstanceAs (Decidable ('\n' ∉ text.toList))

theorem oneLine_append {a b : String} : OneLine (a ++ b) ↔ OneLine a ∧ OneLine b := by
  simp [OneLine]

theorem oneLine_ofList {cs : List Char} (h : IsLegible cs) : OneLine (String.ofList cs) := by
  rw [OneLine, String.toList_ofList]
  exact h.newline_not_mem

/-- **A chart of texts in which no line ends**: the kind, the title, the names of the axes, the
categories, the names of the series, and the strings by which data points name themselves. -/
structure IsOneLine (c : Chart) : Prop where
  kind : OneLine c.kind
  title : ∀ title, c.title = some title → OneLine title
  xLabel : ∀ label, c.xLabel = some label → OneLine label
  yLabel : OneLine c.yLabel
  category : ∀ category ∈ c.categories, OneLine category
  series : ∀ s ∈ c.series, OneLine s.name
  point : ∀ s ∈ c.series, ∀ v ∈ s.data, ∀ label, Names v (.string label) → OneLine label

theorem oneLine_shownAs {label : String} (h : v.ShownAs label)
    (hstring : ∀ text, v = .string text → OneLine text) : OneLine label := by
  rcases h with text | _ | ⟨-, -⟩
  · exact hstring _ rfl
  · decide
  · exact oneLine_ofList v.isLegible_chars

theorem oneLine_isPointLabel {label : String} (h : IsPointLabel categories i v label)
    (hcategories : ∀ category ∈ categories, OneLine category)
    (hnames : ∀ text, Names v (.string text) → OneLine text) : OneLine label := by
  rcases h with ⟨hname, hx⟩ | ⟨-, hcategory⟩ | ⟨-, -⟩
  · exact oneLine_shownAs hx fun text htext => hnames text (htext ▸ hname)
  · exact hcategories _ (List.mem_of_getElem? hcategory)
  · exact oneLine_ofList (isLegible_decimal _)

theorem oneLine_of_writes {text : String} (h : Writes x text) : OneLine text := by
  rcases h with _ | _
  · exact oneLine_ofList (Json.isLegible_decimalInt _)
  · refine oneLine_ofList (isLegible_append.mpr ⟨isLegible_append.mpr ⟨?_, ?_⟩, ?_⟩)
    · split <;> simp [IsLegible]
    · exact isLegible_decimal _
    · exact isLegible_cons.mpr ⟨by decide, Json.isLegible_zeroPadded _ _⟩

theorem oneLine_isShown {shown : String} (h : IsShown v shown) : OneLine shown := by
  rcases h with _ | ⟨-, length⟩
  · decide
  · have hrun : OneLine (Text.run length '#') :=
      oneLine_ofList (Json.isLegible_replicate (by decide))
    simp only [oneLine_append]
    exact ⟨⟨hrun, by decide⟩, oneLine_of_writes (writes_iff.mpr rfl)⟩

theorem oneLine_isPointLine {field : Nat} {label line : String}
    (h : IsPointLine categories field i v label line)
    (hcategories : ∀ category ∈ categories, OneLine category)
    (hnames : ∀ text, Names v (.string text) → OneLine text) : OneLine line := by
  obtain ⟨hlabel, shown, hshown, rfl⟩ := h
  have hlabel := oneLine_isPointLabel hlabel hcategories hnames
  have hblanks : OneLine (String.ofList (List.replicate (field - label.length) ' ')) :=
    oneLine_ofList (Json.isLegible_replicate (by decide))
  simp only [oneLine_append]
  exact ⟨⟨⟨by decide, hlabel, hblanks⟩, by decide⟩, oneLine_isShown hshown⟩

theorem oneLine_isBlock (hc : c.IsOneLine) (hs : s ∈ c.series) {block : List String}
    (h : IsBlock c.categories s block) : ∀ line ∈ block, OneLine line := by
  obtain ⟨field, labels, lines, rfl, -, hlength, -, hlines⟩ := h
  refine List.forall_mem_cons.mpr ⟨hc.series s hs, fun line hline => ?_⟩
  obtain ⟨i, hi, rfl⟩ := List.mem_iff_getElem.mp hline
  obtain ⟨label, line, -, hget, hpoint⟩ :=
    hlines i _ (List.getElem?_eq_getElem (hlength ▸ hi))
  obtain rfl := Option.some.inj ((List.getElem?_eq_getElem hi).symm.trans hget)
  exact oneLine_isPointLine hpoint hc.category (hc.point s hs _ (List.getElem_mem _))

/-! ### The whole drawing -/

/-- **A text is a drawing of a chart**: two lines of heading and the block of each series. -/
def IsDrawing (c : Chart) (text : String) : Prop :=
  ∃ blocks lines, List.Forall₂ (IsBlock c.categories) c.series blocks ∧
    lines = (c.title.getD "Chart" ++ " [" ++ c.kind ++ "]") ::
      ("x: " ++ c.xLabel.getD "-" ++ "  y: " ++ c.yLabel) :: blocks.flatten ∧
    (∀ line ∈ lines, OneLine line) ∧ text.toList = lines.flatMap fun line => line.toList ++ ['\n']

theorem toList_endLines (lines : List String) :
    (endLines lines).toList = lines.flatMap fun line => line.toList ++ ['\n'] := by
  simp [endLines, List.flatMap_map]

theorem oneLine_getD {o : Option String} {standard : String}
    (h : ∀ text, o = some text → OneLine text) (hstandard : OneLine standard) :
    OneLine (o.getD standard) := by
  cases o with
  | none => exact hstandard
  | some text => exact h text rfl

/-- **A chart is drawn line by line.** Whatever its data points are, a chart of texts in which no line
ends is drawn, and the drawing has two lines of heading and then, for each series in order, the line of
its name and one line for each of its data points in order. The line of a data point begins with its
label, in a field that is as wide as the longest label of the series, and behind that there is a dash if
the point has no number, and a bar and the number if it has one. -/
theorem drawn_line_by_line (width : Nat) (h : c.IsOneLine) :
    ∃ text, (Plotter.text width).draw c = .drawn text ∧ IsDrawing c text := by
  have hblocks : List.Forall₂ (IsBlock c.categories) c.series
      (c.series.map (seriesLines (max width 1) c.categories)) :=
    List.forall₂_map_right_iff.mpr (List.forall₂_same.mpr fun s _ => isBlock_seriesLines _ _ s)
  refine ⟨c.plot width, rfl, _, _, hblocks, rfl, ?_, ?_⟩
  · have hheading : OneLine (c.title.getD "Chart" ++ " [" ++ c.kind ++ "]") := by
      simp only [oneLine_append]
      exact ⟨⟨⟨oneLine_getD h.title (by decide), by decide⟩, h.kind⟩, by decide⟩
    have haxes : OneLine ("x: " ++ c.xLabel.getD "-" ++ "  y: " ++ c.yLabel) := by
      simp only [oneLine_append]
      exact ⟨⟨⟨by decide, oneLine_getD h.xLabel (by decide)⟩, by decide⟩, h.yLabel⟩
    refine List.forall_mem_cons.mpr ⟨hheading, List.forall_mem_cons.mpr ⟨haxes, fun line hline => ?_⟩⟩
    obtain ⟨_, hblock, hline⟩ := List.mem_flatten.mp hline
    obtain ⟨s, hs, rfl⟩ := List.mem_map.mp hblock
    exact oneLine_isBlock h hs (isBlock_seriesLines _ _ s) line hline
  · simp only [plot, toList_endLines, plotLines, List.flatMap_def]

/-- Points of every shape, and fewer categories than points: a number, a list that names itself, an
object named null and without a number, and a text, which is called after its place. -/
theorem drawn_line_by_line_junk :
    let c : Chart := ⟨"pie", none, ["A"], [⟨"S", none, [.number (.integer 1),
      .array [.string "B\tb", .null, .number (.integer 2)], .object [("name", .null)],
      .string "x\ny"]⟩], none, "Y"⟩
    c.IsOneLine ∧ ∃ text, (Plotter.text 4).draw c = .drawn text ∧ IsDrawing c text := by
  intro c
  have hc : c.IsOneLine := by
    refine ⟨by decide, nofun, nofun, by decide, by decide, by decide, ?_⟩
    intro s hs v hv label hname
    obtain rfl := List.mem_singleton.mp hs
    simp only [List.mem_cons, List.not_mem_nil, or_false] at hv
    rcases hv with rfl | rfl | rfl | rfl
    · cases hname
    · cases hname
      decide
    · obtain _ | hname := hname
      cases hname
    · cases hname
  exact ⟨hc, drawn_line_by_line 4 hc⟩

example : Chart.plot 4 ⟨"pie", none, ["A"], [⟨"S", none, [.number (.integer 1),
    .array [.string "B\tb", .null, .number (.integer 2)], .object [("name", .null)],
    .string "x\ny"]⟩], none, "Y"⟩ =
    "Chart [pie]\nx: -  y: Y\nS\n  A   ## 1\n  B\tb #### 2\n      -\n  4   -\n" := by
  decide +kernel

end Parley.Chart
