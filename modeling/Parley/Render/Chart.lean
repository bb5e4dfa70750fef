import Parley.Failure
import Parley.Text.Blank

/-!
# Charts

The content of a chart comes in one of two forms, or in a mixture of both: flat, with the
kind, the title and the labels as fields of the content; or in the form of a charting
library, with the same things further inside. Both give one `Chart`.

A label is usable if it is a string that is not blank; it is trimmed.
-/

namespace Parley

open Json (Value)

/-- A series of data points. -/
structure Series where
  name : String
  /-- The kind of this series, where it has one of its own. -/
  kind : Option String
  data : List Value
  deriving Repr, BEq, Inhabited

/-- A chart. -/
structure Chart where
  kind : String
  title : Option String
  categories : List String
  series : List Series
  xLabel : Option String
  yLabel : String
  deriving Repr, BEq, Inhabited

namespace Chart

/-- The kinds of chart there are. -/
def kinds : List String :=
  ["line", "spline", "area", "areaspline", "column", "bar", "pie", "scatter", "bubble",
    "bullet", "radar"]

/-- The kind of a chart whose own is missing or unknown. -/
def standardKind : String := "column"

/-- The label of a value axis that has none. -/
def standardYLabel : String := "Values"

/-- The kind that a name stands for, without regard to case and blanks around. -/
def kindNamed (name : String) : String :=
  let k := Text.lower (Text.trim name)
  if k == "spider" then "radar" else if kinds.contains k then k else standardKind

/-- The kind that a name, if there is one, stands for. -/
def normalKind : Option String → String
  | none => standardKind
  | some name => kindNamed name

/-- The label found by following keys inwards: a string that is not blank, trimmed. -/
def labelAt (path : List String) (v : Value) : Option String :=
  ((Value.at? path v).bind (·.text?)).bind fun s =>
    let t := Text.trim s
    if t.isEmpty then none else some t

/-- The first label found along some paths. -/
def firstLabel (paths : List (List String)) (v : Value) : Option String :=
  paths.findSome? (labelAt · v)

/-- The label that a category or the first part of a pair gives. -/
def labelOf : Value → String
  | .string s => s
  | .null => ""
  | v => v.render

/-- The series of an entry; `n` is its number, from one on. -/
def seriesOf (n : Nat) (entry : Value) : Series where
  name := (labelAt ["name"] entry).getD ("Series " ++ String.ofList (Text.decimal n))
  kind := (labelAt ["type"] entry).map kindNamed
  data := ((entry.get? "data").bind (·.items?)).getD []

/-- The list of categories: that of the first of the two places where there is anything. -/
def categoriesOf (content : Value) : List String :=
  let field := match content.get? "categories" with
    | some v => some v
    | none => content.at? ["xAxis", "categories"]
  ((field.bind (·.items?)).getD []).map labelOf

/-- The chart that a content describes. -/
def ofContent (content : Value) : Except Failure Chart :=
  match content with
  | .object _ =>
    let series := ((content.get? "series").bind (·.items?)).getD [] |>.mapIdx fun i e =>
      seriesOf (i + 1) e
    if series.isEmpty then
      .error (.rendering "Invalid chart configuration: no data series")
    else
      .ok {
        kind := normalKind (firstLabel [["type"], ["chart", "type"]] content)
        title := firstLabel [["chart_title"], ["title", "text"], ["title"]] content
        categories := categoriesOf content
        series
        xLabel := firstLabel [["x_axis_label"], ["xAxis", "title", "text"]] content
        yLabel := (firstLabel [["y_axis_label"], ["yAxis", "title", "text"]] content).getD
          standardYLabel }
  | _ => .error (.rendering "Invalid chart data: content is not an object")

end Chart

end Parley
