import Mathlib.Data.List.Forall2
import Parley.Render.Chart
import Parley.Render.Table

/-!
# What content is looked through for

The content of an artifact is any JSON value, and what a chart or a table takes from it is lists and
texts. A list is taken where there is an array, and anything else counts as an empty one
(`Parley.Json.Value.Lists`). A text is taken from any value: a string is shown as it is, a null as
nothing, and everything else as it is written (`Parley.Json.Value.ShownAs`). So nothing that stands in
a list is left out, whatever it is, and it keeps its place.
-/

namespace Parley

open Json (Value)

namespace Json.Value

/-- **A list is taken** from a value that may be missing. -/
inductive Lists : Option Value → List Value → Prop
  | array (items : List Value) : Lists (some (.array items)) items
  | other {o : Option Value} (h : ∀ items, o ≠ some (.array items)) : Lists o []

/-- **A value is shown** as a text. -/
inductive ShownAs : Value → String → Prop
  | string (s : String) : ShownAs (.string s) s
  | null : ShownAs .null ""
  | other {v : Value} (hnull : v ≠ .null) (hstring : ∀ s, v ≠ .string s) : ShownAs v v.render

theorem lists_items? (o : Option Value) : Lists o ((o.bind (·.items?)).getD []) := by
  cases o with
  | none => exact .other nofun
  | some v =>
    cases v with
    | array items => exact .array items
    | null | bool | number | string | object => exact .other nofun

theorem shownAs_labelOf (v : Value) : v.ShownAs (Chart.labelOf v) := by
  cases v with
  | null => exact .null
  | string s => exact .string s
  | bool | number | array | object => exact .other nofun nofun

theorem shownAs_cellText (v : Value) : v.ShownAs (cellText v) := by
  cases v with
  | null => exact .null
  | string s => exact .string s
  | bool | number | array | object => exact .other nofun nofun

/-- What is in a list that is taken stands in an array. -/
theorem Lists.eq_some_of_ne_nil {o : Option Value} {items : List Value} (h : Lists o items)
    (hne : items ≠ []) : o = some (.array items) := by
  cases h with
  | array => rfl
  | other => exact absurd rfl hne

/-- Every item of a list is shown, in its place. -/
theorem forall₂_shownAs {text : Value → String} (h : ∀ v : Value, v.ShownAs (text v))
    (items : List Value) : List.Forall₂ ShownAs items (items.map text) :=
  List.forall₂_map_right_iff.mpr (List.forall₂_same.mpr fun v _ => h v)

end Json.Value

end Parley
