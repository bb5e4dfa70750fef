import Parley.Numeral.Fixed
import Parley.Render.Chart
import Parley.Text.Pad

/-!
# Charts drawn with characters

A chart is drawn as two lines of heading and, for every series, its name and a line for each
data point: the point's label, a bar in proportion to the largest value of the series, and
the value itself.

Bars are measured in binary64 arithmetic: the value is divided by the largest one, the
quotient multiplied by the width, and the product rounded to the nearest whole number, a half
upwards.
-/

namespace Parley

open Numeral
open Json (Value)

namespace Chart

/-- A data point: its label and its value. -/
structure Point where
  label : String
  value : Option Binary64
  deriving Inhabited

/-- The label of a point that has none: the category at its place, or else its number. -/
def fallbackLabel (categories : List String) (index : Nat) : String :=
  (categories[index]?).getD (String.ofList (Text.decimal (index + 1)))

/-- The point at an index: a number, a pair or longer list whose first and last items count,
or an object. -/
def pointAt (categories : List String) (index : Nat) (v : Value) : Point :=
  match v with
  | .number n => ⟨fallbackLabel categories index, some n.toReal⟩
  | .array (x :: y :: rest) => ⟨labelOf x, ((y :: rest).getLast?).bind (·.real?)⟩
  | .object _ =>
    ⟨match v.get? "name" with
      | some x => labelOf x
      | none => fallbackLabel categories index,
      (match v.get? "y" with
        | some y => some y
        | none => v.get? "value").bind (·.real?)⟩
  | _ => ⟨fallbackLabel categories index, none⟩

/-- The points of a series. -/
def points (categories : List String) (s : Series) : List Point :=
  s.data.mapIdx (pointAt categories)

/-- The largest absolute value among some points. -/
def largest (ps : List Point) : Binary64 :=
  (ps.filterMap (·.value)).foldl (fun m x => if m.absLt x then x.abs else m) Binary64.zero

/-- The length of the bar of `x`, when the bar of `top` is `width` long. -/
def barLength (width : Nat) (top x : Binary64) : Nat :=
  if top.isZero then 0
  else
    match (x.abs.div top).bind (·.mul (.ofInt width)) with
    | some y => y.roundAbs
    | none => 0

/-- The bound below which whole values are written without fraction. -/
def wholeBound : Nat := Nat.pow 10 15

/-- A value as text: whole ones without a fraction, all others with two places. -/
def valueText (x : Binary64) : String :=
  if x.isWhole && x.absLt (.ofInt wholeBound) then
    String.ofList (Text.decimalInt (if x.negative then -(x.floorAbs : Int) else x.floorAbs))
  else String.ofList (x.fixed 2)

/-- The line of a point, its label in a field of `field` characters. -/
def pointLine (width field : Nat) (top : Binary64) (p : Point) : String :=
  "  " ++ Text.padRight field p.label ++ " " ++ match p.value with
    | some x => Text.run (barLength width top x) '#' ++ " " ++ valueText x
    | none => "-"

/-- The lines of a series. -/
def seriesLines (width : Nat) (categories : List String) (s : Series) : List String :=
  let ps := points categories s
  let field := ps.foldl (fun n p => max n p.label.length) 0
  s.name :: ps.map (pointLine width field (largest ps))

/-- The lines of a chart. -/
def plotLines (width : Nat) (c : Chart) : List String :=
  (c.title.getD "Chart" ++ " [" ++ c.kind ++ "]") ::
    ("x: " ++ c.xLabel.getD "-" ++ "  y: " ++ c.yLabel) ::
    c.series.flatMap (seriesLines width c.categories)

/-- Lines, each with its end. -/
def endLines (ls : List String) : String := String.join (ls.map (· ++ "\n"))

/-- A chart drawn with bars of at most `width` characters, and at least one. -/
def plot (width : Nat) (c : Chart) : String := endLines (plotLines (max width 1) c)

end Chart

end Parley
