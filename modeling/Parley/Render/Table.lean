import Parley.Json.Printer
import Parley.Text.Blank
import Parley.Text.Pad

/-!
# Tables

A table is a list of columns and a list of rows; a row has at least as many cells as there
are columns and may have more. As text, every column is as wide as its widest cell, and
nothing is cut.
-/

namespace Parley

open Json (Value)

/-- A table of texts. -/
structure Table where
  columns : List String
  rows : List (List String)
  deriving DecidableEq, Repr, Inhabited

/-- The text of a cell. -/
def cellText : Value → String
  | .null => ""
  | .string s => s
  | v => v.render

namespace Table

/-- The cells of a row; anything but a list or null is a single cell. -/
def rowCells : Value → List String
  | .array cells => cells.map cellText
  | .null => []
  | v => [cellText v]

/-- Cells with empty ones added up to a number. -/
def fillTo (n : Nat) (cells : List String) : List String :=
  cells ++ List.replicate (n - cells.length) ""

/-- The table a content describes; missing parts are empty. -/
def ofContent (content : Value) : Table :=
  let columns := (((content.get? "columns").bind (·.items?)).getD []).map cellText
  let rows := ((content.get? "rows").bind (·.items?)).getD []
  ⟨columns, rows.map fun r => fillTo columns.length (rowCells r)⟩

/-- The number of cells in the longest line. -/
def breadth (t : Table) : Nat := t.rows.foldl (fun n r => max n r.length) t.columns.length

/-- The width of a column: that of its widest cell, the heading included. -/
def width (t : Table) (i : Nat) : Nat :=
  (t.columns :: t.rows).foldl (fun n r => max n (r.getD i "").length) 0

/-- The widths of all columns. -/
def widths (t : Table) : List Nat := (List.range t.breadth).map t.width

/-- What stands between two cells. -/
def cellGap : String := " | "

/-- What stands between two columns in the line under the headings. -/
def ruleGap : String := "-+-"

/-- Cells in fields of the given widths, before blanks at the end are removed. -/
def fullLine (widths : List Nat) (cells : List String) : String :=
  cellGap.intercalate (widths.mapIdx fun i w => Text.padRight w (cells.getD i ""))

/-- A line of cells. -/
def line (widths : List Nat) (cells : List String) : String :=
  Text.trimEnd (fullLine widths cells)

/-- The line under the headings. -/
def rule (widths : List Nat) : String :=
  ruleGap.intercalate (widths.map fun w => Text.run w '-')

/-- The lines of a table; one without columns has no headings. -/
def lines (t : Table) : List String :=
  (if t.columns.isEmpty then [] else [line t.widths t.columns, rule t.widths]) ++
    t.rows.map (line t.widths)

/-- A table as text. -/
def render (t : Table) : String := "\n".intercalate t.lines

end Table

end Parley
