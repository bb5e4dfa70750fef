import Mathlib.Data.List.Induction
import Parley.Numeral.Total
import Parley.Proofs.Render.Content
import Parley.Proofs.Text.Blank

/-!
# How a table is laid out

A table as text is lines of fields. A field has the width of its column in every line, and between two
of them there are three characters, so where a field begins depends on the widths alone
(`Parley.Table.start`) and what stands in a column is found at the same place of every line, however
many cells the line has. A column is as wide as its widest cell, which therefore is in its field as a
whole: the blanks behind the cell fill the field up, and nothing is left out but blanks at the end of
the line (`Parley.Table.IsLine`). The line under the headings crosses the columns where other lines
separate them (`Parley.Table.IsRule`).

The rows of a table are those of the content it was made from, and so are their cells
(`Parley.Table.IsRowOf`), as many as there are. `Parley.Table.laid_out` says both.
-/

namespace Parley.Table

open Json (Value)
open Numeral (total total_cons)

/-! ### Fields in a row -/

section Fields

variable {gap f : List Char} {fs : List (List Char)} {ws : List Nat} {i : Nat}

/-- Where a field begins, if fields of these widths stand in a row and there are three characters
between any two of them. -/
def start (ws : List Nat) (i : Nat) : Nat := total ((ws.take i).map (· + 3))

@[simp] theorem start_zero (ws : List Nat) : start ws 0 = 0 := by simp [start]

@[simp] theorem start_cons_succ (w : Nat) (ws : List Nat) (i : Nat) :
    start (w :: ws) (i + 1) = w + 3 + start ws i := by
  simp [start]

/-- **From where a field begins** on there are it and the fields behind it. -/
theorem drop_start (hgap : gap.length = 3) (hi : i < fs.length) :
    (gap.intercalate fs).drop (start (fs.map List.length) i) = gap.intercalate (fs.drop i) := by
  induction i generalizing fs with
  | zero => simp
  | succ i ih =>
    cases fs with
    | nil => exact absurd hi (Nat.not_lt_zero _)
    | cons f fs =>
      have hi : i < fs.length := Nat.lt_of_succ_lt_succ hi
      have hne : fs ≠ [] := List.ne_nil_of_length_pos (Nat.zero_lt_of_lt hi)
      have hlength : (f ++ gap).length = f.length + 3 := by rw [List.length_append, hgap]
      rw [List.intercalate_cons_of_ne_nil hne, List.map_cons, start_cons_succ, ← List.drop_drop,
        List.drop_left' hlength, ih hi, List.drop_succ_cons]

theorem take_start (hgap : gap.length = 3) (hws : fs.map List.length = ws) (h : fs[i]? = some f) :
    ((gap.intercalate fs).drop (start ws i)).take f.length = f := by
  obtain ⟨hi, rfl⟩ := List.getElem?_eq_some_iff.mp h
  rw [← hws, drop_start hgap hi, List.drop_eq_getElem_cons hi]
  cases fs.drop (i + 1) with
  | nil => rw [List.intercalate_singleton, List.take_length]
  | cons f' rest => rw [List.intercalate_cons_cons, List.append_assoc, List.take_left]

/-- Behind a field there is the gap, unless it is the last. -/
theorem take_gap (hgap : gap.length = 3) (hws : fs.map List.length = ws) (h : fs[i]? = some f)
    (hlast : i + 1 < ws.length) :
    ((gap.intercalate fs).drop (start ws i + f.length)).take 3 = gap := by
  obtain ⟨hi, rfl⟩ := List.getElem?_eq_some_iff.mp h
  rw [← hws, List.length_map] at hlast
  rw [← hws, ← List.drop_drop, drop_start hgap hi, List.drop_eq_getElem_cons hi,
    List.drop_eq_getElem_cons hlast, List.intercalate_cons_cons, List.append_assoc, List.drop_left,
    List.take_left' hgap]

theorem length_intercalate (hgap : gap.length = 3) (hws : fs.map List.length = ws) :
    (gap.intercalate fs).length = total ws + 3 * (ws.length - 1) := by
  rw [← hws]
  clear hws
  induction fs with
  | nil => simp
  | cons f fs ih =>
    -- the last field has no gap behind it
    cases fs with
    | nil => simp
    | cons f' fs =>
      rw [List.intercalate_cons_cons, List.length_append, List.length_append, hgap, ih]
      simp only [List.map_cons, total_cons, List.length_cons]
      omega

end Fields

/-! ### Lines -/

section Lines

variable {ws : List Nat} {cells : List String} {i w : Nat}

/-- A line before the blanks at its end are left out: each cell is in the field of its column, which
is wide enough for it and is filled up with blanks, as are the fields there is no cell for. -/
structure IsFullLine (ws : List Nat) (cells : List String) (full : List Char) : Prop where
  length : full.length = total ws + 3 * (ws.length - 1)
  cell : ∀ i cell, cells[i]? = some cell → ∃ w, ws[i]? = some w ∧ cell.length ≤ w ∧
    (full.drop (start ws i)).take w = cell.toList ++ List.replicate (w - cell.length) ' '
  missing : ∀ i w, ws[i]? = some w → cells.length ≤ i →
    (full.drop (start ws i)).take w = List.replicate w ' '
  gap : ∀ i w, ws[i]? = some w → i + 1 < ws.length →
    (full.drop (start ws i + w)).take 3 = " | ".toList

/-- **A line of cells**: nothing is left out of the full line but blanks at its end. -/
def IsLine (ws : List Nat) (cells : List String) (line : String) : Prop :=
  ∃ full blanks, IsFullLine ws cells full ∧ full = line.toList ++ blanks ∧
    (∀ c ∈ blanks, Text.isBlank c = true) ∧ ∀ c, line.toList.getLast? = some c → Text.isBlank c = false

/-- **The line under the headings** goes on below every field and crosses the gaps. -/
structure IsRule (ws : List Nat) (line : List Char) : Prop where
  length : line.length = total ws + 3 * (ws.length - 1)
  field : ∀ i w, ws[i]? = some w → (line.drop (start ws i)).take w = List.replicate w '-'
  crossing : ∀ i w, ws[i]? = some w → i + 1 < ws.length →
    (line.drop (start ws i + w)).take 3 = "-+-".toList

/-- Every cell has a field that is wide enough for it. -/
def Fits (ws : List Nat) (cells : List String) : Prop :=
  ∀ (i : Nat) (cell : String), cells[i]? = some cell → ∃ w, ws[i]? = some w ∧ cell.length ≤ w

/-- What is in the field of a column. -/
def fieldOf (cells : List String) (i w : Nat) : List Char :=
  (cells.getD i "").toList ++ List.replicate (w - (cells.getD i "").length) ' '

theorem fieldOf_of_getElem? {cell : String} (h : cells[i]? = some cell) :
    fieldOf cells i w = cell.toList ++ List.replicate (w - cell.length) ' ' := by
  rw [fieldOf, List.getD_eq_getElem?_getD, h, Option.getD_some]

theorem fieldOf_of_length_le (h : cells.length ≤ i) : fieldOf cells i w = List.replicate w ' ' := by
  rw [fieldOf, List.getD_eq_getElem?_getD, List.getElem?_eq_none h, Option.getD_none]
  rfl

/-- A field is as wide as it is meant to be. -/
theorem Fits.length_fieldOf (h : Fits ws cells) (hw : ws[i]? = some w) :
    (fieldOf cells i w).length = w := by
  cases hcell : cells[i]? with
  | none => rw [fieldOf_of_length_le (List.getElem?_eq_none_iff.mp hcell), List.length_replicate]
  | some cell =>
    obtain ⟨w', hw', hle⟩ := h i cell hcell
    obtain rfl := Option.some.inj (hw.symm.trans hw')
    rw [fieldOf_of_getElem? hcell, List.length_append, List.length_replicate, String.length_toList,
      Nat.add_sub_cancel' hle]

theorem toList_fullLine (ws : List Nat) (cells : List String) :
    (fullLine ws cells).toList = " | ".toList.intercalate (ws.mapIdx (fieldOf cells)) := by
  rw [fullLine, String.toList_intercalate]
  refine congrArg _ (List.ext_getElem? fun i => ?_)
  rw [List.getElem?_map, List.getElem?_mapIdx, List.getElem?_mapIdx, Option.map_map]
  refine congrArg (Option.map · ws[i]?) (funext fun w => ?_)
  change (Text.padRight w (cells.getD i "")).toList = fieldOf cells i w
  rw [Text.padRight, String.toList_append, String.toList_ofList, fieldOf]

/-- **Every cell is in its place.** -/
theorem Fits.isFullLine (h : Fits ws cells) : IsFullLine ws cells (fullLine ws cells).toList := by
  have hgap : " | ".toList.length = 3 := rfl
  have hget : ∀ {i w}, ws[i]? = some w →
      (ws.mapIdx (fieldOf cells))[i]? = some (fieldOf cells i w) := by
    intro i w hw
    rw [List.getElem?_mapIdx, hw, Option.map_some]
  have hws : (ws.mapIdx (fieldOf cells)).map List.length = ws := by
    refine List.ext_getElem? fun i => ?_
    rw [List.getElem?_map]
    cases hw : ws[i]? with
    | none => rw [List.getElem?_mapIdx, hw, Option.map_none, Option.map_none]
    | some w => rw [hget hw, Option.map_some, h.length_fieldOf hw]
  rw [toList_fullLine]
  refine ⟨length_intercalate hgap hws, fun i cell hcell => ?_, fun i w hw hmissing => ?_,
    fun i w hw hlast => ?_⟩
  · obtain ⟨w, hw, hle⟩ := h i cell hcell
    have hfield := take_start hgap hws (hget hw)
    rw [h.length_fieldOf hw, fieldOf_of_getElem? hcell] at hfield
    exact ⟨w, hw, hle, hfield⟩
  · have hfield := take_start hgap hws (hget hw)
    rwa [h.length_fieldOf hw, fieldOf_of_length_le hmissing] at hfield
  · have hbehind := take_gap hgap hws (hget hw) hlast
    rwa [h.length_fieldOf hw] at hbehind

/-- **A line is the full line without the blanks at its end.** -/
theorem Fits.isLine (h : Fits ws cells) : IsLine ws cells (line ws cells) := by
  obtain ⟨full, hfull⟩ : ∃ full, (fullLine ws cells).toList = full := ⟨_, rfl⟩
  have hline : (line ws cells).toList = full.rdropWhile Text.isBlank := by
    rw [line, Text.trimEnd, String.toList_ofList, hfull, Text.trimEndChars_eq_rdropWhile]
  refine ⟨full, full.rtakeWhile Text.isBlank, hfull ▸ h.isFullLine, ?_,
    fun c hc => List.mem_rtakeWhile_imp hc, fun c hc => ?_⟩
  · rw [hline, List.rdropWhile_append_rtakeWhile]
  · rw [hline, ← Text.trimEndChars_eq_rdropWhile] at hc
    exact Text.isBlank_of_getLast?_trimEndChars hc

theorem isRule_rule (ws : List Nat) : IsRule ws (rule ws).toList := by
  have hgap : "-+-".toList.length = 3 := rfl
  have hrule : (rule ws).toList =
      "-+-".toList.intercalate (ws.map fun w => List.replicate w '-') := by
    rw [rule, String.toList_intercalate, List.map_map]
    congr 1
    refine List.map_congr_left fun w _ => ?_
    exact String.toList_ofList
  have hws : (ws.map fun w => List.replicate w '-').map List.length = ws := by
    rw [List.map_map]
    exact (List.map_congr_left fun w _ => List.length_replicate).trans (List.map_id ws)
  have hget : ∀ {i w : Nat}, ws[i]? = some w →
      (ws.map fun w => List.replicate w '-')[i]? = some (List.replicate w '-') := by
    intro i w hw
    rw [List.getElem?_map, hw, Option.map_some]
  rw [hrule]
  refine ⟨length_intercalate hgap hws, fun i w hw => ?_, fun i w hw hlast => ?_⟩
  · have hfield := take_start hgap hws (hget hw)
    rwa [List.length_replicate] at hfield
  · have hbehind := take_gap hgap hws (hget hw) hlast
    rwa [List.length_replicate] at hbehind

end Lines

/-! ### Widths -/

/-- The largest number among those of some things. -/
structure IsLargest {α : Type} (f : α → Nat) (xs : List α) (n : Nat) : Prop where
  le : ∀ x ∈ xs, f x ≤ n
  exists_eq : ∃ x ∈ xs, f x = n

theorem isLargest_foldl {α : Type} (f : α → Nat) (x : α) (xs : List α) :
    IsLargest f (x :: xs) (xs.foldl (fun n y => max n (f y)) (f x)) := by
  induction xs using List.reverseRecOn with
  | nil => exact ⟨by simp, x, List.mem_singleton_self x, rfl⟩
  | append_singleton xs y ih =>
    obtain ⟨hle, z, hz, heq⟩ := ih
    rw [List.foldl_append, List.foldl_cons, List.foldl_nil]
    constructor
    · intro u hu
      rw [← List.cons_append, List.mem_append, List.mem_singleton] at hu
      rcases hu with hu | rfl
      · exact Nat.le_trans (hle u hu) (Nat.le_max_left _ _)
      · exact Nat.le_max_right _ _
    · rcases Nat.le_total (f y) (xs.foldl (fun n y => max n (f y)) (f x)) with h | h
      · exact ⟨z, by rw [← List.cons_append]; exact List.mem_append_left _ hz, by
          rw [Nat.max_eq_left h, heq]⟩
      · exact ⟨y, by simp, (Nat.max_eq_right h).symm⟩

variable {t : Table} {i : Nat}

/-- **The width of a column** is the largest number of characters of its cells, the heading
included. -/
structure IsWidth (t : Table) (i w : Nat) : Prop where
  le : ∀ cells ∈ t.columns :: t.rows, ∀ cell, cells[i]? = some cell → cell.length ≤ w
  exists_eq : ∃ cells ∈ t.columns :: t.rows, ∃ cell, cells[i]? = some cell ∧ cell.length = w

/-- The widths of all columns: there are as many as the longest line has cells. -/
structure IsWidths (t : Table) (ws : List Nat) : Prop where
  breadth : IsLargest List.length (t.columns :: t.rows) ws.length
  width : ∀ i w, ws[i]? = some w → IsWidth t i w

theorem isLargest_breadth (t : Table) :
    IsLargest List.length (t.columns :: t.rows) t.breadth :=
  isLargest_foldl List.length t.columns t.rows

theorem isWidth_width (hi : i < t.breadth) : IsWidth t i (t.width i) := by
  have hfold : t.width i = t.rows.foldl (fun n r => max n (r.getD i "").length)
      (t.columns.getD i "").length := by
    rw [width, List.foldl_cons, Nat.zero_max]
  obtain ⟨hle, cells, hcells, heq⟩ :=
    isLargest_foldl (fun cells : List String => (cells.getD i "").length) t.columns t.rows
  rw [← hfold] at hle heq
  have hfits : ∀ cells ∈ t.columns :: t.rows, ∀ cell, cells[i]? = some cell →
      cell.length ≤ t.width i := by
    intro cells hcells cell hcell
    have hcells := hle cells hcells
    rwa [List.getD_eq_getElem?_getD, hcell, Option.getD_some] at hcells
  refine ⟨hfits, ?_⟩
  cases hcell : cells[i]? with
  | some cell =>
    rw [List.getD_eq_getElem?_getD, hcell, Option.getD_some] at heq
    exact ⟨cells, hcells, cell, hcell, heq⟩
  | none =>
    -- the column has no width, and the longest line has a cell in it
    rw [List.getD_eq_getElem?_getD, hcell, Option.getD_none] at heq
    obtain ⟨-, longest, hlongest, hlength⟩ := isLargest_breadth t
    have hcell : longest[i]? = some longest[i] := List.getElem?_eq_getElem (hlength ▸ hi)
    refine ⟨longest, hlongest, _, hcell, ?_⟩
    have hnarrow := hfits longest hlongest _ hcell
    rw [← heq] at hnarrow ⊢
    exact Nat.le_antisymm hnarrow (Nat.zero_le _)

theorem isWidths_widths (t : Table) : IsWidths t t.widths where
  breadth := by
    rw [widths, List.length_map, List.length_range]
    exact isLargest_breadth t
  width i w hw := by
    rw [widths, List.getElem?_map, Option.map_eq_some_iff] at hw
    obtain ⟨j, hj, rfl⟩ := hw
    obtain ⟨hi, rfl⟩ := List.getElem?_eq_some_iff.mp hj
    rw [List.length_range] at hi
    rw [List.getElem_range]
    exact isWidth_width hi

/-- Every line of a table fits into its columns. -/
theorem IsWidths.fits {ws : List Nat} (h : IsWidths t ws) {cells : List String}
    (hcells : cells ∈ t.columns :: t.rows) : Fits ws cells := by
  intro i cell hcell
  obtain ⟨hi, -⟩ := List.getElem?_eq_some_iff.mp hcell
  have hi : i < ws.length := Nat.lt_of_lt_of_le hi (h.breadth.le cells hcells)
  have hw : ws[i]? = some ws[i] := List.getElem?_eq_getElem hi
  exact ⟨_, hw, (h.width i _ hw).le cells hcells cell hcell⟩

/-! ### Rows -/

/-- The cells of an entry: those of a list, none of a null, and one of anything else. -/
inductive IsCellsOf : Value → List String → Prop
  | array {items : List Value} {cells : List String} (h : List.Forall₂ Value.ShownAs items cells) :
      IsCellsOf (.array items) cells
  | null : IsCellsOf .null []
  | single {v : Value} {cell : String} (harray : ∀ items, v ≠ .array items) (hnull : v ≠ .null)
      (h : v.ShownAs cell) : IsCellsOf v [cell]

/-- **A row is that of an entry**: it has the cells of the entry, and empty ones behind them up to a
number. -/
def IsRowOf (n : Nat) (entry : Value) (row : List String) : Prop :=
  n ≤ row.length ∧ ∃ cells k, IsCellsOf entry cells ∧ row = cells ++ List.replicate k ""

theorem isCellsOf_rowCells (v : Value) : IsCellsOf v (rowCells v) := by
  cases v with
  | array items => exact .array (Value.forall₂_shownAs Value.shownAs_cellText items)
  | null => exact .null
  | bool | number | string | object => exact .single nofun nofun (Value.shownAs_cellText _)

theorem isRowOf_fillTo (n : Nat) (v : Value) : IsRowOf n v (fillTo n (rowCells v)) := by
  refine ⟨?_, rowCells v, _, isCellsOf_rowCells v, rfl⟩
  rw [fillTo, List.length_append, List.length_replicate]
  omega

/-- **A table is that of a content.** -/
structure IsTableOf (content : Value) (t : Table) : Prop where
  columns : ∃ items, Value.Lists (content.get? "columns") items ∧
    List.Forall₂ Value.ShownAs items t.columns
  rows : ∃ entries, Value.Lists (content.get? "rows") entries ∧
    List.Forall₂ (IsRowOf t.columns.length) entries t.rows

theorem isTableOf_ofContent (content : Value) : IsTableOf content (ofContent content) where
  columns := ⟨_, Value.lists_items? _, Value.forall₂_shownAs Value.shownAs_cellText _⟩
  rows := ⟨_, Value.lists_items? _, List.forall₂_map_right_iff.mpr
    (List.forall₂_same.mpr fun _ _ => isRowOf_fillTo _ _)⟩

/-! ### The whole table -/

/-- **A text is a table that is laid out**, in columns of some widths. -/
structure IsLayout (t : Table) (ws : List Nat) (text : String) : Prop where
  widths : IsWidths t ws
  lines : ∃ heading rule rows, IsLine ws t.columns heading ∧ IsRule ws rule.toList ∧
    List.Forall₂ (IsLine ws) t.rows rows ∧
    text = "\n".intercalate ((if t.columns = [] then [] else [heading, rule]) ++ rows)

/-- **A table keeps all of its content, and is laid out without loss.**

* The table of a content has one row for each entry, in the order of the entries. It has all the cells
  of the entry, each in its place and that of a null empty, and at least as many as there are columns.
* The text of any table is its lines, one under the other: the headings and the line under them if
  there are columns, and a line for each row. A column is as wide as the widest of its cells. In each
  line a cell stands as a whole in the field of its column, which begins where the widths of the
  columns before it say, and behind it there are blanks up to the end of the field and then the gap;
  nothing is left out but blanks at the end of the line. The line under the headings is as long as a
  full line and crosses the columns where the gaps are. -/
theorem laid_out (content : Value) (t : Table) :
    IsTableOf content (ofContent content) ∧ ∃ ws, IsLayout t ws t.render := by
  have hws := isWidths_widths t
  have hrows : List.Forall₂ (IsLine t.widths) t.rows (t.rows.map (line t.widths)) :=
    List.forall₂_map_right_iff.mpr (List.forall₂_same.mpr fun cells hcells =>
      (hws.fits (List.mem_cons_of_mem _ hcells)).isLine)
  refine ⟨isTableOf_ofContent content, t.widths, hws, _, _, _,
    (hws.fits List.mem_cons_self).isLine, isRule_rule t.widths, hrows, ?_⟩
  rw [render, lines]
  simp only [List.isEmpty_iff]

/-- A row that is longer than the headings, and one that is shorter. -/
example : (Table.mk ["Unit"] [["HR", "twelve"], []]).render =
    "Unit |\n-----+-------\nHR   | twelve\n     |" := by decide +kernel

end Parley.Table
