import Parley.Artifact.Basic
import Parley.Journal
import Parley.Render.Plot
import Parley.Render.Table

/-!
# Showing an artifact

Every artifact can be shown: as a chart, as a table, or as a placeholder that says why not.
Charts need a plotter, which may be missing, may refuse, and may break down; none of that
reaches the caller as a failure.
-/

namespace Parley

/-- What a plotter makes of a chart. -/
inductive Drawing where
  | drawn (visual : String)
  | refused (failure : Failure)
  /-- The plotter broke down. -/
  | crashed
  deriving Repr, BEq

/-- Something that draws charts. It may break down when it draws, which is caught, but not when
it is asked for its name, where nothing would be caught: the name is a constant. -/
structure Plotter where
  name : String
  draw : Chart → Drawing

/-- The plotter that draws with characters. -/
def Plotter.text (width : Nat) : Plotter := ⟨"text", fun c => .drawn (c.plot width)⟩

/-- The width of bars unless another one is asked for. -/
def Plotter.standardWidth : Nat := 24

/-- Why a placeholder stands in place of an artifact. -/
inductive Absence where
  /-- Artifacts of its type cannot be shown. -/
  | notImplemented
  /-- This artifact cannot be shown. -/
  | renderFailed
  /-- There is nothing to draw charts with. -/
  | noPlotter
  deriving DecidableEq, Repr

/-- An artifact as it is shown. -/
inductive Picture where
  | chart (chart : Chart) (plotter visual : String)
  | table (table : Table)
  | placeholder (why : Absence) (message : String)
  deriving Repr, BEq

namespace Picture

/-- What a placeholder says about a failure: the bare reason if it is about rendering. -/
def reasonText : Failure → String
  | .rendering r => r
  | f => f.message

/-- The picture of a chart, and what is noted about it. -/
def ofChart (plotter? : Option Plotter) (a : Artifact) : Picture × List Note :=
  match Chart.ofContent a.content with
  | .error f =>
    (.placeholder .renderFailed (reasonText f),
      [⟨.warn, "Chart " ++ a.id ++ " not renderable: " ++ f.message⟩])
  | .ok c =>
    match plotter? with
    | none => (.placeholder .noPlotter "Chart rendering is not available", [])
    | some p =>
      match p.draw c with
      | .drawn visual => (.chart c p.name visual, [])
      | .refused f =>
        (.placeholder .renderFailed ("Failed to render chart: " ++ reasonText f),
          [⟨.warn, "Chart backend " ++ p.name ++ " rejected " ++ a.id ++ ": " ++ f.message⟩])
      | .crashed =>
        (.placeholder .renderFailed "Failed to render chart: backend crashed",
          [⟨.warn, "Chart backend " ++ p.name ++ " panicked on " ++ a.id⟩])

/-- The picture of an artifact, and what is noted about it. -/
def ofArtifact (plotter? : Option Plotter) (a : Artifact) : Picture × List Note :=
  match a.kind with
  | .chart => ofChart plotter? a
  | .table => (.table (.ofContent a.content), [])
  | .report => (.placeholder .notImplemented "Report rendering coming soon", [])
  | .document => (.placeholder .notImplemented "Document rendering coming soon", [])
  | .other _ =>
    (.placeholder .notImplemented ("Renderer for " ++ a.tag ++ " not implemented"), [])

end Picture

end Parley
