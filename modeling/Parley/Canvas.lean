import Parley.Artifact.Store

/-!
# The canvas

The canvas shows artifacts beside the conversation. It is hidden or has one of three sizes,
and it may have an artifact selected.

It announces itself only when it is opened or hidden; changes of size are nobody's concern.
-/

namespace Parley

/-- The sizes of the canvas. -/
inductive CanvasMode where
  | hidden
  | collapsed
  | expanded
  | fullscreen
  deriving DecidableEq, Repr, Inhabited

namespace CanvasMode

/-- The canvas can be seen. -/
def isOpen : CanvasMode → Bool
  | .hidden => false
  | _ => true

/-- The next size; a hidden canvas stays hidden. -/
def cycled : CanvasMode → CanvasMode
  | .hidden => .hidden
  | .collapsed => .expanded
  | .expanded => .fullscreen
  | .fullscreen => .collapsed

/-- The name of a size. -/
def name : CanvasMode → String
  | .hidden => "hidden"
  | .collapsed => "collapsed"
  | .expanded => "expanded"
  | .fullscreen => "fullscreen"

end CanvasMode

/-- The canvas: its size and the identifier of the selected artifact. -/
structure Canvas where
  mode : CanvasMode
  active : Option String
  deriving DecidableEq, Repr, Inhabited

namespace Canvas

/-- A hidden canvas. -/
def initial : Canvas := ⟨.hidden, none⟩

/-- The canvas can be seen. -/
def isOpen (c : Canvas) : Bool := c.mode.isOpen

/-- Opens a hidden canvas at its smallest, hides an open one. -/
def toggle (c : Canvas) : Canvas :=
  if c.isOpen then ⟨.hidden, none⟩ else { c with mode := .collapsed }

/-- Goes on to the next size. -/
def cycle (c : Canvas) : Canvas := { c with mode := c.mode.cycled }

/-- Hides the canvas and drops the selection. -/
def hide (_ : Canvas) : Canvas := ⟨.hidden, none⟩

/-- Opens a hidden canvas at its smallest and leaves an open one alone. -/
def reveal (c : Canvas) : Canvas :=
  if c.mode = .hidden then { c with mode := .collapsed } else c

/-- Selects an artifact; a canvas that shows no artifact is made large enough for one. -/
def select (c : Canvas) (id : String) : Canvas :=
  ⟨if c.mode = .hidden || c.mode = .collapsed then .expanded else c.mode, some id⟩

/-- Drops the selection and goes back to the smallest size. -/
def deselect (_ : Canvas) : Canvas := ⟨.collapsed, none⟩

/-- What is noted of a change. -/
def changeNotes (before after : Canvas) : List Note :=
  if before.mode = after.mode then []
  else [⟨.debug, "Canvas " ++ before.mode.name ++ " -> " ++ after.mode.name⟩]

/-- What a change announces: whether the canvas is open now, if it was not so before. -/
def crossing? (before after : Canvas) : Option Bool :=
  if before.isOpen = after.isOpen then none else some after.isOpen

/-- The selected artifact, as far as it is in the store. -/
def artifact? (c : Canvas) (st : Store) : Option Artifact := c.active.bind st.find?

end Canvas

end Parley
