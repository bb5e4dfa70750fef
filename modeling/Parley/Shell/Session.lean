import Parley.App.World
import Parley.Settings.Basic
import Parley.Shell.Line
import Parley.Shell.Screen

/-!
# A session at the prompt

The program takes one line after another, does what the line says, and prints what came of
it. Two observers on the bus print what the app reports by itself: one the opening and closing
of the canvas, one the messages of the assistant. They subscribe before anything happens, so
nothing is missed.

A line is dealt with completely, and whatever it left to be done in the background is done,
before the next line is taken. So at the prompt no exchange is ever under way. One thing is in the
background that the program itself does not wait for: when a conversation is begun anew, the
session that was saved is cleared, and the next line may be taken before it is. Here it is
cleared first.

Lines are texts. A session that ends with an error because its next line cannot be read, or is not
UTF-8, has no counterpart here.
-/

namespace Parley.Shell

/-- What dealing with a line comes to: the app after it, with an empty trace, what is printed,
and what is noted. -/
structure Report where
  app : App
  printed : List String
  notes : List Note
  deriving Inhabited

/-- The number of the observer that prints the opening and closing of the canvas. -/
def canvasObserver : Nat := 0

/-- The number of the observer that prints messages. -/
def messageObserver : Nat := 1

/-- What the observers print of something that happened. -/
def printedOf : Observation → List String
  | .heard n e =>
    match e.signal with
    | .canvasStateChanged isOpen => if n = canvasObserver then [canvasLine isOpen] else []
    | .messageReceived m => if n = messageObserver then messageLines m else []
    | _ => []
  | _ => []

/-- What is noted of something that happened. -/
def notedOf : Observation → List Note
  | .note n => [n]
  | _ => []

/-- The report on an app: what its observers print, and then further lines. -/
def reportOn (a : App) (more : List String) : Report :=
  let trace := a.trace.reverse
  ⟨{ a with trace := [] }, trace.flatMap printedOf ++ more, trace.flatMap notedOf⟩

/-- A report after another one. -/
def Report.followedBy (r next : Report) : Report :=
  ⟨next.app, r.printed ++ next.printed, r.notes ++ next.notes⟩

/-- What came of a task, once it has ended. -/
def outcomeOf? (a : App) (name : Nat) : Option Outcome :=
  a.trace.findSome? fun
    | .ended n o => if n = name then some o else none
    | _ => none

/-! ### Start and end -/

/-- The first note of a session. -/
def startNote (s : Settings) : Note := ⟨.info, Version.full ++ " talking to " ++ s.apiUrl⟩

/-- The app of a session: its parts and the two observers are on the bus. -/
def appOf (s : Settings) (supply : Supply) : App :=
  let a : App := {
    profile := ⟨s.persona, s.userId, s.historyLimit⟩
    plotter := some (.text Plotter.standardWidth)
    canSpawn := true
    supply
    trace := [.note (startNote s)] }
  ((a.mount s.apiUrl).addObserver .canvasStateChanged []).addObserver .messageReceived []

section Running

variable {m : Type → Type} [Monad m] (ports : Ports m)

/-- Does an operation to its end. -/
def operate (a : App) (o : Operation) : m (App × Option Outcome) := do
  let (a, name) ← a.call ports o
  return (a, outcomeOf? a name)

/-- Starts a session: the conversation of the last one is loaded again, if there is one. -/
def start (s : Settings) (supply : Supply) : m Report := do
  let (a, o) ← operate ports (appOf s supply) .restore
  let (a, resumed) := match o with
    | some (.restored (.ok (some id))) =>
      (a, ["Resumed conversation " ++ Pipeline.numberText id])
    | some (.restored (.error f)) =>
      (a.note ⟨.warn, "Could not resume the last conversation: " ++ f.message⟩, [])
    | _ => (a, [])
  return reportOn (← a.pumpAll ports) (resumed ++ greeting)

/-- Takes an observer off the bus. -/
def dismissObserver (a : App) (n : Nat) : App :=
  match a.registry.subscriptions.find? (·.listener = .observer n) with
  | some s => a.unsubscribe s.id
  | none => a

/-- Ends a session: the parts leave the bus, then the observers, the latest first. -/
def finish (a : App) : Report :=
  reportOn ([messageObserver, canvasObserver].foldl dismissObserver (a.tell .shutdown)) []

/-! ### Lines -/

/-- Reports on a question. -/
def reportSent (a : App) (o : Option Outcome) : Report :=
  match o with
  | some (.sent (.failed _)) => reportOn a (a.pipeline.banner.map bannerLine).toList
  | some (.sent .ignored) => reportOn (a.note ⟨.debug, "Nothing sent"⟩) []
  | some (.sent .discarded) => reportOn (a.note ⟨.debug, "Reply discarded"⟩) []
  | _ => reportOn a []

/-- Shows the artifact that is selected. -/
def showActive (a : App) : Report :=
  match a.canvas.artifact? a.store with
  | some shown =>
    let (p, notes) := Picture.ofArtifact a.plotter shown
    reportOn (a.notes notes) (shownLines shown p)
  | none => reportOn a []

/-- The identifier that a choice stands for. -/
def chosenId? (a : App) : Choice → Option String
  | .position n => (a.store.items[n - 1]?).map (·.id)
  | .id s => some s

/-- Shows an artifact. -/
def openArtifact (a : App) (arg : String) : Report :=
  let missing (a : App) : Report := reportOn a ["No artifact " ++ arg]
  match chosenId? a (.ofText arg) with
  | none => missing a
  | some id =>
    let found := (a.store.find? id).isSome
    let a := a.tell (.openId id)
    if found then showActive a else missing a

/-- Deals with a line. -/
def respond (a : App) : Line → m Report
  | .blank | .quit => pure (reportOn a [])
  | .message text => do
    let (a, o) ← operate ports a (.send text)
    return reportSent a o
  | .retry => do
    let (a, o) ← operate ports a .retry
    return reportSent a o
  | .fresh => pure (reportOn (a.tell (.announce .newConversation)) ["Started a new conversation"])
  | .history => do
    let (a, o) ← operate ports a .list
    return reportOn a (match o with
      | some (.listed (.ok cs)) => summaryLines cs
      | some (.listed (.error f)) => ["Failed to list conversations: " ++ f.message]
      | _ => [])
  | .load none => pure (reportOn a ["Usage: /load <conversation id>"])
  | .load (some id) => do
    let (a, o) ← operate ports a (.load id)
    return reportOn a (match o with
      | some (.loaded (.ok ())) => a.pipeline.transcript.messages.flatMap messageLines
      | some (.loaded (.error f)) =>
        ["Failed to load conversation " ++ Pipeline.numberText id ++ ": " ++ f.message]
      | _ => [])
  | .list => pure (reportOn a (artifactLines a.store.items))
  | .view arg => pure (openArtifact a arg)
  | .back => pure (withMode (a.tell .deselect))
  | .canvas => pure (withMode (a.tell (.announce .toggleCanvas)))
  | .cycle => pure (withMode (a.tell .cycle))
  | .close => pure (reportOn (a.tell .hide) [])
  | .unknown => pure (reportOn a [help])
where
  /-- Reports on an app and the size of its canvas. -/
  withMode (a : App) : Report := reportOn a [modeLine a.canvas]

/-- Deals with a line and with what it left to be done, to the end of both. -/
def step (a : App) (line : Line) : m Report := do
  let r ← respond ports a line
  return r.followedBy (reportOn (← r.app.pumpAll ports) [])

/-- Deals with lines up to the one that ends the session. -/
def steps (a : App) : List Line → m Report
  | [] => pure (finish a)
  | .quit :: _ => pure (finish a)
  | line :: more => do
    let r ← step ports a line
    return r.followedBy (← steps r.app more)

/-- A whole session, given the lines that will be typed. -/
def session (s : Settings) (supply : Supply) (lines : List Line) : m Report := do
  let r ← start ports s supply
  return r.followedBy (← steps ports r.app lines)

end Running

end Parley.Shell
