import Parley.Bus.Delivery
import Parley.Canvas
import Parley.Chat.Pipeline
import Parley.Render.Picture

/-!
# The parts of an app

An app is a conversation, a store of artifacts and a canvas on one bus, together with what it
has under way. Everything it does outside of itself is asked for and answered later: questions
to the server, and reading and writing the saved session. So the app is a value, and an
exchange that takes its time is a *task* that waits in it.

A task is in one of a few stages. At some of them it can go on by itself whenever it is its
turn; at the others it waits for one particular answer. Which of several tasks goes on next,
and when answers come, is not for the app to say.

Observers stand for everyone else on the bus. An observer may itself give commands while an
event is delivered to it: the ones its next script holds, one script for every event, until
its scripts run out.

All that can be noticed from outside is written to a trace, latest first.
-/

namespace Parley

/-- The part of the settings that a conversation depends on. -/
structure Profile where
  persona : Option String
  userId : Int
  historyLimit : Nat
  deriving DecidableEq, Repr, Inhabited

/-- Who listens on the bus of an app. -/
inductive Listener where
  | store
  | canvas
  | pipeline
  | observer (n : Nat)
  deriving DecidableEq, Repr, Inhabited

/-- The parts of an app that can leave the bus. -/
inductive Part where
  | pipeline
  | canvas
  | store
  deriving DecidableEq, Repr, Inhabited

/-- Something an app can be told to do at once. -/
inductive Command where
  /-- Publish a signal in the name of a source; what it carries is made on the spot. -/
  | emit (source : String) (signal : Supply → Signal × Supply)
  /-- Publish a signal in the name of the app. -/
  | announce (signal : Signal)
  | reset
  | dismiss
  | toggle
  | cycle
  | hide
  | deselect
  /-- Show an artifact on the canvas. -/
  | openId (id : String)
  /-- Show the artifact at a place in the store. -/
  | openAt (index : Nat)
  | active
  | picture
  | ingest (batch : Supply → List Artifact × Supply)
  | clearStore
  | find (id : String)
  | artifacts
  | messages
  /-- How many listen to every topic. -/
  | counts
  | unmount (part : Part)
  | shutdown
  deriving Inhabited

/-- What a command gives back. -/
inductive Result where
  | done
  | count (n : Nat)
  | chosen (id : Option String)
  | artifact (a : Option Artifact)
  | picture (p : Option Picture)
  | artifacts (as : List Artifact)
  | messages (ms : List Message)
  | counts (ns : List Nat)
  deriving Inhabited

/-- A question to the server. -/
inductive Call where
  | send (q : Question)
  | entries (conversation : Int)
  | summaries (userId : Int) (limit : Nat)
  deriving DecidableEq, Repr, Inhabited

/-- The answer to a question to the server. -/
inductive Answer where
  | reply (r : Except Failure Reply)
  | entries (r : Except Failure (List HistoryEntry))
  | summaries (r : Except Failure (List Summary))
  deriving Inhabited

/-- An operation that may take its time. -/
inductive Operation where
  | send (text : String)
  | retry
  | load (id : Int)
  | restore
  | list
  deriving DecidableEq, Repr, Inhabited

/-- On whose behalf a conversation is loaded. -/
inductive Errand where
  | load
  /-- It was selected by an event, and nobody waits for it. -/
  | select
  /-- It is the one of the last session. -/
  | restore
  deriving DecidableEq, Repr, Inhabited

/-- What came of an operation. -/
inductive Outcome where
  | sent (o : SendOutcome)
  | loaded (r : Except Failure Unit)
  | restored (r : Except Failure (Option Int))
  | listed (r : Except Failure (List Summary))
  /-- An errand nobody waits for is done. -/
  | quiet
  deriving Inhabited

/-- Where a task stands. -/
inductive Stage where
  /-- It has not started. -/
  | start (o : Operation)
  /-- It is to load a conversation and has not started. -/
  | startLoad (id : Int) (errand : Errand)
  /-- Its message is appended, and it is to put the question of a generation to the server. -/
  | posing (q : Question) (generation : Nat)
  /-- It waits for the reply to a question of a generation. -/
  | awaitReply (call : Nat) (q : Question) (generation : Nat)
  /-- What its reply brought is being published. -/
  | publishing
  /-- It waits for the entries of a conversation, to be used in a generation. -/
  | awaitEntries (call : Nat) (id : Int) (generation : Nat) (errand : Errand)
  /-- It waits for the list of conversations. -/
  | awaitSummaries (call : Nat)
  /-- It waits for the saved session. -/
  | awaitSession
  /-- It is to save a session of a generation as soon as no other task saves one. -/
  | wantSave (generation : Nat) (session : SavedSession) (outcome : Outcome)
  /-- It waits until its session is saved. -/
  | awaitSaved (generation : Nat) (session : SavedSession) (outcome : Outcome)
  deriving Inhabited

/-- A task goes on by itself. -/
def Stage.isReady : Stage → Bool
  | .start _ | .startLoad _ _ | .posing _ _ | .wantSave _ _ _ => true
  | _ => false

/-- A task under a name of its own. -/
structure Task where
  name : Nat
  stage : Stage
  deriving Inhabited

/-- Something noticed from outside. -/
inductive Observation where
  | note (n : Note)
  /-- An observer was handed an event. -/
  | heard (observer : Nat) (e : Event)
  /-- A command, of an observer or from outside, gave something back. -/
  | gave (observer : Option Nat) (r : Result)
  /-- A question was put to the server. -/
  | asked (number : Nat) (c : Call)
  /-- A session of a generation was handed over to be saved. -/
  | saved (generation : Nat) (s : SavedSession)
  /-- A task ended. -/
  | ended (task : Nat) (o : Outcome)
  deriving Inhabited

/-- Someone else on the bus: the scripts it has left, each for one event. -/
structure Observer where
  scripts : List (List Command)
  deriving Inhabited

/-- An app. -/
structure App where
  profile : Profile
  plotter : Option Plotter
  /-- There is something to run background tasks. -/
  canSpawn : Bool
  registry : Registry Listener := .empty
  observers : List Observer := []
  /-- The numbers of the subscriptions of each part. -/
  memberships : List (Part × Nat) := []
  store : Store := .empty
  canvas : Canvas := .initial
  pipeline : Pipeline := {}
  supply : Supply
  tasks : List Task := []
  nextTask : Nat := 0
  calls : Nat := 0
  /-- The generation of the session saved last. -/
  savedGeneration : Nat := 0
  /-- The task that is saving a session. -/
  saving : Option Nat := none
  trace : List Observation := []
  deriving Inhabited

namespace App

/-- Writes to the trace. -/
def observe (a : App) (o : Observation) : App := { a with trace := o :: a.trace }

/-- Writes a note to the trace. -/
def note (a : App) (n : Note) : App := a.observe (.note n)

/-- Writes notes to the trace. -/
def notes (a : App) (ns : List Note) : App := ns.foldl note a

/-! ### Subscriptions -/

/-- Subscribes a listener to a topic. -/
def subscribe (a : App) (topic : Topic) (l : Listener) : App :=
  { a with registry := a.registry.subscribe topic l }.note
    (Registry.subscribeNote a.registry.next topic)

/-- Subscribes a part to a topic. -/
def enlist (a : App) (part : Part) (l : Listener) (topic : Topic) : App :=
  { a with memberships := a.memberships ++ [(part, a.registry.next)] }.subscribe topic l

/-- Subscribes an observer with its scripts. -/
def addObserver (a : App) (topic : Topic) (scripts : List (List Command)) : App :=
  { a with observers := a.observers ++ [Observer.mk scripts] }.subscribe topic
    (.observer a.observers.length)

/-- Ends the subscription of a number. -/
def unsubscribe (a : App) (id : Nat) : App :=
  match a.registry.topicOf? id with
  | some topic =>
    { a with registry := a.registry.unsubscribe id }.note (Registry.unsubscribeNote id topic)
  | none => a

/-- Ends all subscriptions of a part. -/
def dismissPart (a : App) (part : Part) : App :=
  let ids := (a.memberships.filter (·.1 = part)).map (·.2)
  ids.foldl unsubscribe { a with memberships := a.memberships.filter (·.1 ≠ part) }

/-! ### Tasks -/

/-- The task of a name. -/
def task? (a : App) (name : Nat) : Option Task := a.tasks.find? (·.name = name)

/-- The stage of the task of a name. -/
def stage? (a : App) (name : Nat) : Option Stage := (a.task? name).map Task.stage

/-- Adds a task; its name is the number of tasks before it. -/
def addTask (a : App) (stage : Stage) : App :=
  { a with tasks := a.tasks ++ [⟨a.nextTask, stage⟩], nextTask := a.nextTask + 1 }

/-- Puts a task into a stage. -/
def setStage (a : App) (name : Nat) (stage : Stage) : App :=
  { a with tasks := a.tasks.map fun t => if t.name = name then { t with stage } else t }

/-- Removes a task that has come to its end. -/
def endTask (a : App) (name : Nat) (o : Outcome) : App :=
  { a with tasks := a.tasks.filter (·.name ≠ name) }.observe (.ended name o)

/-- Puts a question to the server; the task waits in a stage that knows its number. -/
def ask (a : App) (name : Nat) (c : Call) (stage : Nat → Stage) : App :=
  { (a.setStage name (stage a.calls)) with calls := a.calls + 1 }.observe (.asked a.calls c)

/-! ### Assembly -/

/-- The listeners of the parts in the order in which they subscribe: the store first, so what
arrives is stored before it is shown. -/
def seats : List (Part × Listener × Topic) :=
  [(.store, .store, .artifactsReceived), (.store, .store, .newConversation),
    (.canvas, .canvas, .artifactsReceived), (.canvas, .canvas, .toggleCanvas),
    (.canvas, .canvas, .newConversation), (.pipeline, .pipeline, .newConversation),
    (.pipeline, .pipeline, .conversationSelected)]

/-- Puts the parts on the bus; `address` is where the server is. -/
def mount (a : App) (address : String) : App :=
  (seats.foldl (fun a (part, l, topic) => a.enlist part l topic) a).note
    ⟨.debug, "Chat app assembled against " ++ address⟩

/-- What is missing when not everything an app needs is there. -/
def missing? (transport storage : Bool) : Option Failure :=
  if !transport then some (.settings "Transport not configured")
  else if !storage then some (.settings "Storage not configured")
  else none

end App

end Parley
