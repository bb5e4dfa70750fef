import Parley.App.Basic
import Parley.Numeral.Total

/-!
# What an app does at once

Commands and the reactions to events change the app at once. What they publish is delivered
before they give anything back, and before whatever else is waiting to be done.
-/

namespace Parley

/-- A thing to do besides publishing and delivering. -/
inductive Act where
  /-- A command of an observer or from outside. -/
  | command (observer : Option Nat) (c : Command)
  /-- What a command gives back once everything it published is delivered. -/
  | give (observer : Option Nat) (r : Result)
  | note (n : Note)
  /-- The reply to a question is published; the number of the conversation is to be saved if
  it is new. -/
  | conclude (task generation : Nat) (adopted : Option Int)
  deriving Inhabited

/-- Something an app has to do. -/
abbrev Errands := List (Work Listener Act)

namespace App

/-! ### The canvas -/

/-- In whose name the canvas publishes. -/
def canvasSource : String := "canvas"

/-- Changes the canvas and announces it if it was opened or hidden. -/
def changeCanvas (a : App) (f : Canvas → Canvas) : App × Errands :=
  let after := f a.canvas
  ({ a with canvas := after }.notes (Canvas.changeNotes a.canvas after),
    match Canvas.crossing? a.canvas after with
    | some isOpen => [.publish ⟨canvasSource, .canvasStateChanged isOpen⟩]
    | none => [])

/-- Shows an artifact on the canvas if it is in the store, and gives it back. -/
def openArtifact (a : App) (id : String) : App × Errands × Option Artifact :=
  match a.store.find? id with
  | some found =>
    let (a, next) := a.changeCanvas (·.select found.id)
    (a, next, some found)
  | none => (a.note ⟨.debug, "Cannot open unknown artifact " ++ id⟩, [], none)

/-! ### The store -/

/-- Adds artifacts to the store. -/
def ingest (a : App) (batch : List Artifact) : App × Nat :=
  let i := a.store.ingest batch a.supply
  ({ a with store := i.store, supply := i.supply }.notes i.notes, i.added)

/-- Empties the store. -/
def clearStore (a : App) : App := { a with store := .empty }.notes a.store.clearNotes

/-! ### The conversation -/

/-- Starts anew; the saved session is cleared in the background. -/
def reset (a : App) : App :=
  let p := a.pipeline.reset
  let a := { a with pipeline := p }.note Pipeline.resetNote
  if a.canSpawn then a.addTask (.wantSave p.generation {} .quiet)
  else a.note ⟨.warn, "No async runtime; saved session not cleared"⟩

/-- Loads a conversation in the background. -/
def spawnLoad (a : App) (id : Int) : App :=
  if a.canSpawn then a.addTask (.startLoad id .select)
  else a.note ⟨.warn, "No async runtime; cannot load conversation " ++ Pipeline.numberText id⟩

/-- Takes a part off the bus. -/
def unmount (a : App) : Part → App
  | .pipeline =>
    ({ a with pipeline := a.pipeline.unmount }.dismissPart .pipeline).note Pipeline.unmountNote
  | .canvas => a.dismissPart .canvas
  | .store => (a.dismissPart .store).note Store.unmountNote

/-! ### Commands and reactions -/

/-- In whose name the app publishes. -/
def appSource : String := "app"

/-- Does a command: the app after it, what is to be published, and what it gives back once
that is done. -/
def command (a : App) : Command → App × Errands × Result
  | .emit source signal =>
    let (s, supply) := signal a.supply
    ({ a with supply }, [.publish ⟨source, s⟩], .count (a.registry.count s.topic))
  | .announce s => (a, [.publish ⟨appSource, s⟩], .done)
  | .reset => (a.reset, [], .done)
  | .dismiss => ({ a with pipeline := a.pipeline.dismiss }, [], .done)
  | .toggle => change Canvas.toggle
  | .cycle => change Canvas.cycle
  | .hide => change Canvas.hide
  | .deselect => change Canvas.deselect
  | .openId id =>
    let (a, next, chosen) := a.openArtifact id
    (a, next, .chosen (chosen.map (·.id)))
  | .openAt index =>
    let (a, next, chosen) := a.openArtifact (((a.store.items[index]?).map (·.id)).getD "")
    (a, next, .chosen (chosen.map (·.id)))
  | .active => (a, [], .artifact (a.canvas.artifact? a.store))
  | .picture =>
    match a.canvas.artifact? a.store with
    | some shown =>
      let (p, notes) := Picture.ofArtifact a.plotter shown
      (a.notes notes, [], .picture (some p))
    | none => (a, [], .picture none)
  | .ingest batch =>
    let (as, supply) := batch a.supply
    let (a, added) := { a with supply }.ingest as
    (a, [], .count added)
  | .clearStore => (a.clearStore, [], .done)
  | .find id => (a, [], .artifact (a.store.find? id))
  | .artifacts => (a, [], .artifacts a.store.items)
  | .messages => (a, [], .messages a.pipeline.transcript.messages)
  | .counts => (a, [], .counts (Topic.all.map a.registry.count))
  | .unmount part => (a.unmount part, [], .done)
  | .shutdown => (((a.unmount .pipeline).unmount .canvas).unmount .store, [], .done)
where
  /-- Changes the canvas. -/
  change (f : Canvas → Canvas) : App × Errands × Result :=
    let (a, next) := a.changeCanvas f
    (a, next, .done)

/-- What a listener does with a signal. -/
def react (a : App) (l : Listener) (e : Event) : App × Errands :=
  match l, e.signal with
  | .store, .artifactsReceived batch => ((a.ingest batch).1, [])
  | .store, .newConversation => (a.clearStore, [])
  | .canvas, .artifactsReceived batch =>
    if batch.isEmpty then (a, []) else a.changeCanvas Canvas.reveal
  | .canvas, .toggleCanvas => a.changeCanvas Canvas.toggle
  | .canvas, .newConversation => a.changeCanvas Canvas.hide
  | .pipeline, .newConversation => (a.reset, [])
  | .pipeline, .conversationSelected id => (a.spawnLoad id, [])
  | .observer n, _ =>
    let a := a.observe (.heard n e)
    match a.observers[n]? with
    | some ⟨script :: more⟩ =>
      ({ a with observers := a.observers.set n ⟨more⟩ },
        script.map fun c => .act (.command (some n) c))
    | _ => (a, [])
  | _, _ => (a, [])

/-- Does one of the things to do besides publishing and delivering. -/
def perform (a : App) : Act → App × Errands
  | .command who c =>
    let (a, next, r) := a.command c
    (a, next ++ [.act (.give who r)])
  | .give who r => (a.observe (.gave who r), [])
  | .note n => (a.note n, [])
  | .conclude task generation adopted =>
    match adopted with
    | some id =>
      ((a.note ⟨.info, "Now in conversation " ++ Pipeline.numberText id⟩).setStage task
        (.wantSave generation ⟨some id⟩ (.sent .delivered)), [])
    | none => (a.endTask task (.sent .delivered), [])

/-- An app as a system of listeners. -/
def delivery : Delivery App Listener Act where
  registry := registry
  announce e a := a.note (a.registry.publishNote e)
  react s e a := a.react s.listener e
  perform w a := a.perform w

/-- How many commands the observers may still give. -/
def commandsLeft (a : App) : Nat :=
  Numeral.total (a.observers.map fun o => Numeral.total (o.scripts.map List.length))

/-- A bound on the number of things that are done until nothing is left to do. Everything to
do leads to at most one publishing with one more inside each of its deliveries, besides the
commands of observers, of which only so many are left. -/
def workBound (a : App) (errands : Errands) : Nat :=
  let h := a.registry.subscriptions.length
  (errands.length + a.commandsLeft) * ((h + 2) * (h + 2) + 8)

/-- Does everything there is to do. -/
def settle (a : App) (errands : Errands) : App :=
  (delivery.run (a.workBound errands) (a, errands)).1

/-- Gives a command from outside. -/
def tell (a : App) (c : Command) : App := a.settle [.act (.command none c)]

end App

end Parley
