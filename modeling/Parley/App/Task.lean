import Parley.App.Act

/-!
# What an app does in its own time

A task goes on in steps. Between two steps anything else may happen: other tasks go on,
answers come, commands are given. What a task finds when it goes on again is therefore checked
against the generation it belongs to.

Sessions are saved one at a time. A session of an older generation than the one saved last is
skipped, so a session that was cleared in the background never replaces a later one.
-/

namespace Parley

namespace App

/-- In whose name the conversation publishes. -/
def chatSource : String := "chat"

/-- Starts to load a conversation. -/
def startLoad (a : App) (name : Nat) (id : Int) (errand : Errand) : App :=
  let p := a.pipeline.startLoad
  ({ a with pipeline := p }.note (Pipeline.loadNote id)).ask name (.entries id) fun n =>
    .awaitEntries n id p.generation errand

/-- Puts a question to the server. -/
def pose (a : App) (name : Nat) (q : Question) (generation : Nat) : App :=
  { a with pipeline := a.pipeline.pose generation }.ask name (.send q) fun n =>
    .awaitReply n q generation

/-- Starts an operation. -/
def begin (a : App) (name : Nat) : Operation → App
  | .send text =>
    match a.pipeline.send? a.profile.persona text a.supply with
    | some (pipeline, q, supply) =>
      { a with pipeline, supply }.setStage name (.posing q pipeline.generation)
    | none => (a.note (a.pipeline.ignoreNote text)).endTask name (.sent .ignored)
  | .retry =>
    match a.pipeline.retry? a.profile.persona with
    | some (pipeline, q) =>
      ({ a with pipeline }.note ⟨.info, "Retrying last message"⟩).setStage name
        (.posing q pipeline.generation)
    | none => (a.note ⟨.debug, "Nothing to retry"⟩).endTask name (.sent .ignored)
  | .load id => a.startLoad name id .load
  | .restore => a.setStage name .awaitSession
  | .list => a.ask name (.summaries a.profile.userId a.profile.historyLimit) .awaitSummaries

/-- Saves a session unless one of a later generation was saved. -/
def startSave (a : App) (name generation : Nat) (session : SavedSession) (o : Outcome) : App :=
  if a.saving.isSome then a
  else if generation < a.savedGeneration then
    (a.note ⟨.debug, "Skipping session write from generation " ++
      Pipeline.numberText generation ++ " (latest " ++ Pipeline.numberText a.savedGeneration ++
      ")"⟩).endTask name o
  else
    ({ a with saving := some name }.setStage name (.awaitSaved generation session o)).observe
      (.saved generation session)

/-- A task that is ready goes on. -/
def advance (a : App) (name : Nat) : App :=
  match a.stage? name with
  | some (.start o) => a.begin name o
  | some (.startLoad id errand) => a.startLoad name id errand
  | some (.posing q generation) => a.pose name q generation
  | some (.wantSave generation session o) => a.startSave name generation session o
  | _ => a

/-- What came of a load, for the errand it was on. -/
def loadOutcome (id : Int) (r : Except Failure Unit) : Errand → Outcome
  | .load => .loaded r
  | .select => .quiet
  | .restore => .restored (r.map fun _ => some id)

/-- A task takes in the reply to its question. -/
def takeReply (a : App) (name generation : Nat) (r : Except Failure Reply) : App × Errands :=
  let (pipeline, receipt, notes, supply) := a.pipeline.receive generation r a.supply
  let a := { a with pipeline, supply }.notes notes
  match receipt with
  | .stale => (a.endTask name (.sent .discarded), [])
  | .failed kind => (a.endTask name (.sent (.failed kind)), [])
  | .delivered message artifacts adopted =>
    (a.setStage name .publishing,
      .publish ⟨chatSource, .messageReceived message⟩ ::
        ((if artifacts.isEmpty then []
          else [.act (.note ⟨.info, "Reply produced " ++ Pipeline.numberText artifacts.length ++
              " artifact(s)"⟩),
            .publish ⟨chatSource, .artifactsReceived artifacts⟩]) ++
          [.act (.conclude name generation adopted)]))

/-- A task takes in the entries of a conversation. -/
def takeEntries (a : App) (name : Nat) (id : Int) (generation : Nat) (errand : Errand)
    (r : Except Failure (List HistoryEntry)) : App :=
  let (pipeline, receipt, notes, supply) := a.pipeline.receiveEntries id generation r a.supply
  let a := { a with pipeline, supply }.notes notes
  match receipt with
  | .stale => a.endTask name (loadOutcome id (.ok ()) errand)
  | .failed f =>
    let a := if errand = .select then
        a.note ⟨.warn, "Loading conversation " ++ Pipeline.numberText id ++ " failed: " ++
          f.message⟩
      else a
    a.endTask name (loadOutcome id (.error f) errand)
  | .loaded =>
    a.setStage name (.wantSave generation ⟨some id⟩ (loadOutcome id (.ok ()) errand))

/-- A task takes in the answer of the server it waits for: the app after it, and what is to be
published. -/
def takeAnswer (a : App) (name : Nat) (answer : Answer) : App × Errands :=
  match a.stage? name, answer with
  | some (.awaitReply _ _ generation), .reply r => a.takeReply name generation r
  | some (.awaitEntries _ id generation errand), .entries r =>
    (a.takeEntries name id generation errand r, [])
  | some (.awaitSummaries _), .summaries r => (a.endTask name (.listed r), [])
  | _, _ => (a, [])

/-- A task takes in the answer of the server it waits for, and what it brought is published. -/
def answer (a : App) (name : Nat) (answer : Answer) : App :=
  let (a, errands) := a.takeAnswer name answer
  a.settle errands

/-- A task takes in the saved session. One that cannot be read counts as none. -/
def giveSession (a : App) (name : Nat) (r : Except Failure SavedSession) : App :=
  match a.stage? name with
  | some .awaitSession =>
    match r with
    | .error f =>
      (a.note ⟨.warn, "Could not read saved session: " ++ f.message⟩).endTask name
        (.restored (.ok none))
    | .ok ⟨none⟩ => a.endTask name (.restored (.ok none))
    | .ok ⟨some id⟩ => a.startLoad name id .restore
  | _ => a

/-- A task learns whether its session is saved. -/
def giveSaved (a : App) (name : Nat) (r : Except Failure Unit) : App :=
  match a.stage? name with
  | some (.awaitSaved generation _ o) =>
    let a := match r with
      | .ok () => a
      | .error f => a.note ⟨.warn, "Failed to save session: " ++ f.message⟩
    { a with saving := none, savedGeneration := generation }.endTask name o
  | _ => a

/-- The name of the task that waits for the answer to a call. -/
def waitingFor? (a : App) (call : Nat) : Option Nat :=
  (a.tasks.find? fun t => match t.stage with
    | .awaitReply n _ _ => n = call
    | .awaitEntries n _ _ _ => n = call
    | .awaitSummaries n => n = call
    | _ => false).map (·.name)

/-- The calls that wait for an answer, in the order in which they were made. -/
def waitingCalls (a : App) : List (Nat × Call) :=
  (a.tasks.filterMap fun t => match t.stage with
    | .awaitReply n q _ => some (n, Call.send q)
    | .awaitEntries n id _ _ => some (n, Call.entries id)
    | .awaitSummaries n => some (n, Call.summaries a.profile.userId a.profile.historyLimit)
    | _ => none).mergeSort fun x y => x.1 ≤ y.1

end App

end Parley
