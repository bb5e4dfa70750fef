import Parley.App.Task

/-!
# Running an app

An app is run against the world outside of it: a server that may take its time, and a place
where the session is saved. `Ports` is that world in any monad, so the same code runs against
a script and against the real thing.

A task runs until it ends or the server keeps it waiting. Tasks that were started in the
background have their turn after it, in the order in which they were started.
-/

namespace Parley

/-- The world around an app, with what it notes. -/
structure Ports (m : Type → Type) where
  /-- Puts a question to the server; nothing if the answer is not there yet. -/
  ask : Call → m (Option Answer × List Note)
  /-- Reads the saved session. -/
  load : m (Except Failure SavedSession × List Note)
  /-- Saves a session. -/
  save : SavedSession → m (Except Failure Unit × List Note)

namespace App

variable {m : Type → Type} [Monad m]

/-- The most stages a task passes through. -/
def stageCount : Nat := 6

/-- Lets a task go on through at most a number of stages. -/
def pumpStages (ports : Ports m) (name : Nat) : Nat → App → m App
  | 0, a => pure a
  | n + 1, a => do
    match a.stage? name with
    | some (.start _) | some (.startLoad _ _) | some (.posing _ _) | some (.wantSave _ _ _) =>
      pumpStages ports name n (a.advance name)
    | some (.awaitReply _ q _) => putCall n a (.send q)
    | some (.awaitEntries _ id _ _) => putCall n a (.entries id)
    | some (.awaitSummaries _) =>
      putCall n a (.summaries a.profile.userId a.profile.historyLimit)
    | some .awaitSession => do
      let (r, notes) ← ports.load
      pumpStages ports name n ((a.notes notes).giveSession name r)
    | some (.awaitSaved _ session _) => do
      let (r, notes) ← ports.save session
      pumpStages ports name n ((a.notes notes).giveSaved name r)
    | some .publishing | none => pure a
where
  /-- Asks the server and goes on if it answers at once. -/
  putCall (n : Nat) (a : App) (c : Call) : m App := do
    let (r, notes) ← ports.ask c
    let a := a.notes notes
    match r with
    | some r => pumpStages ports name n (a.answer name r)
    | none => pure a

/-- Lets a task run until it ends or the server keeps it waiting. -/
def pump (ports : Ports m) (name : Nat) (a : App) : m App :=
  pumpStages ports name stageCount a

/-- Lets at most a number of tasks that are ready run, in their order. -/
def pumpReady (ports : Ports m) : Nat → App → m App
  | 0, a => pure a
  | n + 1, a =>
    match a.tasks.find? (·.stage.isReady) with
    | some t => do pumpReady ports n (← pump ports t.name a)
    | none => pure a

/-- Lets everything run that can. Besides the tasks there are, only commands of observers
start new ones, each at most two. -/
def pumpAll (ports : Ports m) (a : App) : m App :=
  pumpReady ports (a.tasks.length + 2 * a.commandsLeft + 1) a

/-- Starts an operation as a task and lets it run, without turning to others. -/
def call (ports : Ports m) (a : App) (o : Operation) : m (App × Nat) := do
  let name := a.nextTask
  return (← pump ports name (a.addTask (.start o)), name)

end App

end Parley
