import Parley.App.Drive
import Parley.Files.Memory

/-!
# Rehearsing an app

An app can be run without a server and without a disk: against replies that are kept ready and
a file system in memory. Then the one who rehearses decides when answers come and what they
are, and every order of events can be tried.

A question takes the first reply that is kept ready; if there is none, it waits until it is
answered by its number. A rehearsal goes on move by move, and after every move whatever can go
on by itself does so, until everything waits.

Several moves can be made *in one go*: then nothing goes on by itself between them, and a
question that finds no reply is not kept waiting but fails.
-/

namespace Parley

/-- A reply kept ready: how it answers the question that takes it. -/
abbrev Cue := Call → Answer

/-- The answer to a question that fails. -/
def Answer.failed (f : Failure) : Cue
  | .send _ => .reply (.error f)
  | .entries _ => .entries (.error f)
  | .summaries _ _ => .summaries (.error f)

/-- What an app is rehearsed against. -/
structure Backdrop where
  memory : Memory
  cues : List Cue
  /-- A question that finds no reply fails. -/
  isStrict : Bool

namespace Backdrop

/-- Why a question fails that finds no reply. -/
def noReply : Failure := .network "no reply"

/-- A question takes the first reply. -/
def ask (c : Call) : StateM Backdrop (Option Answer × List Note) := modifyGet fun b =>
  match b.cues with
  | cue :: cues => ((some (cue c), []), { b with cues })
  | [] => ((if b.isStrict then some (Answer.failed noReply c) else none, []), b)

/-- Does something with the file system. -/
def onDisk {α : Type} (act : StateM Memory α) : StateM Backdrop α := modifyGet fun b =>
  let (x, memory) := act.run b.memory
  (x, { b with memory })

/-- The world of a rehearsal, with the session in a directory. -/
def ports (dataDir : String) : Ports (StateM Backdrop) where
  ask := ask
  load := do return (← onDisk (SavedSession.load Memory.disk dataDir), [])
  save s := onDisk (SavedSession.save Memory.disk dataDir s)

end Backdrop

/-- Which of the questions that wait. -/
inductive Waiting where
  | number (n : Nat)
  | newest
  | oldest
  deriving DecidableEq, Repr

/-- The question that is meant, if it waits. -/
def Waiting.choose? (waiting : List (Nat × Call)) : Waiting → Option (Nat × Call)
  | .number n => waiting.find? (·.1 = n)
  | .newest => waiting.getLast?
  | .oldest => waiting.head?

/-- What is done in a move. -/
inductive Deed where
  | start (o : Operation)
  | tell (c : Command)
  /-- From now on these calls of the file system fail, and no others. -/
  | refuse (calls : List DiskCall)

/-- A move, with the reply it keeps ready. -/
structure Move where
  deed : Deed
  cue : Option Cue

/-- Where what a move gives back is found. -/
inductive Due where
  /-- It gives back nothing. -/
  | nothing
  /-- It started the task of a number, counted among the tasks that moves start. -/
  | task (number : Nat)
  /-- Whether the question that was to be answered was there. -/
  | found (b : Bool)
  /-- It is the next result in the trace that no observer was given. -/
  | given
  /-- It is the outcome of the task of a name in the trace. -/
  | ended (name : Nat)
  | list (ds : List Due)
  deriving Inhabited

/-- An app in a rehearsal. -/
structure Rehearsal where
  app : App
  backdrop : Backdrop
  dataDir : String
  /-- The names of the tasks that moves started, latest first. -/
  tasks : List Nat := []

namespace Rehearsal

/-- Lets the app do something against the backdrop. -/
def run {α : Type} (r : Rehearsal) (act : StateM Backdrop (App × α)) : Rehearsal × α :=
  let ((app, x), backdrop) := act.run r.backdrop
  ({ r with app, backdrop }, x)

/-- The world of this rehearsal. -/
def ports (r : Rehearsal) : Ports (StateM Backdrop) := Backdrop.ports r.dataDir

/-- Keeps a reply ready behind those that are. -/
def keep (r : Rehearsal) (cue : Option Cue) : Rehearsal :=
  { r with backdrop := { r.backdrop with cues := r.backdrop.cues ++ cue.toList } }

/-- Makes questions that find no reply fail, or wait. -/
def strictly (r : Rehearsal) (isStrict : Bool) : Rehearsal :=
  { r with backdrop := { r.backdrop with isStrict } }

/-- Lets everything go on that can; then no reply is kept any longer. -/
def settle (r : Rehearsal) : Rehearsal :=
  let (r, _) := r.run do return (← r.app.pumpAll r.ports, ())
  { r with backdrop := { r.backdrop with cues := [] } }

/-- Starts an operation. -/
def start (r : Rehearsal) (o : Operation) : Rehearsal × Nat := r.run (r.app.call r.ports o)

/-- Gives a command. -/
def tell (r : Rehearsal) (c : Command) : Rehearsal := { r with app := r.app.tell c }

/-- Tells the file system which calls fail. -/
def refuse (r : Rehearsal) (calls : List DiskCall) : Rehearsal :=
  { r with backdrop := { r.backdrop with
      memory := { r.backdrop.memory with failing := calls } } }

/-- Makes a move. -/
def move (r : Rehearsal) (m : Move) : Rehearsal × Due :=
  let r := r.keep m.cue
  match m.deed with
  | .start o =>
    let (r, name) := r.start o
    ({ r with tasks := name :: r.tasks }.settle, .task r.tasks.length)
  | .tell c => ((r.tell c).settle, .given)
  | .refuse calls => ((r.refuse calls).settle, .nothing)

/-- Answers a question that waits, if it is there. -/
def answer (r : Rehearsal) (which : Waiting) (cue : Cue) : Rehearsal × Due :=
  let chosen := which.choose? r.app.waitingCalls
  match chosen, chosen.bind fun c => r.app.waitingFor? c.1 with
  | some (_, c), some name =>
    let (r, _) := r.run do return (← (r.app.answer name (cue c)).pump r.ports name, ())
    (r.settle, .found true)
  | _, _ => ((r.keep (some cue)).settle, .found false)

/-- Makes one of several moves that are made in one go. -/
def moveOn (r : Rehearsal) (m : Move) : Rehearsal × Due :=
  let r := r.keep m.cue
  match m.deed with
  | .start o =>
    let (r, name) := r.start o
    (r, .ended name)
  | .tell c => (r.tell c, .given)
  | .refuse calls => (r.refuse calls, .nothing)

/-- Makes several moves one after the other. -/
def movesOn (r : Rehearsal) : List Move → Rehearsal × List Due
  | [] => (r, [])
  | m :: ms =>
    let (r, d) := r.moveOn m
    let (r, ds) := r.movesOn ms
    (r, d :: ds)

/-- Makes several moves in one go. -/
def inOneGo (r : Rehearsal) (ms : List Move) : Rehearsal × Due :=
  let (r, ds) := (r.strictly true).movesOn ms
  ((r.strictly false).settle, .list ds)

/-- What happened since the trace was last taken, in its order, and the calls of the file
system. -/
def takeTrace (r : Rehearsal) : Rehearsal × List Observation × List String :=
  let memory := r.backdrop.memory
  ({ r with
      app := { r.app with trace := [] }
      backdrop := { r.backdrop with memory := { memory with log := [] } } },
    r.app.trace.reverse, memory.log.reverse)

end Rehearsal

end Parley
