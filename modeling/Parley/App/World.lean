import Parley.App.Drive
import Parley.Files.Disk
import Parley.Http.Server

/-!
# An app against a server and a disk

The world around an app when the server is reached by requests and the session is a file. Here
no question is left waiting: an exchange is over before anything else happens.
-/

namespace Parley

/-- What an app is run against. -/
structure World (m : Type → Type) where
  wire : Http.Wire m
  disk : Disk m
  server : Http.Server
  /-- The directory of the saved session. -/
  dataDir : String

namespace World

variable {m : Type → Type} [Monad m]

/-- Puts a question to the server and waits for the answer. -/
def ask (w : World m) : Call → m (Option Answer × List Note)
  | .send q => do
    let (r, notes) ← (w.server.send w.wire q).result
    return (some (.reply r), notes)
  | .entries id => do
    let (r, notes) ← (w.server.entries w.wire id).result
    return (some (.entries r), notes)
  | .summaries userId limit => do
    let (r, notes) ← (w.server.summaries w.wire userId limit).result
    return (some (.summaries r), notes)

/-- A server and a disk as the world around an app. -/
def ports (w : World m) : Ports m where
  ask := w.ask
  load := do return (← SavedSession.load w.disk w.dataDir, [])
  save := SavedSession.save w.disk w.dataDir

end World

end Parley
