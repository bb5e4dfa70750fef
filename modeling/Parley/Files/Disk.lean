import Parley.Failure
import Parley.Chat.History
import Parley.Journal

/-!
# The saved session on a disk

What the program needs of a file system is little: to read and write whole text files, to ask
whether something is there, and to make directories. `Disk` is that, in any monad. The session
is one small file in the program's directory; that it is not there is no failure but a first
run.
-/

namespace Parley

/-- A file system. -/
structure Disk (m : Type → Type) where
  read : String → m (Except Failure String)
  write : String → String → m (Except Failure Unit)
  /-- Whether there is a file or directory. -/
  present : String → m Bool
  /-- Makes a directory and those around it. -/
  makeDirs : String → m (Except Failure Unit)

/-- A path followed by a further part. -/
def joinPath (base part : String) : String :=
  if base.isEmpty || base.endsWith "/" then base ++ part else base ++ "/" ++ part

namespace SavedSession

variable {m : Type → Type} [Monad m]

/-- The name of the session's file. -/
def fileName : String := "session.json"

/-- The path of the session's file. -/
def path (base : String) : String := joinPath base fileName

/-- The session that a file's text holds. -/
def ofText (text : String) : Except Failure SavedSession :=
  match Json.decode decoder text with
  | .ok s => .ok s
  | .error e => .error (.storage ("Failed to deserialize session: " ++ e.message))

/-- The text of a session's file. -/
def toText (s : SavedSession) : String := s.toJson.indented

/-- Reads the saved session. -/
def load (disk : Disk m) (base : String) : m (Except Failure SavedSession) := do
  if ← disk.present (path base) then
    match ← disk.read (path base) with
    | .ok text => return ofText text
    | .error f => return .error f
  else return .ok {}

/-- Saves a session, with what is noted of it. The directory is made if it is missing. -/
def save (disk : Disk m) (base : String) (s : SavedSession) :
    m (Except Failure Unit × List Note) := do
  let made ← if ← disk.present base then pure (.ok ()) else disk.makeDirs base
  match made with
  | .error f => return (.error f, [])
  | .ok () =>
    match ← disk.write (path base) s.toText with
    | .ok () => return (.ok (), [⟨.debug, "Saved session to " ++ path base⟩])
    | .error f => return (.error f, [])

end SavedSession

end Parley
