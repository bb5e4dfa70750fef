import Parley.App.Basic
import Parley.Text.Pad
import Parley.Version

/-!
# What is printed

The wording of everything the program prints for its user, a list of lines at a time. A line
may hold line breaks of its own.
-/

namespace Parley.Shell

/-- The commands there are. -/
def help : String := "\n".intercalate
  ["Commands:",
    "  /retry          resend the last failed message",
    "  /new            start a new conversation",
    "  /history        list saved conversations",
    "  /load <id>      open a saved conversation",
    "  /list           list artifacts of this conversation",
    "  /open <n|id>    show an artifact in the canvas",
    "  /back           return from an artifact to the list",
    "  /canvas         toggle the canvas",
    "  /cycle          cycle the canvas size",
    "  /close          close the canvas",
    "  /quit           exit",
    "Anything else is sent to the assistant."]

/-- What is printed when the program is ready. -/
def greeting : List String := [Version.full, help]

/-- The name of a message's author. -/
def authorName : Role → String
  | .user => "you"
  | .agent => "assistant"
  | .system => "system"

/-- A message, and the titles of the artifacts that came with it. -/
def messageLines (m : Message) : List String :=
  (authorName m.role ++ "> " ++ m.content) ::
    (if m.refs.isEmpty then [] else ["  artifacts: " ++ ", ".intercalate m.refs])

/-- The opening or closing of the canvas. -/
def canvasLine (isOpen : Bool) : String :=
  if isOpen then "[canvas opened]" else "[canvas closed]"

/-- The size of the canvas. -/
def modeLine (c : Canvas) : String := "Canvas " ++ c.mode.name

/-- A failure that can be retried. -/
def bannerLine (b : Banner) : String := "! " ++ b.text ++ " (type /retry)"

/-- A conversation in the list of conversations. -/
def summaryLine (c : Summary) : String :=
  "  " ++ Text.padLeft 6 (Pipeline.numberText c.id) ++ "  " ++ c.title.getD "(untitled)"

/-- The list of conversations. -/
def summaryLines (cs : List Summary) : List String :=
  if cs.isEmpty then ["No saved conversations"] else cs.map summaryLine

/-- An artifact in the list of artifacts; `n` is its place. -/
def artifactLine (n : Nat) (a : Artifact) : String :=
  "  " ++ Pipeline.numberText n ++ ". [" ++ a.tag ++ "] " ++ a.title ++ " (" ++ a.id ++ ")"

/-- The list of artifacts. -/
def artifactLines (as : List Artifact) : List String :=
  if as.isEmpty then ["No artifacts yet"] else as.mapIdx fun i a => artifactLine (i + 1) a

/-- A picture. -/
def pictureLine : Picture → String
  | .chart _ _ visual => visual
  | .table t => t.render
  | .placeholder _ message => "(" ++ message ++ ")"

/-- An artifact that is shown. -/
def shownLines (a : Artifact) (p : Picture) : List String :=
  ["== " ++ a.title ++ " =="] ++ a.description.toList ++ [pictureLine p]

/-- What is printed when the settings cannot be used. -/
def settingsComplaint (f : Failure) : String :=
  "Error: Failed to read configuration\n\nCaused by:\n    " ++ f.message

end Parley.Shell
