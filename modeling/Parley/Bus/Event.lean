import Parley.Artifact.Basic
import Parley.Chat.Message

/-!
# Events

The parts of the program tell each other what happened through a closed set of signals. A
signal's topic is fixed by what it carries, so who listens to a topic is never handed anything
else.
-/

namespace Parley

/-- What one can listen to. -/
inductive Topic where
  | artifactsReceived
  | toggleCanvas
  | canvasStateChanged
  | newConversation
  | conversationSelected
  | messageReceived
  deriving DecidableEq, Repr, Inhabited

namespace Topic

/-- The name of a topic. -/
def name : Topic → String
  | .artifactsReceived => "artifacts-received"
  | .toggleCanvas => "toggle-canvas"
  | .canvasStateChanged => "canvas-state-changed"
  | .newConversation => "new-conversation"
  | .conversationSelected => "conversation-selected"
  | .messageReceived => "message-received"

/-- All topics. -/
def all : List Topic :=
  [.artifactsReceived, .toggleCanvas, .canvasStateChanged, .newConversation,
    .conversationSelected, .messageReceived]

end Topic

/-- What happened. -/
inductive Signal where
  /-- A reply brought artifacts. -/
  | artifactsReceived (artifacts : List Artifact)
  /-- The canvas should be opened or hidden. -/
  | toggleCanvas
  /-- The canvas was opened or hidden. -/
  | canvasStateChanged (isOpen : Bool)
  /-- Everything starts anew. -/
  | newConversation
  /-- Another conversation should be loaded. -/
  | conversationSelected (id : Int)
  /-- The assistant's message was appended to the transcript. -/
  | messageReceived (message : Message)
  deriving Repr, BEq, Inhabited

/-- The topic of a signal. -/
def Signal.topic : Signal → Topic
  | .artifactsReceived _ => .artifactsReceived
  | .toggleCanvas => .toggleCanvas
  | .canvasStateChanged _ => .canvasStateChanged
  | .newConversation => .newConversation
  | .conversationSelected _ => .conversationSelected
  | .messageReceived _ => .messageReceived

/-- A signal and where it comes from. -/
structure Event where
  source : String
  signal : Signal
  deriving Repr, BEq, Inhabited

/-- The topic of an event. -/
def Event.topic (e : Event) : Topic := e.signal.topic

end Parley
