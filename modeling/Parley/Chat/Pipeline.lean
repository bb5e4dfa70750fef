import Parley.Chat.History
import Parley.Journal

/-!
# The conversation

A conversation has a transcript, the number by which the server knows it, and at most one
exchange with the server under way. The user's message is appended before the question is
asked, so the transcript shows what was asked even when nothing comes back.

Every exchange carries the *generation* of the conversation it belongs to. Loading another
conversation and starting a new one begin a new generation; what comes back for an older one
is stale and leaves no trace, and so does whatever comes back after the conversation was
unmounted.

Generations have no bound here. The program counts them in sixty-four bits, and each takes an
operation of its own to begin, so that it does not come to the end of those.
-/

namespace Parley

/-- Whether an exchange is under way. -/
inductive Phase where
  | idle
  /-- The user's message is appended, and the question is about to be put to the server. -/
  | sending
  | awaiting
  deriving DecidableEq, Repr, Inhabited

/-- The name of a phase. -/
def Phase.name : Phase → String
  | .idle => "Idle"
  | .sending => "Sending"
  | .awaiting => "AwaitingResponse"

/-- A message about a failure, shown above the input. -/
structure Banner where
  kind : BannerKind
  text : String
  deriving DecidableEq, Repr

namespace Banner

/-- The banner of a failed question. -/
def ofSend (f : Failure) : Banner :=
  let kind := f.bannerKind?.getD .network
  ⟨kind, match kind, f with
    | .service, .service reason => reason
    | .malformed, _ => "Connection error: the assistant sent an unreadable reply."
    | _, _ => "Connection failed. Please try again."⟩

/-- The banner of a conversation that could not be loaded. -/
def ofLoad (f : Failure) : Banner :=
  ⟨f.bannerKind?.getD .network, "Failed to load conversation messages"⟩

end Banner

/-- What came of a question. -/
inductive SendOutcome where
  /-- Nothing was asked. -/
  | ignored
  | delivered
  | failed (kind : BannerKind)
  /-- The answer came too late to matter. -/
  | discarded
  deriving DecidableEq, Repr

/-- A conversation and the exchange under way. -/
structure Pipeline where
  phase : Phase := .idle
  conversation : Option Int := none
  transcript : Transcript := .empty
  banner : Option Banner := none
  /-- The banner is about a question, which can be asked again. -/
  resendable : Bool := false
  generation : Nat := 0
  alive : Bool := true
  deriving DecidableEq, Repr, Inhabited

namespace Pipeline

/-- The decimal text of a number in a note. -/
def numberText (i : Int) : String := String.ofList (Text.decimalInt i)

/-! ### Asking -/

/-- Appends the user's message, to be asked. -/
def ask (p : Pipeline) (persona : Option String) (m : Message) : Pipeline × Question :=
  ({ p with
      phase := .sending
      banner := none
      resendable := false
      transcript := p.transcript.push m },
    ⟨m.content, p.conversation, persona⟩)

/-- Asks what the user typed, unless it is blank or an exchange is under way. -/
def send? (p : Pipeline) (persona : Option String) (text : String) (s : Supply) :
    Option (Pipeline × Question × Supply) :=
  if Text.isBlankText text || p.phase ≠ .idle then none
  else
    let (m, s) := Message.user text s
    let (p, q) := p.ask persona m
    some (p, q, s)

/-- The question of a generation is put to the server. -/
def pose (p : Pipeline) (generation : Nat) : Pipeline :=
  if p.generation = generation then { p with phase := .awaiting } else p

/-- What is noted of a message that is not sent. -/
def ignoreNote (p : Pipeline) (text : String) : Note :=
  ⟨.debug, if Text.isBlankText text then "Ignoring blank message"
    else "Ignoring send while " ++ p.phase.name⟩

/-- Asks the last question again, if it failed. -/
def retry? (p : Pipeline) (persona : Option String) : Option (Pipeline × Question) :=
  if p.phase = .idle && p.resendable then
    p.transcript.takeUser?.map fun (m, t) => { p with transcript := t }.ask persona m
  else none

/-! ### What comes back -/

/-- What a reply brings. -/
structure Arrival where
  message : Message
  artifacts : List Artifact
  conversation : Option Int

/-- What a reply says: a text is a message, an error without a text is the assistant's
failure, and anything else is of no use. -/
def interpret (r : Reply) (s : Supply) : Except Failure Arrival × Supply :=
  match r.text? with
  | some text =>
    let (m, s) := Message.agent (withInsights text r.insightLines) r.refs s
    let (as, s) := r.artifactList s
    (.ok ⟨m, as, r.conversation?⟩, s)
  | none =>
    match r.error? with
    | some reason => (.error (.service reason), s)
    | none => (.error (.malformed "reply has no usable message"), s)

/-- Whether what comes back for a generation is to be dropped. -/
def isStale (p : Pipeline) (generation : Nat) : Bool := !p.alive || p.generation != generation

/-- What became of an answer to a question. -/
inductive Receipt where
  | stale
  | failed (kind : BannerKind)
  /-- The message was appended; `adopted` is the number of the conversation if it is new. -/
  | delivered (message : Message) (artifacts : List Artifact) (adopted : Option Int)

/-- Takes in the answer to a question of a generation. -/
def receive (p : Pipeline) (generation : Nat) (answer : Except Failure Reply) (s : Supply) :
    Pipeline × Receipt × List Note × Supply :=
  if p.isStale generation then (p, .stale, [⟨.debug, "Discarding stale reply"⟩], s)
  else
    let (result, s) := match answer with
      | .ok r => interpret r s
      | .error f => (.error f, s)
    match result with
    | .ok arrival =>
      let adopted := arrival.conversation.filter (some · ≠ p.conversation)
      ({ p with
          phase := .idle
          transcript := p.transcript.push arrival.message
          conversation := match adopted with
            | some c => some c
            | none => p.conversation },
        .delivered arrival.message arrival.artifacts adopted, [], s)
    | .error f =>
      let banner := Banner.ofSend f
      ({ p with phase := .idle, banner := some banner, resendable := true },
        .failed banner.kind, [⟨.warn, "Send failed: " ++ f.message⟩], s)

/-! ### Loading and starting anew -/

/-- Starts to load a conversation. -/
def startLoad (p : Pipeline) : Pipeline :=
  { p with
    generation := p.generation + 1
    phase := .awaiting
    banner := none
    resendable := false }

/-- What is noted when a conversation starts to load. -/
def loadNote (id : Int) : Note := ⟨.info, "Loading conversation " ++ numberText id⟩

/-- What became of the entries of a conversation. -/
inductive LoadReceipt where
  | stale
  | failed (failure : Failure)
  | loaded

/-- Takes in the entries of a conversation loaded for a generation. -/
def receiveEntries (p : Pipeline) (id : Int) (generation : Nat)
    (answer : Except Failure (List HistoryEntry)) (s : Supply) :
    Pipeline × LoadReceipt × List Note × Supply :=
  if p.isStale generation then
    (p, .stale, [⟨.debug, "Discarding stale history for " ++ numberText id⟩], s)
  else
    match answer with
    | .ok entries =>
      let (ms, s) := HistoryEntry.toMessages entries s
      ({ p with phase := .idle, conversation := some id, transcript := ⟨ms⟩ }, .loaded,
        [⟨.info, "Loaded " ++ numberText ms.length ++ " message(s) for conversation " ++
          numberText id⟩], s)
    | .error f => ({ p with phase := .idle, banner := some (Banner.ofLoad f) }, .failed f, [], s)

/-- Drops the transcript and the number of the conversation. -/
def reset (p : Pipeline) : Pipeline :=
  { p with
    generation := p.generation + 1
    phase := .idle
    banner := none
    resendable := false
    conversation := none
    transcript := .empty }

/-- What is noted when everything starts anew. -/
def resetNote : Note := ⟨.info, "Started a new conversation"⟩

/-- Stops reacting to whatever comes back. -/
def unmount (p : Pipeline) : Pipeline := { p with alive := false }

/-- What is noted then. -/
def unmountNote : Note := ⟨.debug, "Chat pipeline unmounted"⟩

/-- Removes the banner; the question can no longer be asked again. -/
def dismiss (p : Pipeline) : Pipeline := { p with banner := none, resendable := false }

end Pipeline

end Parley
