import Parley.Failure
import Parley.Artifact.Basic
import Parley.Chat.Message
import Parley.Numeral.Whole

/-!
# What the server tells

The shapes in which the server answers: a reply to a question, the list of conversations, and
the entries of one conversation. Most of their fields may be missing or of any type, so they
are kept as they came, and a few tolerant readings say what is used of them.
-/

namespace Parley

open Time Numeral
open Json (Value)

/-! ### Tolerant readings -/

/-- Lines of text: the items of a list, strings as they are, nulls left out, everything else
as it is written. -/
def linesIn : Option Value → List String
  | some (.array items) => items.filterMap fun
    | .null => none
    | .string s => some s
    | v => some v.render
  | _ => []

/-- The titles in a list: strings, and the titles of objects that have one. -/
def titlesIn : Option Value → List String
  | some (.array items) => items.filterMap fun
    | .string s => some s
    | .object fs => (Value.lookup "title" fs).bind (·.text?)
    | _ => none
  | _ => []

/-- The number of a conversation: a whole number, or a string that holds one. -/
def conversationIn : Option Value → Option Int
  | some (.number n) => n.int64?
  | some (.string s) => whole? .int64 (Text.trim s)
  | _ => none

/-! ### Replies -/

/-- A reply to a question. -/
structure Reply where
  conversation : Option Value := none
  message : Option Value := none
  error : Option Value := none
  artifacts : Option Value := none
  insights : Option Value := none
  analysis : Option Value := none
  deriving Repr, BEq, Inhabited

namespace Reply

/-- The text of the reply: a string that is not empty. -/
def text? (r : Reply) : Option String :=
  match r.message with
  | some (.string s) => if s.isEmpty then none else some s
  | _ => none

/-- The error the assistant reports, as text. -/
def error? (r : Reply) : Option String :=
  match r.error with
  | none | some .null => none
  | some (.string s) => some s
  | some v => some (((v.get? "message").bind (·.text?)).getD v.render)

/-- The artifacts of the reply. -/
def artifactList (r : Reply) (s : Supply) : List Artifact × Supply :=
  match r.artifacts with
  | some (.array entries) => Artifact.ofWireAll entries s
  | _ => ([], s)

/-- The titles of the reply's artifacts. -/
def refs (r : Reply) : List String := titlesIn r.artifacts

/-- The lines of insight, or else those of the analysis. -/
def insightLines (r : Reply) : List String :=
  match linesIn r.insights with
  | [] => linesIn r.analysis
  | ls => ls

/-- The number of the conversation the reply belongs to. -/
def conversation? (r : Reply) : Option Int := conversationIn r.conversation

/-- A field that may be null for nothing. -/
def presentIn (fields : List (String × Value)) (key : String) : Option Value :=
  match Value.lookup key fields with
  | some .null => none
  | v => v

/-- The reply of some fields, null being nothing. -/
def ofFields (fs : List (String × Value)) : Reply where
  conversation := presentIn fs "conversation_id"
  message := presentIn fs "message"
  error := presentIn fs "error"
  artifacts := presentIn fs "artifacts"
  insights := presentIn fs "insights"
  analysis := presentIn fs "analysis"

/-- How a reply is read without regard to what it holds. -/
def layout : Json.Layout Reply Reply where
  name := "ChatReply"
  fields :=
    let any := Json.optional Json.anyValue
    [⟨"conversation_id", true, fun room r => do return { r with conversation := ← any room }⟩,
      ⟨"message", true, fun room r => do return { r with message := ← any room }⟩,
      ⟨"error", true, fun room r => do return { r with error := ← any room }⟩,
      ⟨"artifacts", true, fun room r => do return { r with artifacts := ← any room }⟩,
      ⟨"insights", true, fun room r => do return { r with insights := ← any room }⟩,
      ⟨"analysis", true, fun room r => do return { r with analysis := ← any room }⟩]
  draft := {}
  finish := some

/-- The keys of a reply. -/
def keys : List String := layout.fields.map (·.name)

/-- Refuses fields that give a key of a reply a second time. Other keys are passed over. -/
def checkKeys : List String → List (String × Value) → Except Json.Fault Unit
  | _, [] => .ok ()
  | seen, (key, _) :: fs =>
    if keys.contains key then
      if seen.contains key then .error (.duplicateField key) else checkKeys (key :: seen) fs
    else checkKeys seen fs

/-- The reply that an object holds. Any value will do for a field, but each may be given once. -/
def ofObject (fs : List (String × Value)) : Except Json.Fault Reply := do
  checkKeys [] fs
  return ofFields fs

/-- Reads the body of a response as a reply: an object with a message or an error. -/
def ofBody (body : String) : Except Failure Reply :=
  match Json.parse body with
  | .error e => .error (.malformed ("body is not JSON: " ++ e.message))
  | .ok (.object fs) =>
    if (Value.lookup "message" fs).isSome || (Value.lookup "error" fs).isSome then
      (ofObject fs).mapError fun e => .malformed e.message
    else .error (.malformed "reply has neither message nor error")
  | .ok _ => .error (.malformed "body is not a JSON object")

end Reply

/-! ### Questions -/

/-- A question as it is put to the assistant. -/
structure Question where
  text : String
  conversation : Option Int
  persona : Option String
  deriving DecidableEq, Repr, Inhabited

/-- A question as it is sent, fields in the order of their declaration, absent ones left
out. -/
def Question.toJson (q : Question) : Value :=
  .object ([("query", .string q.text)] ++
    (q.conversation.map fun c => ("conversation_id", .number (.integer c))).toList ++
    (q.persona.map fun p => ("persona", .string p)).toList)

/-! ### Conversations -/

/-- What the list of conversations says of one. -/
structure Summary where
  id : Int
  title : Option String
  messageCount : Option Nat
  createdAt : Option String
  updatedAt : Option String
  deriving DecidableEq, Repr, Inhabited

namespace Summary

/-- A summary as it is written. -/
def toJson (c : Summary) : Value :=
  let text : Option String → Value := fun
    | some s => .string s
    | none => .null
  .object [("id", .number (.integer c.id)), ("title", text c.title),
    ("message_count", match c.messageCount with
      | some n => .number (.integer n)
      | none => .null),
    ("created_at", text c.createdAt), ("updated_at", text c.updatedAt)]

/-- A summary of which some fields have been read. -/
structure Draft where
  id : Option Int := none
  title : Option String := none
  messageCount : Option Nat := none
  createdAt : Option String := none
  updatedAt : Option String := none

/-- How a summary is read. -/
def layout : Json.Layout Draft Summary where
  name := "ConversationSummary"
  fields :=
    let text := Json.optional Json.text
    [⟨"id", false, fun room d => do return { d with id := ← Json.int64 room }⟩,
      ⟨"title", true, fun room d => do return { d with title := ← text room }⟩,
      ⟨"message_count", true, fun room d => do
        return { d with messageCount := ← Json.optional Json.word32 room }⟩,
      ⟨"created_at", true, fun room d => do return { d with createdAt := ← text room }⟩,
      ⟨"updated_at", true, fun room d => do return { d with updatedAt := ← text room }⟩]
  draft := {}
  finish d := do
    return ⟨← d.id, d.title, d.messageCount, d.createdAt, d.updatedAt⟩

/-- Reads a summary. -/
def decoder : Json.Decoder Summary := layout.decoder

end Summary

/-! ### Entries of a conversation -/

/-- An entry of a conversation as the server keeps it. -/
structure HistoryEntry where
  id : Option Value := none
  role : Option String := none
  content : Option String := none
  createdAt : Option String := none
  timestamp : Option String := none
  metadata : Option Value := none
  deriving Repr, BEq, Inhabited

namespace HistoryEntry

/-- The lines of insight kept with the entry. -/
def insights (e : HistoryEntry) : List String := linesIn (e.metadata.bind (·.get? "insights"))

/-- The titles of the artifacts kept with the entry. -/
def titles (e : HistoryEntry) : List String := titlesIn (e.metadata.bind (·.get? "artifacts"))

/-- How an entry is read. -/
def layout : Json.Layout HistoryEntry HistoryEntry where
  name := "RawMessage"
  fields :=
    let text := Json.optional Json.text
    let any := Json.optional Json.anyValue
    [⟨"id", true, fun room e => do return { e with id := ← any room }⟩,
      ⟨"role", true, fun room e => do return { e with role := ← text room }⟩,
      ⟨"content", true, fun room e => do return { e with content := ← text room }⟩,
      ⟨"created_at", true, fun room e => do return { e with createdAt := ← text room }⟩,
      ⟨"timestamp", true, fun room e => do return { e with timestamp := ← text room }⟩,
      ⟨"metadata", true, fun room e => do return { e with metadata := ← any room }⟩]
  draft := {}
  finish := some

/-- Reads an entry. -/
def decoder : Json.Decoder HistoryEntry := layout.decoder

/-- The time an entry gives, with an offset or, without one, in universal time. Only the
first of its two time fields that is there is looked at. -/
def time? (e : HistoryEntry) : Option Instant :=
  let field := match e.createdAt with
    | some t => some t
    | none => e.timestamp
  field.bind fun t =>
    match Instant.ofRfc3339? t with
    | some x => some x
    | none => Instant.ofLocal? t

/-- The role of an entry; one without a role is neither user nor assistant. -/
def author (e : HistoryEntry) : Role :=
  match e.role with
  | some r => .ofWire r
  | none => .system

/-- The message of an entry. -/
def toMessage (e : HistoryEntry) (s : Supply) : Message × Supply :=
  let role := e.author
  let text := e.content.getD ""
  let content := if role = .agent then withInsights text e.insights else text
  let time := e.time?.getD s.now
  let (id, s) := match Artifact.givenId? e.id with
    | some id => (id, s)
    | none => s.messageId role time
  (⟨id, role, content, role.snapshot content, time, e.titles⟩, s)

/-- The messages of a list of entries. -/
def toMessages : List HistoryEntry → Supply → List Message × Supply
  | [], s => ([], s)
  | e :: es, s =>
    let (m, s) := e.toMessage s
    let (ms, s) := toMessages es s
    (m :: ms, s)

end HistoryEntry

/-! ### Lists -/

/-- How a response with one list is read. -/
def listLayout {α : Type} (name key : String) (item : Json.Decoder α) :
    Json.Layout (List α) (List α) where
  name := name
  fields := [⟨key, true, fun room _ => Json.listOf item room⟩]
  draft := []
  finish := some

/-- Reads the response that lists conversations. -/
def conversationList : Json.Decoder (List Summary) :=
  (listLayout "ConversationList" "conversations" Summary.decoder).decoder

/-- Reads the response that lists the entries of a conversation. -/
def entryList : Json.Decoder (List HistoryEntry) :=
  (listLayout "MessageList" "messages" HistoryEntry.decoder).decoder

/-! ### The saved session -/

/-- What is kept between two runs: the conversation the user was in. -/
structure SavedSession where
  conversation : Option Int := none
  deriving DecidableEq, Repr, Inhabited

namespace SavedSession

/-- A session as it is written. -/
def toJson (s : SavedSession) : Value :=
  .object [("conversation_id", match s.conversation with
    | some c => .number (.integer c)
    | none => .null)]

/-- How a session is read. -/
def layout : Json.Layout SavedSession SavedSession where
  name := "SessionState"
  fields := [⟨"conversation_id", true, fun room _ => do
    return ⟨← Json.optional Json.int64 room⟩⟩]
  draft := {}
  finish := some

/-- Reads a session. -/
def decoder : Json.Decoder SavedSession := layout.decoder

end SavedSession

end Parley
