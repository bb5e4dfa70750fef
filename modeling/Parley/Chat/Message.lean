import Parley.Chat.Supply
import Parley.Json.Stamp
import Parley.Markdown

/-!
# Messages and transcripts

A message never changes once it is made. A message of the assistant carries the HTML of its
text; others do not, and neither does one whose HTML shows nothing.

A transcript only grows at its end, except that a last message of the user's can be taken
back, so that a question that failed can be put again without standing there twice.
-/

namespace Parley

open Time
open Json (Value)

/-- An entry of a transcript. -/
structure Message where
  id : String
  role : Role
  content : String
  html : Option String
  createdAt : Instant
  /-- The titles of the artifacts that came with the message. -/
  refs : List String
  deriving DecidableEq, Repr, Inhabited

/-- The HTML of a text unless there is nothing to show. -/
def snapshot (content : String) : Option String :=
  let html := Markdown.toHtml content
  if Markdown.isBlankHtml html then none else some html

/-- The HTML that a message of a role carries. -/
def Role.snapshot (role : Role) (content : String) : Option String :=
  match role with
  | .agent => Parley.snapshot content
  | _ => none

/-- A numbered line. -/
def numberedLine (n : Nat) (line : String) : String :=
  String.ofList (Text.decimal n) ++ ". " ++ line

/-- A text with lines of insight under it, numbered in their order. -/
def withInsights (content : String) (insights : List String) : String :=
  if insights.isEmpty then content
  else
    content ++ "\n\n**Key Insights:**\n" ++
      "\n".intercalate (insights.mapIdx fun i line => numberedLine (i + 1) line)

namespace Message

/-- A new message, of the time the clock shows. -/
def fresh (role : Role) (content : String) (refs : List String) (s : Supply) :
    Message × Supply :=
  let (id, s') := s.messageId role s.now
  (⟨id, role, content, role.snapshot content, s.now, refs⟩, s')

/-- A new message of the user's. -/
def user (content : String) (s : Supply) : Message × Supply := fresh .user content [] s

/-- A new message of the assistant's. -/
def agent (content : String) (refs : List String) (s : Supply) : Message × Supply :=
  fresh .agent content refs s

/-! ### As JSON -/

/-- A message as it is written, fields in the order of their declaration. -/
def toJson (m : Message) : Value :=
  .object ([("id", .string m.id), ("role", .string m.role.name), ("content", .string m.content)] ++
    (m.html.map fun h => ("html", .string h)).toList ++
    [("created_at", .string m.createdAt.renderZulu),
      ("artifact_refs", .array (m.refs.map .string))])

/-- A message of which some fields have been read. -/
structure Draft where
  id : Option String := none
  role : Option Role := none
  content : Option String := none
  html : Option String := none
  createdAt : Option Instant := none
  refs : List String := []

/-- How a message is read. -/
def layout : Json.Layout Draft Message where
  name := "Message"
  fields := [
    ⟨"id", false, fun room d => do return { d with id := ← Json.text room }⟩,
    ⟨"role", false, fun room d => do
      return { d with role := ← Json.nameOf Role.byName room }⟩,
    ⟨"content", false, fun room d => do return { d with content := ← Json.text room }⟩,
    ⟨"html", true, fun room d => do
      return { d with html := ← Json.optional Json.text room }⟩,
    ⟨"created_at", false, fun room d => do return { d with createdAt := ← Json.stamp room }⟩,
    ⟨"artifact_refs", true, fun room d => do
      return { d with refs := ← Json.listOf Json.text room }⟩]
  draft := {}
  finish d := do
    return ⟨← d.id, ← d.role, ← d.content, d.html, ← d.createdAt, d.refs⟩

/-- Reads a message that was written. -/
def decoder : Json.Decoder Message := layout.decoder

end Message

/-! ### Transcripts -/

/-- Messages in their order. -/
structure Transcript where
  messages : List Message
  deriving DecidableEq, Repr, Inhabited

namespace Transcript

/-- No messages. -/
def empty : Transcript := ⟨[]⟩

/-- Appends a message. -/
def push (t : Transcript) (m : Message) : Transcript := ⟨t.messages ++ [m]⟩

/-- The last message. -/
def last? (t : Transcript) : Option Message := t.messages.getLast?

/-- Takes back the last message if it is the user's. -/
def takeUser? (t : Transcript) : Option (Message × Transcript) :=
  match t.last? with
  | some m => if m.role = .user then some (m, ⟨t.messages.dropLast⟩) else none
  | none => none

/-- The number of messages. -/
def size (t : Transcript) : Nat := t.messages.length

@[simp] theorem messages_push (t : Transcript) (m : Message) :
    (t.push m).messages = t.messages ++ [m] := rfl

/-- What was taken back can be put again: the transcript is as it was. -/
theorem push_of_takeUser? {t t' : Transcript} {m : Message} (h : t.takeUser? = some (m, t')) :
    t'.push m = t := by
  obtain ⟨ms⟩ := t
  simp only [takeUser?, last?] at h
  split at h
  · rename_i x hx
    split at h
    · obtain ⟨rfl, rfl⟩ := Prod.mk.inj (Option.some.inj h)
      rw [List.getLast?_eq_some_iff] at hx
      obtain ⟨ys, rfl⟩ := hx
      simp [push]
    · cases h
  · cases h

/-- What is taken back is the user's. -/
theorem role_of_takeUser? {t t' : Transcript} {m : Message} (h : t.takeUser? = some (m, t')) :
    m.role = .user := by
  simp only [takeUser?] at h
  split at h
  · split at h
    · rename_i hrole
      obtain ⟨rfl, -⟩ := Prod.mk.inj (Option.some.inj h)
      exact hrole
    · cases h
  · cases h

end Transcript

end Parley
