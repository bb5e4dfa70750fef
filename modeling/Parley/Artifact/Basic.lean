import Parley.Chat.Supply
import Parley.Json.Decode
import Parley.Json.Stamp

/-!
# Artifacts

An artifact is a chart, a table, a report or a document that came with an answer. Its type is
an open set of tags; its content is opaque.

An artifact is read in two ways. `Artifact.ofWire?` takes an entry of an answer and never
fails on an object: what is missing or unusable is filled in. `Artifact.decoder` takes text
that an artifact was written to, and refuses everything else.
-/

namespace Parley

open Time
open Json (Value)

/-- The types of artifact the canvas knows. -/
inductive ArtifactKind where
  | chart
  | table
  | report
  | document
  | other (tag : String)
  deriving DecidableEq, Repr

namespace ArtifactKind

/-- The kind a tag stands for, without regard to case and blanks around. -/
def ofTag (tag : String) : ArtifactKind :=
  match Text.upper (Text.trim tag) with
  | "CHART" => .chart
  | "TABLE" => .table
  | "REPORT" => .report
  | "DOCUMENT" => .document
  | t => .other t

/-- The tag of a kind in its normal form. -/
def tag : ArtifactKind → String
  | .chart => "CHART"
  | .table => "TABLE"
  | .report => "REPORT"
  | .document => "DOCUMENT"
  | .other t => t

end ArtifactKind

/-- An artifact. -/
structure Artifact where
  id : String
  /-- The type tag as it came. -/
  tag : String
  title : String
  content : Value
  description : Option String
  createdAt : Instant
  deriving Repr, BEq, Inhabited

namespace Artifact

/-- The kind of an artifact. -/
def kind (a : Artifact) : ArtifactKind := .ofTag a.tag

/-- A new artifact. -/
def fresh (tag title : String) (content : Value) (s : Supply) : Artifact × Supply :=
  let (id, s) := s.artifactId
  (⟨id, tag, title, content, none, s.now⟩, s)

/-- The first string among the values of some fields. -/
def firstText (keys : List String) (v : Value) : Option String :=
  keys.findSome? fun k => (v.get? k).bind (·.text?)

/-- The identifier a server gave: a string that is not empty, or a number as it is written. -/
def givenId? : Option Value → Option String
  | some (.string s) => if s.isEmpty then none else some s
  | some (.number n) => some n.render
  | _ => none

/-- The time an entry gives: that of the first of its two time fields that is there. -/
def givenTime? (v : Value) : Option Instant :=
  let field := match v.get? "created_at" with
    | some t => some t
    | none => v.get? "createdAt"
  field.bind (·.text?) |>.bind Instant.ofRfc3339?

/-- The artifact of an entry of an answer; nothing if the entry is no object. -/
def ofWire? (v : Value) (s : Supply) : Option Artifact × Supply :=
  match v with
  | .object _ =>
    let (id, s) := match givenId? (v.get? "id") with
      | some id => (id, s)
      | none => s.artifactId
    (some {
      id
      tag := (firstText ["artifact_type", "artifactType", "type"] v).getD "UNKNOWN"
      title := (firstText ["title"] v).getD "Untitled"
      content := (v.get? "content").getD (.object [])
      description := firstText ["description"] v
      createdAt := (givenTime? v).getD s.now }, s)
  | _ => (none, s)

/-- The artifacts of a list of entries. -/
def ofWireAll : List Value → Supply → List Artifact × Supply
  | [], s => ([], s)
  | v :: vs, s =>
    let (a, s) := ofWire? v s
    let (as, s) := ofWireAll vs s
    (a.toList ++ as, s)

/-! ### As JSON -/

/-- An artifact as it is written, fields in the order of their declaration. -/
def toJson (a : Artifact) : Value :=
  .object ([("id", .string a.id), ("artifact_type", .string a.tag), ("title", .string a.title),
    ("content", a.content)] ++ (a.description.map fun d => ("description", .string d)).toList ++
    [("created_at", .string a.createdAt.renderZulu)])

/-- An artifact of which some fields have been read. -/
structure Draft where
  id : Option String := none
  tag : Option String := none
  title : Option String := none
  content : Option Value := none
  description : Option String := none
  createdAt : Option Instant := none

/-- How an artifact is read. -/
def layout : Json.Layout Draft Artifact where
  name := "Artifact"
  fields := [
    ⟨"id", false, fun room d => do return { d with id := ← Json.text room }⟩,
    ⟨"artifact_type", false, fun room d => do return { d with tag := ← Json.text room }⟩,
    ⟨"title", false, fun room d => do return { d with title := ← Json.text room }⟩,
    ⟨"content", false, fun room d => do return { d with content := ← Json.anyValue room }⟩,
    ⟨"description", true, fun room d => do
      return { d with description := ← Json.optional Json.text room }⟩,
    ⟨"created_at", false, fun room d => do
      return { d with createdAt := ← Json.stamp room }⟩]
  draft := {}
  finish d := do
    return ⟨← d.id, ← d.tag, ← d.title, ← d.content, d.description, ← d.createdAt⟩

/-- Reads an artifact that was written. -/
def decoder : Json.Decoder Artifact := layout.decoder

end Artifact

end Parley
