import Parley.Artifact.Basic
import Parley.Journal

/-!
# The store of artifacts

Artifacts of one conversation, newest batch first and in its own order inside a batch. An
artifact whose identifier is already there is skipped, so a batch that arrives twice changes
nothing the second time.
-/

namespace Parley

/-- The stored artifacts, newest batch first. -/
structure Store where
  items : List Artifact
  deriving Inhabited

namespace Store

/-- No artifacts. -/
def empty : Store := ⟨[]⟩

/-- The identifiers in the store. -/
def ids (s : Store) : List String := s.items.map (·.id)

/-- The first artifact with an identifier. -/
def find? (s : Store) (id : String) : Option Artifact := s.items.find? (·.id == id)

/-- How many artifacts there are. -/
def size (s : Store) : Nat := s.items.length

/-- Chooses from a batch what is new, given the identifiers that are known; an artifact
without identifier is given one. Skipped ones are noted. -/
def choose : List Artifact → List String → Supply → List Artifact × List Note × Supply
  | [], _, s => ([], [], s)
  | a :: as, seen, s =>
    let (a, s) :=
      if a.id.isEmpty then
        let (id, s) := s.artifactId
        ({ a with id }, s)
      else (a, s)
    if seen.contains a.id then
      let (kept, notes, s) := choose as seen s
      (kept, ⟨.debug, "Skipping duplicate artifact " ++ a.id⟩ :: notes, s)
    else
      let (kept, notes, s) := choose as (a.id :: seen) s
      (a :: kept, notes, s)

/-- What comes of adding a batch. -/
structure Ingestion where
  store : Store
  added : Nat
  notes : List Note
  supply : Supply

/-- Adds a batch in front. -/
def ingest (st : Store) (batch : List Artifact) (s : Supply) : Ingestion :=
  let (kept, notes, s) := choose batch st.ids s
  let items := kept ++ st.items
  let stored : List Note :=
    if kept.isEmpty then []
    else [⟨.info, "Stored " ++ String.ofList (Text.decimal kept.length) ++
      " new artifact(s), " ++ String.ofList (Text.decimal items.length) ++ " total"⟩]
  ⟨⟨items⟩, kept.length, notes ++ stored, s⟩

/-- What is noted when the store is emptied. -/
def clearNotes (st : Store) : List Note :=
  if st.items.isEmpty then []
  else [⟨.debug, "Clearing " ++ String.ofList (Text.decimal st.size) ++ " artifact(s)"⟩]

/-- What is noted when the store stops listening. -/
def unmountNote : Note := ⟨.debug, "Artifact store unmounted"⟩

end Store

end Parley
