import Parley.Files.Disk
import Parley.Text.Entity

/-!
# A tree of files

Files and directories under one root, with the refusals of a file system as its user sees
them. A path is followed part by part: `.` stays, `..` goes back, a part that is too long or
not there stops, and so does going on from something that is no directory.
-/

namespace Parley

/-- Why a file system refuses. -/
inductive Refusal where
  | notFound
  | exists
  | notDirectory
  | isDirectory
  | nameTooLong
  /-- The path holds a character that no path can hold. -/
  | invalidPath
  /-- What was read is not text. -/
  | notText
  deriving DecidableEq, Repr

/-- The wording of a refusal. -/
def Refusal.message : Refusal → String
  | .notFound => "No such file or directory (os error 2)"
  | .exists => "File exists (os error 17)"
  | .notDirectory => "Not a directory (os error 20)"
  | .isDirectory => "Is a directory (os error 21)"
  | .nameTooLong => "File name too long (os error 36)"
  | .invalidPath => "file name contained an unexpected NUL byte"
  | .notText => "stream did not contain valid UTF-8"

/-- A place in the tree, as the names on the way to it. -/
abbrev Place := List String

/-- What is at a place: the bytes of a file, or a directory. -/
inductive Node where
  | file (bytes : ByteArray)
  | directory
  deriving Inhabited

/-- A tree: what is at every place but the root, which is a directory. -/
structure Tree where
  nodes : List (Place × Node)
  deriving Inhabited

namespace Tree

/-- Nothing but the root. -/
def empty : Tree := ⟨[]⟩

/-- What is at a place. -/
def node? (t : Tree) (p : Place) : Option Node :=
  if p.isEmpty then some .directory else (t.nodes.find? (·.1 = p)).map (·.2)

/-- Puts something at a place. -/
def put (t : Tree) (p : Place) (n : Node) : Tree := ⟨(p, n) :: t.nodes.filter (·.1 ≠ p)⟩

/-- The longest name of a file or directory, in bytes. -/
def nameLimit : Nat := 255

/-- Follows one part of a path from a place. -/
def goOn (t : Tree) (here : Place) (part : String) : Except Refusal Place :=
  match t.node? here with
  | some .directory =>
    if part == "." then .ok here
    else if part == ".." then .ok here.dropLast
    else if nameLimit < part.utf8ByteSize then .error .nameTooLong
    else .ok (here ++ [part])
  | some (.file _) => .error .notDirectory
  | none => .error .notFound

/-- A path in parts, and whether it has to lead to a directory because of a slash at its
end. -/
def partsOf (path : String) : List String × Bool :=
  let parts := (Text.splitChars '/' path.toList).map String.ofList
  (parts.filter (!·.isEmpty), path.endsWith "/")

/-- The place a path leads to; what is there, if anything, is not looked at. -/
def place (t : Tree) (path : String) : Except Refusal Place :=
  if path.toList.contains '\x00' then .error .invalidPath
  else (partsOf path).1.foldlM t.goOn []

/-- What is at the end of a path. -/
def lookup (t : Tree) (path : String) : Except Refusal Node := do
  match t.node? (← t.place path) with
  | some .directory => .ok .directory
  | some (.file bytes) => if (partsOf path).2 then .error .notDirectory else .ok (.file bytes)
  | none => .error .notFound

/-- Reads a text file. -/
def readText (t : Tree) (path : String) : Except Refusal String := do
  match ← t.lookup path with
  | .directory => .error .isDirectory
  | .file bytes =>
    match String.fromUTF8? bytes with
    | some s => .ok s
    | none => .error .notText

/-- Writes a file, a new one or in place of an old one. -/
def write (t : Tree) (path : String) (bytes : ByteArray) : Except Refusal Tree := do
  let p ← t.place path
  match t.node? p with
  | some .directory => .error .isDirectory
  | some (.file _) =>
    if (partsOf path).2 then .error .notDirectory else .ok (t.put p (.file bytes))
  | none =>
    match t.node? p.dropLast with
    | some .directory =>
      if (partsOf path).2 then .error .isDirectory else .ok (t.put p (.file bytes))
    | some (.file _) => .error .notDirectory
    | none => .error .notFound

/-- Whether a path leads to something. -/
def present (t : Tree) (path : String) : Bool := (t.lookup path).isOk

/-- Makes one directory where there is none. -/
def makeDir (t : Tree) (parts : List String) : Except Refusal Tree := do
  let p ← parts.foldlM t.goOn []
  match t.node? p with
  | some .directory => .ok t
  | some (.file _) => .error .exists
  | none =>
    match t.node? p.dropLast with
    | some .directory => .ok (t.put p .directory)
    | some (.file _) => .error .notDirectory
    | none => .error .notFound

/-- Makes a directory and those around it; the path is given from its last part on. -/
def makeAll (t : Tree) : List String → Except Refusal Tree
  | [] => .ok t
  | part :: outer =>
    let parts := (part :: outer).reverse
    match t.makeDir parts with
    | .ok t => .ok t
    | .error .notFound => do (← makeAll t outer).makeDir parts
    | .error e => .error e

/-- Makes a directory and those around it. -/
def makeDirs (t : Tree) (path : String) : Except Refusal Tree :=
  if path.toList.contains '\x00' then .error .invalidPath
  else t.makeAll (partsOf path).1.reverse

/-- A refusal as a failure of the program. -/
def asFailure {α : Type} (r : Except Refusal α) : Except Failure α :=
  r.mapError fun e => .files e.message

/-- Changes the tree unless that is refused. -/
def changing (f : Tree → Except Refusal Tree) : StateM Tree (Except Failure Unit) :=
  modifyGet fun t =>
    match f t with
    | .ok t' => (.ok (), t')
    | .error e => (.error (.files e.message), t)

/-- The operations on a tree of files. -/
def disk : Disk (StateM Tree) where
  read path := do return asFailure ((← get).readText path)
  write path text := changing (·.write path text.toUTF8)
  present path := do return (← get).present path
  makeDirs path := changing (·.makeDirs path)

end Tree

end Parley
