import Parley.Files.Disk

/-!
# A file system in memory

Files under their paths, and a list of the operations that are to fail. Every operation is
written down, so one can see afterwards what was asked of it.
-/

namespace Parley

/-- The operations that can be told to fail. -/
inductive DiskCall where
  | read
  | write
  | makeDirs
  deriving DecidableEq, Repr

/-- The name of an operation. -/
def DiskCall.name : DiskCall → String
  | .read => "read"
  | .write => "write"
  | .makeDirs => "mkdir"

/-- A file system in memory. -/
structure Memory where
  directories : List String
  files : List (String × String)
  failing : List DiskCall
  /-- What was asked of it, latest first. -/
  log : List String
  deriving Repr, Inhabited

namespace Memory

/-- No files and no directories. -/
def empty : Memory := ⟨[], [], [], []⟩

/-- The text of a file. -/
def file? (d : Memory) (path : String) : Option String :=
  (d.files.find? (·.1 == path)).map (·.2)

/-- Writes down an operation. -/
def record (d : Memory) (what path : String) : Memory :=
  { d with log := (what ++ " " ++ path) :: d.log }

/-- Puts a text under a path. -/
def put (d : Memory) (path text : String) : Memory :=
  { d with files := (path, text) :: d.files.filter (·.1 != path) }

/-- Why an operation that is to fail does so. -/
def refusal (c : DiskCall) : Failure := .storage (c.name ++ " refused")

/-- The operations on a file system in memory. -/
def disk : Disk (StateM Memory) where
  read path := modifyGet fun d =>
    let r : Except Failure String :=
      if d.failing.contains .read then .error (refusal .read)
      else match d.file? path with
        | some text => .ok text
        | none => .error (.storage "no such file")
    (r, d.record DiskCall.read.name path)
  write path text := modifyGet fun d =>
    let d := d.record DiskCall.write.name path
    if d.failing.contains .write then (.error (refusal .write), d) else (.ok (), d.put path text)
  present path := modifyGet fun d =>
    (d.directories.contains path || (d.file? path).isSome, d.record "exists" path)
  makeDirs path := modifyGet fun d =>
    let d := d.record DiskCall.makeDirs.name path
    if d.failing.contains .makeDirs then (.error (refusal .makeDirs), d)
    else (.ok (), { d with directories := path :: d.directories })

end Memory

end Parley
