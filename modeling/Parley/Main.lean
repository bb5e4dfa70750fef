import Parley.Files.Tree
import Parley.Settings.Dotenv
import Parley.Shell.Session
import Std.Time.DateTime.Timestamp

/-!
# The program

The session of `Parley.Shell` at a real prompt, with the session file on a real disk and the
time from a real clock. There is no network here: no request gets a response, so the program
shows what it does when its server is out of reach.
-/

namespace Parley.Terminal

/-- The time. -/
def readClock : IO Time.Instant := do
  let d := (← Std.Time.Timestamp.now).toNanosecondsSinceUnixEpoch.val
  return ⟨d / 1000000000, (d % 1000000000).toNat⟩

/-- The wording of an error of the system. -/
def wording : IO.Error → String
  | .noFileOrDirectory _ _ _ => Refusal.notFound.message
  | .alreadyExists _ _ _ => Refusal.exists.message
  | e => toString e

/-- An action of the system as one that may fail. -/
def guarded {α : Type} (act : IO α) : IO (Except Failure α) := do
  try return .ok (← act)
  catch e => return .error (.files (wording e))

/-- The disk. -/
def disk : Disk IO where
  read path := guarded (IO.FS.readFile path)
  write path text := guarded (IO.FS.writeFile path text)
  present path := do
    match ← guarded (IO.FS.Handle.mk path .read) with
    | .ok _ => return true
    | .error _ => return false
  makeDirs path := guarded (IO.FS.createDirAll path)

/-- No request gets a response; pauses take their time. -/
def wire : Http.Wire IO where
  exchange _ := pure none
  pause s := IO.sleep (s.total / 1000000).toUInt32

/-- The variables that are looked at. -/
def variableNames : List String :=
  ["CHAT_API_URL", "CHAT_FALLBACK_URL", "CHAT_PERSONA", "CHAT_MAX_RETRIES", "CHAT_RETRY_BASE_MS",
    "CHAT_TIMEOUT_SECS", "CHAT_USER_ID", "CHAT_HISTORY_LIMIT", "CHAT_DATA_DIR", "XDG_DATA_HOME",
    "HOME", "RUST_LOG"]

/-- How many directories above the working one are searched for a file of settings. -/
def searchDepth : Nat := 64

/-- The text of the nearest file of settings. -/
def settingsFile : Nat → String → IO (Option String)
  | 0, _ => return none
  | n + 1, dir => do
    match ← guarded (IO.FS.readFile (dir ++ ".env")) with
    | .ok text => return some text
    | .error _ => settingsFile n ("../" ++ dir)

/-- The environment, with the file of settings taken in. -/
def environment : IO Environment := do
  let mut env := Environment.empty
  for name in variableNames do
    if let some value ← IO.getEnv name then env := env.insert name value
  match ← settingsFile searchDepth "" with
  | some text => return Dotenv.load env text
  | none => return env

/-- Prints a report; notes of little weight are left out, and all of them on demand. -/
def print (quiet : Bool) (r : Shell.Report) : IO Unit := do
  for line in r.printed do IO.println line
  unless quiet do
    for n in r.notes do
      if n.level ≠ .debug then IO.eprintln n.render

/-- Takes one line after another. -/
partial def loop (quiet : Bool) (ports : Ports IO) (a : App) : IO Unit := do
  let text ← (← IO.getStdin).getLine
  let line := Shell.Line.ofText text
  if text.isEmpty || line = .quit then print quiet (Shell.finish a)
  else
    let a := { a with supply := { a.supply with now := ← readClock } }
    let r ← Shell.step ports a line
    print quiet r
    loop quiet ports r.app

/-- Runs a session. -/
def run : IO UInt32 := do
  let env ← environment
  match Settings.load env with
  | .error f =>
    IO.eprintln (Shell.settingsComplaint f)
    return 1
  | .ok s =>
    let quiet := env.get? "RUST_LOG" = some "off"
    let world : World IO := ⟨wire, disk, .ofSettings s, s.dataDir⟩
    let now ← readClock
    let r ← Shell.start world.ports s ⟨now, 0, now.nanos⟩
    print quiet r
    loop quiet world.ports r.app
    return 0

end Parley.Terminal

/-- Runs a session at the prompt. -/
def main : IO UInt32 := Parley.Terminal.run
