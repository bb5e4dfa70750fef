import Parley.Failure
import Parley.Files.Disk
import Parley.Numeral.Whole
import Parley.Settings.Environment
import Parley.Text.Blank
import Parley.Transport.Backoff

/-!
# Settings

Every setting is the value of a variable of the environment of its own, or a standard value if
there is no such variable. A variable that holds nothing but blanks counts as missing, with
two exceptions: there, it says that there is to be neither a second address nor a persona.

Numbers are read strictly, and the first variable, in a fixed order, that is no number of its
range is reported.
-/

namespace Parley

open Numeral Time

/-- What the program can be told when it starts. -/
structure Settings where
  /-- The address of the server. -/
  apiUrl : String
  /-- The address that is tried once when the server does not know what it is asked for. -/
  fallbackUrl : Option String
  persona : Option String
  backoff : Backoff
  /-- How long a request may take. -/
  timeout : Span
  userId : Int
  /-- How many conversations are listed. -/
  historyLimit : Nat
  /-- Where the session is kept. -/
  dataDir : String
  deriving DecidableEq, Repr

namespace Settings

/-- The settings when no variable is set, given where programs keep their data. -/
def standard (platformDir : String) : Settings where
  apiUrl := "http://localhost:3000/api/v1"
  fallbackUrl := some "http://localhost:8008/api/v1"
  persona := some "transformation_analyst"
  backoff := .standard
  timeout := ⟨30, 0⟩
  userId := 1
  historyLimit := 50
  dataDir := joinPath platformDir "chatcanvas"

/-- An address without blanks around and then without slashes at its end. -/
def trimUrl (url : String) : String :=
  String.ofList (Text.dropEndWhile (· = '/') (Text.trimChars url.toList))

/-- A text, unless there is nothing in it. -/
def unlessEmpty (s : String) : Option String := if s.isEmpty then none else some s

/-- The trimmed value of a variable, unless that is nothing. -/
def textAt (env : Environment) (name : String) : Option String :=
  (env.get? name).bind fun v => unlessEmpty (Text.trim v)

/-- The value of a variable that can be switched off by leaving it blank. -/
def optionalAt (env : Environment) (name : String) (clean : String → String)
    (standard : Option String) : Option String :=
  match env.get? name with
  | some v => unlessEmpty (clean v)
  | none => standard

/-- The number that a variable holds. -/
def numberAt (env : Environment) (name : String) (range : Range) (standard : Int) :
    Except Failure Int :=
  match textAt env name with
  | none => .ok standard
  | some v =>
    (readWhole range v.toList).mapError fun e =>
      .settings (name ++ " has invalid value '" ++ v ++ "': " ++ e.message)

/-- The settings that an environment makes. -/
def ofEnvironment (env : Environment) (platformDir : String) : Except Failure Settings := do
  let s := standard platformDir
  let retries ← numberAt env "CHAT_MAX_RETRIES" .word32 s.backoff.retries
  let base ← numberAt env "CHAT_RETRY_BASE_MS" .word64 500
  let timeout ← numberAt env "CHAT_TIMEOUT_SECS" .word64 s.timeout.seconds
  let userId ← numberAt env "CHAT_USER_ID" .int64 s.userId
  let limit ← numberAt env "CHAT_HISTORY_LIMIT" .word32 s.historyLimit
  return {
    apiUrl := ((textAt env "CHAT_API_URL").map trimUrl).getD s.apiUrl
    fallbackUrl := optionalAt env "CHAT_FALLBACK_URL" trimUrl s.fallbackUrl
    persona := optionalAt env "CHAT_PERSONA" Text.trim s.persona
    backoff := ⟨retries.toNat, .ofMillis base.toNat⟩
    timeout := ⟨timeout.toNat, 0⟩
    userId
    historyLimit := limit.toNat
    dataDir := (textAt env "CHAT_DATA_DIR").getD s.dataDir }

/-- Where programs keep their data: a directory that is set for that, or else one in the
user's home. A user without one is the administrator. -/
def platformDir (env : Environment) : String :=
  match (env.get? "XDG_DATA_HOME").filter (·.startsWith "/") with
  | some dir => dir
  | none =>
    joinPath (((env.get? "HOME").bind unlessEmpty).getD "/root") ".local/share"

/-- The settings of an environment, on the platform it describes. -/
def load (env : Environment) : Except Failure Settings := ofEnvironment env (platformDir env)

end Settings

end Parley
