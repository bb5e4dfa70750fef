import Parley.Failure
import Parley.Http.Status
import Parley.Http.Url
import Parley.Journal
import Parley.Json.Printer
import Parley.Json.Reader
import Parley.Transport.Backoff

/-!
# Requests and what comes of them

A request is answered by a response or by nothing at all. Only in the second case it is sent
again, after a pause, as often as the rule for that allows; a response of any kind ends the
attempts. An address to which nothing can be sent counts as no response.

`Wire` is the outside world, in any monad: what becomes of a request, and the passing of time. One
exchange is all that becomes of a request that a client sends once: if the server redirects it, the
client follows, and the response is the one in the end, or none if it gave up on the way.

Of a response only the status and the body matter. The body is read as UTF-8, with or without a
mark of the order of bytes in front, whatever kind of content it is said to be: other character
sets, and the marks of UTF-16, are not known.
-/

namespace Parley.Http

open Time

/-- What is asked of a server. -/
inductive Method where
  | get
  | post
  deriving DecidableEq, Repr

/-- The name of a method. -/
def Method.name : Method → String
  | .get => "GET"
  | .post => "POST"

/-- A request. -/
structure Request where
  method : Method
  url : Url
  body : Option String
  deriving DecidableEq, Repr

/-- A response, without what is said of the kind of its content. Its body is missing if the
connection broke off in the middle of it. -/
structure Response where
  status : Nat
  body : Option ByteArray

/-- The world that requests are sent into. -/
structure Wire (m : Type → Type) where
  /-- What comes back for a request that is sent once, redirections and all, if anything does. -/
  exchange : Request → m (Option Response)
  /-- Lets a while pass. -/
  pause : Span → m Unit

/-- An exchange with the world that may fail and leaves notes. -/
abbrev Talk (m : Type → Type) := ExceptT Failure (StateT (List Note) m)

section Talking

variable {m : Type → Type} [Monad m]

/-- Leaves a note. -/
def jot (n : Note) : Talk m Unit := modify (· ++ [n])

/-- Does something in the world. -/
def perform {α : Type} (act : m α) : Talk m α := ExceptT.lift (StateT.lift act)

/-- The result of an exchange and its notes. -/
def Talk.result {α : Type} (t : Talk m α) : m (Except Failure α × List Note) :=
  StateT.run (ExceptT.run t) []

end Talking

/-! ### Requests -/

/-- What an address is called when nothing can be sent to it. -/
def unusable (u : Url) : String := "builder error for url (" ++ u.render ++ ")"

/-- A request to an address, or why there can be none. -/
def Request.to (names : Naming) (method : Method) (address : String)
    (pairs : List (String × String)) (body : Option String) : Except String Request :=
  match Url.parse names address with
  | none => .error "builder error"
  | some u =>
    if !u.hasHost then .error (unusable u)
    else
      let u := if pairs.isEmpty then u else u.addPairs pairs
      if u.isHttp then .ok ⟨method, u, body⟩ else .error (unusable u)

section Attempts

variable {m : Type → Type} [Monad m]

/-- Sends a request once: the response, or what is said when there is none. -/
def attempt (wire : Wire m) : Except String Request → m (Except String Response)
  | .error reason => pure (.error reason)
  | .ok r => do
    match ← wire.exchange r with
    | some response => return .ok response
    | none => return .error ("error sending request for url (" ++ r.url.render ++ ")")

/-- What is noted before a request is sent again. -/
def retryNote (b : Backoff) (what reason : String) (number : Nat) : Note :=
  ⟨.warn, what ++ " failed (" ++ reason ++ "), retry " ++ String.ofList (Text.decimal number) ++
    "/" ++ String.ofList (Text.decimal b.retries) ++ " in " ++ (b.pause number).render⟩

/-- Sends a request until there is a response, at most `left` times more than once; `made`
is how many attempts have been made. -/
def attemptsFrom (wire : Wire m) (b : Backoff) (what : String) (r : Except String Request) :
    Nat → Nat → Talk m Response
  | left, made => do
    match ← perform (attempt wire r) with
    | .ok response => return response
    | .error reason =>
      match left with
      | 0 =>
        throw (.network (what ++ " failed after " ++ String.ofList (Text.decimal (made + 1)) ++
          " attempt(s): " ++ reason))
      | left + 1 => do
        jot (retryNote b what reason (made + 1))
        perform (wire.pause (b.pause (made + 1)))
        attemptsFrom wire b what r left (made + 1)

/-- Sends a request until there is a response, as often as the rule allows. -/
def attempts (wire : Wire m) (b : Backoff) (what : String) (r : Except String Request) :
    Talk m Response :=
  attemptsFrom wire b what r b.retries 0

end Attempts

/-! ### Responses -/

namespace Response

/-- The text of the body. -/
def text (r : Response) : Except Failure String :=
  match r.body with
  | some bytes => .ok (Text.ofBytes bytes)
  | none => .error (.network "Failed to read response body: error decoding response body")

/-- What the body of a response says is wrong. -/
def detail? (body : String) : Option String := do
  let v ← (Json.parse body).toOption
  let d ← match v.get? "detail" with
    | some d => some d
    | none => v.get? "error"
  match d with
  | .string s => some s
  | .null => none
  | d => some d.render

/-- The failure that a response with a status that is no success amounts to. -/
def failure (r : Response) : Failure :=
  let said := match r.text with
    | .ok body => detail? body
    | .error _ => none
  .status r.status (said.getD ((phrase? r.status).getD "request failed"))

/-- A response that grants the request. -/
def granted (r : Response) : Except Failure Response :=
  if isSuccess r.status then .ok r else .error r.failure

end Response

end Parley.Http
