import Parley.Chat.History
import Parley.Http.Exchange
import Parley.Settings.Basic

/-!
# Talking to the server

The server has an address under which it is asked, and there may be a second one for
questions: if the first does not know what it is asked for, the question is put once to the
second, and whatever goes wrong there is a matter of the network.
-/

namespace Parley.Http

/-- How the server is reached. -/
structure Server where
  base : String
  fallback : Option String
  backoff : Backoff
  /-- What becomes of the names in its addresses. -/
  names : Naming

namespace Server

/-- A server at addresses as they were typed. -/
def trimmed (base : String) (fallback : Option String) (backoff : Backoff)
    (names : Naming := .ascii) : Server :=
  ⟨Settings.trimUrl base, (fallback.map Settings.trimUrl).bind Settings.unlessEmpty, backoff, names⟩

/-- The server that the settings name. -/
def ofSettings (s : Settings) (names : Naming := .ascii) : Server :=
  trimmed s.apiUrl s.fallbackUrl s.backoff names

/-- Where questions are put. -/
def questionPath : String := "/chat/message"

/-- Where conversations are listed. -/
def conversationsPath : String := "/chat/conversations"

variable {m : Type → Type} [Monad m]

/-- Puts a question to the second address, after the first gave a 404. -/
def sendToFallback (wire : Wire m) (s : Server) (body : String) : Talk m Response := do
  match s.fallback with
  | none => throw (.network (s.base ++ questionPath ++ " returned 404"))
  | some fallback =>
    let url := fallback ++ questionPath
    jot ⟨.warn, "Primary endpoint returned 404, trying fallback " ++ url⟩
    match ← perform (attempt wire (Request.to s.names .post url [] (some body))) with
    | .error reason => throw (.network ("Fallback " ++ url ++ " failed: " ++ reason))
    | .ok r =>
      if isSuccess r.status then return r
      else throw (.network ("Fallback " ++ url ++ " returned " ++ statusText r.status))

/-- Puts a question. -/
def send (wire : Wire m) (s : Server) (q : Question) : Talk m Reply := do
  if Text.isBlankText q.text then throw (.validation "query must not be empty")
  let url := s.base ++ questionPath
  jot ⟨.debug, "POST " ++ url⟩
  let body := q.toJson.render
  let r ← attempts wire s.backoff "POST /chat/message" (Request.to s.names .post url [] (some body))
  let r ← if r.status = notFound then sendToFallback wire s body
    else liftExcept r.granted
  liftExcept (Reply.ofBody (← liftExcept r.text))
where
  /-- A result that is there already. -/
  liftExcept {α : Type} (e : Except Failure α) : Talk m α := ExceptT.mk (pure e)

/-- Reads the list in a response. -/
def readList {α : Type} (read : Json.Decoder (List α)) (r : Response) :
    Except Failure (List α) := do
  let body ← (← r.granted).text
  (Json.decode read body).mapError fun e => .malformed e.message

/-- Asks for something by its address and reads the list that comes back. -/
def fetch {α : Type} (wire : Wire m) (s : Server) (what url : String)
    (pairs : List (String × String)) (read : Json.Decoder (List α)) : Talk m (List α) := do
  let r ← attempts wire s.backoff what (Request.to s.names .get url pairs none)
  ExceptT.mk (pure (readList read r))

/-- Asks for the latest conversations of a user. -/
def summaries (wire : Wire m) (s : Server) (userId : Int) (limit : Nat) :
    Talk m (List Summary) := do
  let url := s.base ++ conversationsPath
  let user := String.ofList (Text.decimalInt userId)
  let most := String.ofList (Text.decimal limit)
  jot ⟨.debug, "GET " ++ url ++ " (user_id=" ++ user ++ ", limit=" ++ most ++ ")"⟩
  s.fetch wire "GET /chat/conversations" url [("user_id", user), ("limit", most)] conversationList

/-- Asks for the entries of a conversation. -/
def entries (wire : Wire m) (s : Server) (conversation : Int) : Talk m (List HistoryEntry) := do
  let url := s.base ++ conversationsPath ++ "/" ++ String.ofList (Text.decimalInt conversation) ++
    "/messages"
  jot ⟨.debug, "GET " ++ url⟩
  s.fetch wire "GET conversation messages" url [] entryList

end Server

end Parley.Http
