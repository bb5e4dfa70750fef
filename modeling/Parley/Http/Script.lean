import Parley.Http.Exchange

/-!
# A server that plays a script

Two lists of replies, one for requests below a path of their own and one for all others. Every
request takes the next reply of its list; at the end of the list every reply is the same. What
arrived is written down.
-/

namespace Parley.Http

/-- A server that plays a script. -/
structure Script where
  /-- The replies to requests below `asidePath`; a reply may be missing. -/
  aside : List (Option Response)
  /-- The replies to all other requests. -/
  main : List (Option Response)
  /-- The reply when a list is used up. -/
  last : Option Response
  /-- The requests that arrived, latest first. -/
  arrived : List Request := []

namespace Script

/-- Requests below this path have a list of replies of their own. -/
def asidePath : String := "/fallback/"

/-- Plays the reply to a request. -/
def play (s : Script) (r : Request) : Option Response × Script :=
  let s := { s with arrived := r :: s.arrived }
  if r.url.target.startsWith asidePath then (s.aside.headD s.last, { s with aside := s.aside.tail })
  else (s.main.headD s.last, { s with main := s.main.tail })

/-- What comes back over a connection: nothing for a status that is none, and no body where
the status does not admit one. -/
def received (status : Nat) (body : Option ByteArray) : Option Response :=
  if status < 101 || (101 < status && status < 200) || 999 < status then none
  else if status = 204 || status = 304 then some ⟨status, some .empty⟩
  else some ⟨status, body⟩

/-- A script as the world that requests are sent into; no time passes. -/
def wire : Wire (StateM Script) where
  exchange r := modifyGet (·.play r)
  pause _ := pure ()

end Script

end Parley.Http
