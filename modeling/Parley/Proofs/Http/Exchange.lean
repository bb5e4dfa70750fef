import Mathlib.Data.List.Basic
import Parley.Http.Server

/-!
# What is asked of a server, and how often

A world is put up in which nothing is left to chance (`Parley.Http.rehearsal`): the requests that
are sent meet the outcomes of a script, one after the other, and every request and every pause is
written down.

The attempts at a request (`Parley.Http.attempts`) then come to one of two ends, which a script
decides between. Either all the attempts that the rule allows get no response, or the attempts end
with the first response there is; in both cases the moves up to there are known exactly
(`Parley.Http.tries`). What is made of a response is told by `Parley.Http.Server.Poses` for
questions, which may be put once more to the second address, and by `Parley.Http.Fetches` for
everything else.
-/

namespace Parley.Http

open Time

/-! ### A world that plays a script -/

/-- What is noticed of a program in the world. -/
inductive Move where
  | sends (r : Request)
  | waits (d : Span)
  deriving DecidableEq

namespace Move

/-- The request that is sent. -/
def request? : Move → Option Request
  | .sends r => some r
  | .waits _ => none

/-- The while that passes. -/
def pause? : Move → Option Span
  | .sends _ => none
  | .waits d => some d

end Move

/-- The requests that were sent. -/
def requests (ms : List Move) : List Request := ms.filterMap Move.request?

/-- The pauses that were made. -/
def pauses (ms : List Move) : List Span := ms.filterMap Move.pause?

/-- The world in which the requests meet the outcomes of a script, one after the other. -/
def rehearsal (script : Nat → Option Response) : Wire (StateM (List Move)) where
  exchange r := modifyGet fun ms => (script (requests ms).length, ms ++ [.sends r])
  pause d := modify (· ++ [.waits d])

/-- What comes of an exchange, and all that was noticed of it. -/
def Talk.rehearse {α : Type} (t : Talk (StateM (List Move)) α) : Except Failure α × List Move :=
  let ((x, _), ms) := Id.run (t.result.run [])
  (x, ms)

/-! ### Attempts -/

/-- The outcome of an attempt at a request; where nothing can be sent there is none. -/
def outcome? (e : Except String Request) (script : Nat → Option Response) (i : Nat) :
    Option Response :=
  match e with
  | .ok _ => script i
  | .error _ => none

/-- What is noticed of one attempt. -/
def once (e : Except String Request) : List Move :=
  match e with
  | .ok r => [.sends r]
  | .error _ => []

/-- What is noticed of an attempt and `k` more, with growing pauses between them, when `made`
attempts were made before. -/
def tries (b : Backoff) (e : Except String Request) (made : Nat) : Nat → List Move
  | 0 => once e
  | k + 1 => once e ++ .waits (b.pause (made + 1)) :: tries b e (made + 1) k

/-- The first response there is comes at an attempt. -/
structure FirstResponse (e : Except String Request) (script : Nat → Option Response) (k : Nat)
    (r : Response) : Prop where
  before : ∀ i < k, outcome? e script i = none
  here : outcome? e script k = some r

/-- **An attempt and `k` more send the request `k + 1` times.** -/
theorem requests_tries (b : Backoff) (r : Request) (made k : Nat) :
    requests (tries b (.ok r) made k) = List.replicate (k + 1) r := by
  induction k generalizing made with
  | zero => rfl
  | succ k ih =>
    have hcons : requests (tries b (.ok r) made (k + 1)) =
        r :: requests (tries b (.ok r) (made + 1) k) := rfl
    rw [hcons, ih, ← List.replicate_succ]

/-- **Before each of the `k` attempts there is the pause that its number asks for.** -/
theorem pauses_tries (b : Backoff) (e : Except String Request) (made k : Nat) :
    pauses (tries b e made k) = (List.range' (made + 1) k).map b.pause := by
  induction k generalizing made with
  | zero => cases e <;> rfl
  | succ k ih =>
    have hcons : pauses (tries b e made (k + 1)) =
        b.pause (made + 1) :: pauses (tries b e (made + 1) k) := by
      cases e <;> rfl
    rw [hcons, ih, List.range'_succ, List.map_cons]

/-- Where one attempt failed the next one meets the next outcome. -/
theorem outcome?_next (e : Except String Request) (script : Nat → Option Response)
    (ms : List Move) (d : Span) (i : Nat) :
    outcome? e script ((requests (ms ++ (once e ++ [.waits d]))).length + i) =
      outcome? e script ((requests ms).length + (i + 1)) := by
  cases e with
  | ok r =>
    have hlength : (requests (ms ++ (once (.ok r) ++ [.waits d]))).length =
        (requests ms).length + 1 := by
      simp [requests, once, Move.request?]
    rw [hlength, Nat.add_assoc, Nat.add_comm 1 i]
  | error reason => rfl

/-! ### Following an exchange -/

namespace Talk

variable {α β : Type} {t : Talk (StateM (List Move)) α} {f : α → Talk (StateM (List Move)) β}
  {ms ms' ms'' : List Move} {e : Failure}

/-- An exchange comes to a result, after some moves and with whatever notes. -/
def Comes (t : Talk (StateM (List Move)) α) (ms : List Move) (x : Except Failure α)
    (ms' : List Move) : Prop :=
  ∀ ns, ∃ ns', Id.run (((ExceptT.run t).run ns).run ms) = ((x, ns'), ms')

namespace Comes

theorem pure (a : α) : Comes (Pure.pure a) ms (.ok a) ms := fun ns => ⟨ns, rfl⟩

theorem result (x : Except Failure α) : Comes (ExceptT.mk (Pure.pure x)) ms x ms :=
  fun ns => ⟨ns, rfl⟩

theorem throw (e : Failure) : Comes (α := α) (MonadExcept.throw e) ms (.error e) ms :=
  fun ns => ⟨ns, rfl⟩

theorem jot (n : Note) : Comes (jot n) ms (.ok ()) ms := fun ns => ⟨ns ++ [n], rfl⟩

theorem perform {act : StateM (List Move) α} {a : α} (h : Id.run (act.run ms) = (a, ms')) :
    Comes (perform act) ms (.ok a) ms' := by
  intro ns
  refine ⟨ns, ?_⟩
  have hrun : Id.run (((ExceptT.run (Http.perform act)).run ns).run ms) =
      ((.ok (Id.run (act.run ms)).1, ns), (Id.run (act.run ms)).2) := rfl
  rw [hrun, h]

/-- One thing after the other. -/
theorem bind {a : α} {x : Except Failure β} (h : Comes t ms (.ok a) ms')
    (h' : Comes (f a) ms' x ms'') : Comes (t >>= f) ms x ms'' := by
  intro ns
  obtain ⟨ns', hns'⟩ := h ns
  obtain ⟨ns'', hns''⟩ := h' ns'
  refine ⟨ns'', ?_⟩
  rw [ExceptT.run_bind, StateT.run_bind, StateT.run_bind, Id.run_bind, hns']
  exact hns''

/-- What follows a failure is not done. -/
theorem bind_error (h : Comes t ms (.error e) ms') : Comes (t >>= f) ms (.error e) ms' := by
  intro ns
  obtain ⟨ns', hns'⟩ := h ns
  refine ⟨ns', ?_⟩
  rw [ExceptT.run_bind, StateT.run_bind, StateT.run_bind, Id.run_bind, hns']
  rfl

theorem rehearse {x : Except Failure α} (h : Comes t [] x ms) : t.rehearse = (x, ms) := by
  obtain ⟨ns, hns⟩ := h []
  have hrun : t.rehearse = ((Id.run (((ExceptT.run t).run []).run [])).1.1,
      (Id.run (((ExceptT.run t).run []).run [])).2) := rfl
  rw [hrun, hns]

end Comes

end Talk

/-! ### What attempts come to -/

section Attempts

open Talk

variable {script : Nat → Option Response} {e : Except String Request}

/-- One attempt meets the next outcome of the script. -/
theorem run_attempt (script : Nat → Option Response) (e : Except String Request)
    (ms : List Move) : ∃ reason, Id.run ((attempt (rehearsal script) e).run ms) =
      ((outcome? e script (requests ms).length).elim (.error reason) .ok, ms ++ once e) := by
  cases e with
  | error reason =>
    refine ⟨reason, ?_⟩
    rw [once, List.append_nil]
    rfl
  | ok r =>
    refine ⟨"error sending request for url (" ++ r.url.render ++ ")", ?_⟩
    rw [attempt, StateT.run_bind, Id.run_bind, outcome?]
    have hexchange : Id.run (((rehearsal script).exchange r).run ms) =
        (script (requests ms).length, ms ++ once (.ok r)) := rfl
    rw [hexchange]
    cases script (requests ms).length <;> rfl

theorem comes_attempt_of_none {ms : List Move}
    (h : outcome? e script (requests ms).length = none) :
    ∃ reason, Comes (perform (attempt (rehearsal script) e)) ms (.ok (.error reason))
      (ms ++ once e) := by
  obtain ⟨reason, hrun⟩ := run_attempt script e ms
  rw [h] at hrun
  exact ⟨reason, .perform hrun⟩

theorem comes_attempt_of_some {ms : List Move} {r : Response}
    (h : outcome? e script (requests ms).length = some r) :
    Comes (perform (attempt (rehearsal script) e)) ms (.ok (.ok r)) (ms ++ once e) := by
  obtain ⟨reason, hrun⟩ := run_attempt script e ms
  rw [h] at hrun
  exact .perform hrun

/-- **Attempts that get no response end in a failure of the network**, after the last one that the
rule allows. -/
theorem comes_attemptsFrom_silent (b : Backoff) (what : String) (left made : Nat) (ms : List Move)
    (h : ∀ i ≤ left, outcome? e script ((requests ms).length + i) = none) :
    ∃ reason, Comes (attemptsFrom (rehearsal script) b what e left made) ms
      (.error (.network reason)) (ms ++ tries b e made left) := by
  induction left generalizing made ms with
  | zero =>
    obtain ⟨reason, hattempt⟩ := comes_attempt_of_none (h 0 (Nat.le_refl 0))
    refine ⟨what ++ " failed after " ++ String.ofList (Text.decimal (made + 1)) ++
      " attempt(s): " ++ reason, ?_⟩
    rw [attemptsFrom]
    exact hattempt.bind (Comes.throw (Failure.network _))
  | succ left ih =>
    obtain ⟨reason, hattempt⟩ := comes_attempt_of_none (h 0 (Nat.zero_le _))
    obtain ⟨last, hrest⟩ := ih (made + 1) (ms ++ (once e ++ [.waits (b.pause (made + 1))]))
      fun i hi => (outcome?_next e script ms _ i).trans (h (i + 1) (Nat.succ_le_succ hi))
    refine ⟨last, ?_⟩
    rw [attemptsFrom]
    refine hattempt.bind ((Comes.jot _).bind ((Comes.perform rfl).bind ?_))
    simpa [tries] using hrest

/-- **Attempts end with the first response there is.** -/
theorem comes_attemptsFrom_answered (b : Backoff) (what : String) {left k : Nat} (hk : k ≤ left)
    (made : Nat) (ms : List Move) {r : Response}
    (hbefore : ∀ i < k, outcome? e script ((requests ms).length + i) = none)
    (hhere : outcome? e script ((requests ms).length + k) = some r) :
    Comes (attemptsFrom (rehearsal script) b what e left made) ms (.ok r)
      (ms ++ tries b e made k) := by
  induction k generalizing left made ms with
  | zero =>
    have hattempt := comes_attempt_of_some hhere
    rw [attemptsFrom.eq_def]
    exact hattempt.bind (.pure r)
  | succ k ih =>
    obtain ⟨left, rfl⟩ : ∃ l, left = l + 1 := ⟨left - 1, by omega⟩
    obtain ⟨reason, hattempt⟩ := comes_attempt_of_none (hbefore 0 (Nat.succ_pos k))
    have hrest := ih (Nat.le_of_succ_le_succ hk) (made + 1)
      (ms ++ (once e ++ [.waits (b.pause (made + 1))]))
      (fun i hi => (outcome?_next e script ms _ i).trans (hbefore (i + 1) (Nat.succ_lt_succ hi)))
      ((outcome?_next e script ms _ k).trans hhere)
    rw [attemptsFrom]
    refine hattempt.bind ((Comes.jot _).bind ((Comes.perform rfl).bind ?_))
    simpa [tries] using hrest

end Attempts

/-! ### What is made of a response -/

section Results

variable {α : Type}

/-- A failure of the network. -/
def IsNetwork (x : Except Failure α) : Prop := ∃ reason, x = .error (.network reason)

/-- What is read from the body of a response; a body that broke off is a failure of the network. -/
def Reads (read : String → Except Failure α) (r : Response) (x : Except Failure α) : Prop :=
  match r.body with
  | some bytes => x = read (Text.ofBytes bytes)
  | none => IsNetwork x

theorem reads_text (read : String → Except Failure α) (r : Response) :
    Reads read r (r.text.bind read) := by
  unfold Reads Response.text
  cases r.body with
  | some bytes => rfl
  | none => exact ⟨_, rfl⟩

/-- What comes of a request that is put to the first address only, and the moves that it takes. -/
structure Fetches (b : Backoff) (e : Except String Request) (read : String → Except Failure α)
    (script : Nat → Option Response) (x : Except Failure α) (ms : List Move) : Prop where
  /-- No attempt gets a response: there are as many as the rule allows, and growing pauses. -/
  silent : (∀ i ≤ b.retries, outcome? e script i = none) →
    IsNetwork x ∧ ms = tries b e 0 b.retries
  /-- The first response does not grant the request. -/
  refused : ∀ k ≤ b.retries, ∀ r, FirstResponse e script k r → isSuccess r.status = false →
    (∃ reason, x = .error (.status r.status reason)) ∧ ms = tries b e 0 k
  /-- The first response grants the request. -/
  granted : ∀ k ≤ b.retries, ∀ r, FirstResponse e script k r → isSuccess r.status = true →
    Reads read r x ∧ ms = tries b e 0 k

end Results

namespace Server

/-- A question as it is put to an address. -/
def posting (s : Server) (address : String) (q : Question) : Except String Request :=
  Request.to s.names .post (address ++ questionPath) [] (some q.toJson.render)

/-- Wherever a question is put, it is the same. -/
theorem body_of_posting {s : Server} {address : String} {q : Question} {r : Request}
    (h : s.posting address q = .ok r) : r.method = .post ∧ r.body = some q.toJson.render := by
  unfold posting Request.to at h
  split at h
  · cases h
  · split at h
    · cases h
    · simp only [List.isEmpty_nil, if_true] at h
      split at h
      · cases h
        exact ⟨rfl, rfl⟩
      · cases h

theorem exists_posting {s : Server} {address : String} {q : Question}
    (h : (s.posting address q).toOption.isSome = true) : ∃ r, s.posting address q = .ok r := by
  cases hr : s.posting address q with
  | ok r => exact ⟨r, rfl⟩
  | error reason =>
    rw [hr] at h
    cases h

/-- What comes of a question, and the moves that it takes. -/
structure Poses (s : Server) (q : Question) (script : Nat → Option Response)
    (x : Except Failure Reply) (ms : List Move) : Prop where
  /-- No attempt gets a response: the second address is not asked. -/
  silent : (∀ i ≤ s.backoff.retries, outcome? (s.posting s.base q) script i = none) →
    IsNetwork x ∧ ms = tries s.backoff (s.posting s.base q) 0 s.backoff.retries
  /-- The first response is neither a grant nor that there is nothing. -/
  refused : ∀ k ≤ s.backoff.retries, ∀ r, FirstResponse (s.posting s.base q) script k r →
    isSuccess r.status = false → r.status ≠ notFound →
    (∃ reason, x = .error (.status r.status reason)) ∧
      ms = tries s.backoff (s.posting s.base q) 0 k
  /-- The first response grants the request. -/
  granted : ∀ k ≤ s.backoff.retries, ∀ r, FirstResponse (s.posting s.base q) script k r →
    isSuccess r.status = true →
    Reads Reply.ofBody r x ∧ ms = tries s.backoff (s.posting s.base q) 0 k
  /-- There is nothing, and no second address. -/
  astray : ∀ k ≤ s.backoff.retries, ∀ r, FirstResponse (s.posting s.base q) script k r →
    r.status = notFound → s.fallback = none →
    IsNetwork x ∧ ms = tries s.backoff (s.posting s.base q) 0 k
  /-- There is nothing, and the question is put once to the second address. -/
  second : ∀ k ≤ s.backoff.retries, ∀ r, FirstResponse (s.posting s.base q) script k r →
    r.status = notFound → ∀ address, s.fallback = some address →
    ms = tries s.backoff (s.posting s.base q) 0 k ++ once (s.posting address q) ∧
      (outcome? (s.posting address q) script (k + 1) = none → IsNetwork x) ∧
      ∀ r', outcome? (s.posting address q) script (k + 1) = some r' →
        (isSuccess r'.status = false → IsNetwork x) ∧
          (isSuccess r'.status = true → Reads Reply.ofBody r' x)

end Server

section Exchanges

open Talk

variable {α : Type} {script : Nat → Option Response} {e : Except String Request}
  {b : Backoff} {k : Nat} {r : Response}

theorem comes_attempts_silent (b : Backoff) (what : String)
    (h : ∀ i ≤ b.retries, outcome? e script i = none) : ∃ reason,
    Comes (attempts (rehearsal script) b what e) [] (.error (.network reason))
      (tries b e 0 b.retries) :=
  comes_attemptsFrom_silent b what b.retries 0 [] fun i hi => by
    rw [requests, List.filterMap_nil, List.length_nil, Nat.zero_add]
    exact h i hi

theorem comes_attempts_answered (what : String) (hk : k ≤ b.retries)
    (h : FirstResponse e script k r) :
    Comes (attempts (rehearsal script) b what e) [] (.ok r) (tries b e 0 k) := by
  refine comes_attemptsFrom_answered b what hk 0 [] ?_ ?_
  · intro i hi
    rw [requests, List.filterMap_nil, List.length_nil, Nat.zero_add]
    exact h.before i hi
  · rw [requests, List.filterMap_nil, List.length_nil, Nat.zero_add]
    exact h.here

/-- Where a response came a request was sent. -/
theorem FirstResponse.exists_ok (h : FirstResponse e script k r) : ∃ req, e = .ok req := by
  cases e with
  | ok req => exact ⟨req, rfl⟩
  | error reason => cases h.here

theorem Response.granted_of_isSuccess (h : isSuccess r.status = true) : r.granted = .ok r :=
  if_pos h

theorem Response.granted_of_not_isSuccess (h : isSuccess r.status = false) :
    ∃ reason, r.granted = .error (.status r.status reason) :=
  ⟨_, if_neg (by simp [h])⟩

/-- The body of a response is read. -/
theorem comes_reading (r : Response) (ms : List Move) :
    Comes (do
      let body ← Server.send.liftExcept r.text
      Server.send.liftExcept (Reply.ofBody body)) ms (r.text.bind Reply.ofBody) ms := by
  have htext : Comes (Server.send.liftExcept r.text) ms r.text ms := .result r.text
  cases h : r.text with
  | ok body =>
    rw [h] at htext
    exact htext.bind (.result (Reply.ofBody body))
  | error f =>
    rw [h] at htext
    exact htext.bind_error

namespace Server

variable {s : Server} {q : Question} {ms : List Move}

/-! ### Requests to the first address only -/

theorem readList_of_isSuccess (read : Json.Decoder (List α)) (h : isSuccess r.status = true) :
    readList read r = r.text.bind fun body =>
      (Json.decode read body).mapError fun e => .malformed e.message := by
  rw [readList, Response.granted_of_isSuccess h]
  rfl

theorem readList_of_not_isSuccess (read : Json.Decoder (List α)) (h : isSuccess r.status = false) :
    ∃ reason, readList read r = .error (.status r.status reason) := by
  obtain ⟨reason, hreason⟩ := Response.granted_of_not_isSuccess h
  rw [readList, hreason]
  exact ⟨reason, rfl⟩

theorem comes_fetch (what url : String) (pairs : List (String × String))
    (read : Json.Decoder (List α)) (hk : k ≤ s.backoff.retries)
    (h : FirstResponse (Request.to s.names .get url pairs none) script k r) :
    Comes (s.fetch (rehearsal script) what url pairs read) [] (readList read r)
      (tries s.backoff (Request.to s.names .get url pairs none) 0 k) :=
  (comes_attempts_answered what hk h).bind (.result _)

/-- **What comes of a request to the first address.** -/
theorem fetches_of_fetch {t : Talk (StateM (List Move)) (List α)} (what url : String)
    (pairs : List (String × String)) (read : Json.Decoder (List α))
    (ht : ∀ x ms, Comes (s.fetch (rehearsal script) what url pairs read) [] x ms →
      Comes t [] x ms) :
    Fetches s.backoff (Request.to s.names .get url pairs none)
      (fun body => (Json.decode read body).mapError fun e => .malformed e.message) script
      t.rehearse.1 t.rehearse.2 where
  silent h := by
    obtain ⟨reason, hattempts⟩ := comes_attempts_silent s.backoff what h
    rw [(ht _ _ hattempts.bind_error).rehearse]
    exact ⟨⟨reason, rfl⟩, rfl⟩
  refused k hk r h hrefused := by
    obtain ⟨reason, hread⟩ := readList_of_not_isSuccess read hrefused
    rw [(ht _ _ (comes_fetch what url pairs read hk h)).rehearse]
    exact ⟨⟨reason, hread⟩, rfl⟩
  granted k hk r h hgranted := by
    rw [(ht _ _ (comes_fetch what url pairs read hk h)).rehearse,
      readList_of_isSuccess read hgranted]
    exact ⟨reads_text _ r, rfl⟩

/-! ### Questions -/

/-- A question that says something is put to the first address, and then it depends. -/
theorem comes_send {x : Except Failure Reply} (hq : Text.isBlankText q.text = false)
    (h : Comes (attempts (rehearsal script) s.backoff "POST /chat/message" (s.posting s.base q) >>=
      fun r => if r.status = notFound then do
          let r ← sendToFallback (rehearsal script) s q.toJson.render
          let body ← send.liftExcept r.text
          send.liftExcept (Reply.ofBody body)
        else do
          let r ← send.liftExcept r.granted
          let body ← send.liftExcept r.text
          send.liftExcept (Reply.ofBody body)) [] x ms) :
    Comes (s.send (rehearsal script) q) [] x ms := by
  unfold send
  rw [hq]
  simp only [Bool.false_eq_true, if_false]
  exact (Comes.jot _).bind h

/-- A response that is not that there is nothing. -/
theorem comes_send_of_ne (hq : Text.isBlankText q.text = false) (hk : k ≤ s.backoff.retries)
    (h : FirstResponse (s.posting s.base q) script k r) (hne : r.status ≠ notFound) :
    Comes (s.send (rehearsal script) q) [] (r.granted.bind fun r => r.text.bind Reply.ofBody)
      (tries s.backoff (s.posting s.base q) 0 k) := by
  refine comes_send hq ((comes_attempts_answered _ hk h).bind ?_)
  rw [if_neg hne]
  have hgranted : Comes (send.liftExcept r.granted) (tries s.backoff (s.posting s.base q) 0 k)
      r.granted (tries s.backoff (s.posting s.base q) 0 k) := .result r.granted
  cases hr : r.granted with
  | ok r' =>
    rw [hr] at hgranted
    exact hgranted.bind (comes_reading r' _)
  | error f =>
    rw [hr] at hgranted
    exact hgranted.bind_error

variable (script) in
/-- There is nothing, and no second address. -/
theorem comes_sendToFallback_of_none (body : String) (h : s.fallback = none) (ms : List Move) :
    ∃ reason, Comes (sendToFallback (rehearsal script) s body) ms (.error (.network reason)) ms := by
  refine ⟨s.base ++ questionPath ++ " returned 404", ?_⟩
  unfold sendToFallback
  rw [h]
  exact Comes.throw (Failure.network _)

variable (script) in
/-- The second address does not answer, or does not grant the request. -/
theorem comes_sendToFallback_of_not_isSuccess {address : String}
    (h : s.fallback = some address) (ms : List Move)
    (hrefused : ∀ r', outcome? (s.posting address q) script (requests ms).length = some r' →
      isSuccess r'.status = false) :
    ∃ reason, Comes (sendToFallback (rehearsal script) s q.toJson.render) ms
      (.error (.network reason)) (ms ++ once (s.posting address q)) := by
  unfold sendToFallback
  rw [h]
  cases houtcome : outcome? (s.posting address q) script (requests ms).length with
  | none =>
    obtain ⟨reason, hattempt⟩ := comes_attempt_of_none houtcome
    exact ⟨_, (Comes.jot _).bind (hattempt.bind (Comes.throw (Failure.network
      ("Fallback " ++ (address ++ questionPath) ++ " failed: " ++ reason))))⟩
  | some r' =>
    refine ⟨"Fallback " ++ (address ++ questionPath) ++ " returned " ++ statusText r'.status,
      (Comes.jot _).bind ((comes_attempt_of_some houtcome).bind ?_)⟩
    dsimp only
    rw [hrefused r' houtcome]
    exact Comes.throw (Failure.network _)

/-- The second address grants the request. -/
theorem comes_sendToFallback_of_isSuccess {address : String} (h : s.fallback = some address)
    {r' : Response} (houtcome : outcome? (s.posting address q) script (requests ms).length = some r')
    (hgranted : isSuccess r'.status = true) :
    Comes (sendToFallback (rehearsal script) s q.toJson.render) ms (.ok r')
      (ms ++ once (s.posting address q)) := by
  unfold sendToFallback
  rw [h]
  refine (Comes.jot _).bind ((comes_attempt_of_some houtcome).bind ?_)
  dsimp only
  rw [hgranted]
  exact .pure r'

/-- **What comes of a question.** -/
theorem poses_send (script : Nat → Option Response) (hq : Text.isBlankText q.text = false) :
    Poses s q script (s.send (rehearsal script) q).rehearse.1
      (s.send (rehearsal script) q).rehearse.2 where
  silent h := by
    obtain ⟨reason, hattempts⟩ := comes_attempts_silent s.backoff "POST /chat/message" h
    rw [(comes_send hq hattempts.bind_error).rehearse]
    exact ⟨⟨reason, rfl⟩, rfl⟩
  refused k hk r h hrefused hne := by
    obtain ⟨reason, hreason⟩ := Response.granted_of_not_isSuccess hrefused
    rw [(comes_send_of_ne hq hk h hne).rehearse, hreason]
    exact ⟨⟨reason, rfl⟩, rfl⟩
  granted k hk r h hgranted := by
    have hne : r.status ≠ notFound := by
      intro heq
      rw [heq] at hgranted
      cases hgranted
    rw [(comes_send_of_ne hq hk h hne).rehearse, Response.granted_of_isSuccess hgranted]
    exact ⟨reads_text _ r, rfl⟩
  astray k hk r h hmissing hnone := by
    obtain ⟨reason, hfallback⟩ := comes_sendToFallback_of_none script
      q.toJson.render hnone (tries s.backoff (s.posting s.base q) 0 k)
    have hsend : Comes (s.send (rehearsal script) q) [] (.error (.network reason))
        (tries s.backoff (s.posting s.base q) 0 k) := by
      refine comes_send hq ((comes_attempts_answered _ hk h).bind ?_)
      rw [if_pos hmissing]
      exact hfallback.bind_error
    rw [hsend.rehearse]
    exact ⟨⟨reason, rfl⟩, rfl⟩
  second k hk r h hmissing address hsome := by
    -- the request that got the response is the last of `k + 1`
    obtain ⟨req, hreq⟩ := h.exists_ok
    have hlength : (requests (tries s.backoff (s.posting s.base q) 0 k)).length = k + 1 := by
      rw [hreq, requests_tries, List.length_replicate]
    have hsend : ∀ {x : Except Failure Response} {ms' : List Move},
        Comes (sendToFallback (rehearsal script) s q.toJson.render)
          (tries s.backoff (s.posting s.base q) 0 k) x ms' →
        Comes (s.send (rehearsal script) q) [] (x.bind fun r => r.text.bind Reply.ofBody) ms' := by
      intro x ms' hx
      refine comes_send hq ((comes_attempts_answered _ hk h).bind ?_)
      rw [if_pos hmissing]
      cases x with
      | ok r' => exact hx.bind (comes_reading r' ms')
      | error f => exact hx.bind_error
    by_cases hrefused : ∀ r', outcome? (s.posting address q) script (k + 1) = some r' →
        isSuccess r'.status = false
    · obtain ⟨reason, hfallback⟩ := comes_sendToFallback_of_not_isSuccess script
        hsome (tries s.backoff (s.posting s.base q) 0 k) (hlength.symm ▸ hrefused)
      rw [(hsend hfallback).rehearse]
      refine ⟨rfl, fun _ => ⟨reason, rfl⟩, fun r' hr' => ⟨fun _ => ⟨reason, rfl⟩, fun hgranted => ?_⟩⟩
      cases (hrefused r' hr').symm.trans hgranted
    · simp only [not_forall, Bool.not_eq_false] at hrefused
      obtain ⟨r', hr', hgranted⟩ := hrefused
      rw [(hsend (comes_sendToFallback_of_isSuccess hsome (hlength.symm ▸ hr') hgranted)).rehearse]
      refine ⟨rfl, fun hnone => ?_, fun r'' hr'' => ?_⟩
      · cases hnone.symm.trans hr'
      · obtain rfl : r' = r'' := Option.some.inj (hr'.symm.trans hr'')
        refine ⟨fun hrefused => ?_, fun _ => reads_text _ r'⟩
        cases hrefused.symm.trans hgranted

/-- **What a server is asked, and how often.** Whatever becomes of the requests that are sent to
it:

* An attempt and `k` more are `k + 1` requests, with the pauses between them that the rule asks for
  before each further one. All that the rule allows are as many as it says.
* A question that says something comes to what `Parley.Http.Server.Poses` says, and is the same
  wherever it is put.
* The requests for conversations and their entries come to what `Parley.Http.Fetches` says. -/
theorem exchanges (s : Server) (hretries : s.backoff.retries < 4294967295)
    (script : Nat → Option Response) :
    (s.backoff.attempts = s.backoff.retries + 1 ∧
      (∀ r k, requests (tries s.backoff (.ok r) 0 k) = List.replicate (k + 1) r) ∧
      ∀ e k, pauses (tries s.backoff e 0 k) = (List.range' 1 k).map s.backoff.pause) ∧
    (∀ q, Text.isBlankText q.text = false → Poses s q script
        (s.send (rehearsal script) q).rehearse.1 (s.send (rehearsal script) q).rehearse.2 ∧
      ∀ address r, s.posting address q = .ok r →
        r.method = .post ∧ r.body = some q.toJson.render) ∧
    (∀ userId limit, Fetches s.backoff
      (Request.to s.names .get (s.base ++ conversationsPath)
        [("user_id", String.ofList (Text.decimalInt userId)),
          ("limit", String.ofList (Text.decimal limit))] none)
      (fun body => (Json.decode conversationList body).mapError fun e => .malformed e.message) script
      (s.summaries (rehearsal script) userId limit).rehearse.1
      (s.summaries (rehearsal script) userId limit).rehearse.2) ∧
    ∀ conversation, Fetches s.backoff
      (Request.to s.names .get (s.base ++ conversationsPath ++ "/" ++
        String.ofList (Text.decimalInt conversation) ++ "/messages") [] none)
      (fun body => (Json.decode entryList body).mapError fun e => .malformed e.message) script
      (s.entries (rehearsal script) conversation).rehearse.1
      (s.entries (rehearsal script) conversation).rehearse.2 := by
  refine ⟨⟨?_, fun r k => requests_tries s.backoff r 0 k, fun e k => pauses_tries s.backoff e 0 k⟩,
    fun q hq => ⟨poses_send script hq, fun _ _ => body_of_posting⟩, fun userId limit => ?_,
    fun conversation => ?_⟩
  · exact Nat.min_eq_left (by omega)
  · exact fetches_of_fetch "GET /chat/conversations" _ _ _ fun x ms h => (Comes.jot _).bind h
  · exact fetches_of_fetch "GET conversation messages" _ _ _ fun x ms h => (Comes.jot _).bind h

/-- A server that does not answer at first and then has nothing under its first address. The
question is put a second time after half a second, and then once to the second address, where it is
answered. -/
theorem exchanges_of_second_address :
    let s : Server := ⟨"http://a", some "http://b", ⟨1, .ofMillis 500⟩, .ascii⟩
    let script : Nat → Option Response
      | 0 => none
      | 1 => some ⟨404, none⟩
      | _ => some ⟨200, some "{}".toUTF8⟩
    let q : Question := ⟨"hi", none, none⟩
    let y := (s.send (rehearsal script) q).rehearse
    (s.backoff.retries < 4294967295 ∧ Text.isBlankText q.text = false) ∧
      ∃ r r', s.posting s.base q = .ok r ∧ s.posting "http://b" q = .ok r' ∧ r'.body = r.body ∧
        y.2 = [.sends r, .waits (.ofMillis 500), .sends r, .sends r'] ∧
        y.1 = Reply.ofBody (Text.ofBytes "{}".toUTF8) := by
  intro s script q y
  have hretries : s.backoff.retries < 4294967295 := by decide
  have hq : Text.isBlankText q.text = false := by decide +kernel
  obtain ⟨-, hsend, -⟩ := exchanges s hretries script
  obtain ⟨hposes, hbody⟩ := hsend q hq
  obtain ⟨r, hr⟩ : ∃ r, s.posting s.base q = .ok r := exists_posting (by decide +kernel)
  obtain ⟨r', hr'⟩ : ∃ r, s.posting "http://b" q = .ok r := exists_posting (by decide +kernel)
  have hpause : s.backoff.pause 1 = .ofMillis 500 := by decide +kernel
  have hfirst : FirstResponse (s.posting s.base q) script 1 ⟨404, none⟩ := by
    rw [hr]
    refine ⟨fun i hi => ?_, rfl⟩
    obtain rfl : i = 0 := by omega
    rfl
  obtain ⟨hmoves, -, hanswer⟩ := hposes.second 1 (by decide) _ hfirst rfl "http://b" rfl
  have hreads := (hanswer ⟨200, some "{}".toUTF8⟩ (by rw [hr']; rfl)).2 rfl
  refine ⟨⟨hretries, hq⟩, r, r', hr, hr', ?_, ?_, hreads⟩
  · rw [(hbody _ _ hr).2, (hbody _ _ hr').2]
  · rw [hmoves, hr, hr']
    simp only [tries, once, hpause, Nat.zero_add, List.cons_append, List.nil_append]

end Server

end Exchanges

end Parley.Http
