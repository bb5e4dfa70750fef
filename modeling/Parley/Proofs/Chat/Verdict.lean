import Parley.Proofs.Chat.Body
import Parley.Proofs.Chat.Finish
import Parley.Proofs.Http.Exchange

/-!
# What comes of the body of a response

A question ends in one of four ways once a response has granted it, and which one is a matter of the
body of the response alone, unless the answer comes too late: then nothing is read of it. A body that
says something is delivered. Of the others a complaint fails as one of the assistant's, and its text
is what it complains of; and all that are left, be they no JSON, no object, or without anything to
make use of, fail as malformed under one text for all of them.

JSON that is nested deeper than the reader goes is one of those that are left, whatever it says
(`Parley.App.not_delivered_of_late_or_deep`).
-/

namespace Parley

open Json (maxDepth)

/-! ### Responses that grant a question -/

namespace Http.Server

/-- A question is granted, by the first address or by the second, with a text for a body. -/
inductive Grants (s : Server) (q : Question) (script : Nat → Option Response) (body : String) : Prop
  | first {k : Nat} {r : Response} {bytes : ByteArray} (hk : k ≤ s.backoff.retries)
      (hr : FirstResponse (s.posting s.base q) script k r) (hstatus : isSuccess r.status = true)
      (hbytes : r.body = some bytes) (hbody : Text.ofBytes bytes = body)
  | second {k : Nat} {r r' : Response} {address : String} {bytes : ByteArray}
      (hk : k ≤ s.backoff.retries) (hr : FirstResponse (s.posting s.base q) script k r)
      (hmissing : r.status = notFound) (hsecond : s.fallback = some address)
      (hr' : outcome? (s.posting address q) script (k + 1) = some r')
      (hstatus : isSuccess r'.status = true) (hbytes : r'.body = some bytes)
      (hbody : Text.ofBytes bytes = body)

/-- **What is answered to a question that is granted is what is read of the body.** -/
theorem Grants.send {s : Server} {q : Question} {script : Nat → Option Response} {body : String}
    (h : Grants s q script body) (hq : Text.isBlankText q.text = false) :
    (s.send (rehearsal script) q).rehearse.1 = Reply.ofBody body := by
  have hposes := poses_send (s := s) script hq
  cases h with
  | first hk hr hstatus hbytes hbody =>
    have hreads := (hposes.granted _ hk _ hr hstatus).1
    rw [Reads, hbytes] at hreads
    subst hbody
    exact hreads
  | second hk hr hmissing hsecond hr' hstatus hbytes hbody =>
    have hreads := ((hposes.second _ hk _ hr hmissing _ hsecond).2.2 _ hr').2 hstatus
    rw [Reads, hbytes] at hreads
    subst hbody
    exact hreads

end Http.Server

/-! ### What a question ends with -/

namespace App

variable {a₀ a b : App} {n g call : Nat} {q : Question} {body reason : String} {ws vs : Errands}
  {ms later : Course} {d : App × Errands} {o : Outcome} {m : Moment} {x : Happening}

open Reply

/-- **An answer that comes too late** is not looked at. -/
theorem enter_overtaken (hn : a.stage? n = some (.awaitReply call q g))
    (hstale : a.pipeline.isStale g = true) (r : Except Failure Reply) :
    a.enter (.answer n (.reply r)) =
      ((a.note ⟨.debug, "Discarding stale reply"⟩).endTask n (.sent .discarded), []) := by
  obtain ⟨-, h⟩ | ⟨h, -⟩ | ⟨h, -⟩ := enter_reply hn r
  · exact h
  · cases hstale.symm.trans h
  · cases hstale.symm.trans h

/-- A question whose answer comes too late is given up. -/
theorem ends_overtaken (hn : a.stage? n = some (.awaitReply call q g))
    (hstale : a.pipeline.isStale g = true) (r : Except Failure Reply) :
    Moment.Ends ⟨a, .turn (.answer n (.reply r)), (a.enter (.answer n (.reply r))).1⟩ n
      (.sent .discarded) := by
  have henter := enter_overtaken hn hstale r
  refine ⟨hn ▸ rfl, stage?_of_eq_endTask (congrArg Prod.fst henter), ?_⟩
  rw [henter]
  rfl

/-- A question whose answer is of no use fails. -/
theorem ends_refused (hn : a.stage? n = some (.awaitReply call q g))
    (hcurrent : a.pipeline.isStale g = false) {r : Except Failure Reply} {f : Failure}
    (hr : Pipeline.refusal? r = some f) :
    Moment.Ends ⟨a, .turn (.answer n (.reply r)), (a.enter (.answer n (.reply r))).1⟩ n
      (.sent (.failed (Banner.ofSend f).kind)) := by
  have henter := enter_refused hn hcurrent hr
  refine ⟨hn ▸ rfl, stage?_of_eq_endTask (congrArg Prod.fst henter), ?_⟩
  rw [henter]
  rfl

theorem Happens.eq_enter {t : Turn} (hx : Happens (.turn t) (a, ws) (b, vs)) :
    b = (a.enter t).1 := by
  cases hx
  rfl

/-- A task that is gone does not end again. -/
theorem Leads.not_ends_of_gone (hlater : Leads (a, ws) later d) (hn : n < a.nextTask)
    (hgone : a.stage? n = none) (hm : m ∈ later) : ¬ m.Ends n o := by
  intro hends
  obtain ⟨_, _, _, _, -, hbefore, -⟩ := hlater.exists_of_mem hm
  have hfound := hends.found
  rw [hbefore.gone hn hgone] at hfound
  cases hfound

/-- What a question ends with, given why its answer is of no use, if it is not. -/
def outcomeOf : Option Failure → SendOutcome
  | none => .delivered
  | some f => .failed (Banner.ofSend f).kind

/-- What a question ends with is told by what the body of its answer says and complains of. -/
theorem outcomeOf_iff {f : Option Failure} (h : Judged body f) :
    (outcomeOf f = .delivered ↔ ∃ text, Says maxDepth body text) ∧
      (outcomeOf f = .failed .service ↔
        (∀ text, ¬ Says maxDepth body text) ∧ ∃ reason, Complains maxDepth body reason) ∧
      (outcomeOf f = .failed .malformed ↔
        (∀ text, ¬ Says maxDepth body text) ∧ ∀ reason, ¬ Complains maxDepth body reason) := by
  cases h with
  | useful h =>
    exact ⟨iff_of_true rfl ⟨_, h⟩, iff_of_false nofun fun h' => h'.1 _ h,
      iff_of_false nofun fun h' => h'.1 _ h⟩
  | complaint hmessage h =>
    exact ⟨iff_of_false nofun fun ⟨text, h'⟩ => hmessage text h', iff_of_true rfl ⟨hmessage, _, h⟩,
      iff_of_false nofun fun h' => h'.2 _ h⟩
  | useless hmessage h =>
    exact ⟨iff_of_false nofun fun ⟨text, h'⟩ => hmessage text h',
      iff_of_false nofun fun ⟨_, reason, h'⟩ => h reason h', iff_of_true rfl ⟨hmessage, h⟩⟩

/-- **It is settled what a task ends with**: it has ended with that and with nothing else, and if it
has not ended it can come to its end. -/
structure Settled (n : Nat) (o : Outcome) (since : Course) (d : App × Errands) : Prop where
  only : ∀ m ∈ since, ∀ o', m.Ends n o' → o' = o
  ended : d.1.stage? n = none → ∃ m ∈ since, m.Ends n o
  ending : ∃ more e, Leads d more e ∧ e.1.stage? n = none

/-- A task that has ended is settled. -/
theorem Leads.settled_of_ends (hlater : Leads (b, vs) later d) (hn : n < b.nextTask)
    (hends : Moment.Ends ⟨a, x, b⟩ n o) : Settled n o (later ++ [⟨a, x, b⟩]) d where
  only m hm o' ho := by
    rcases List.mem_append.mp hm with hm | hm
    · exact absurd ho (hlater.not_ends_of_gone hn hends.gone hm)
    · obtain rfl := List.mem_singleton.mp hm
      have htold := ho.told.symm.trans hends.told
      cases htold
      rfl
  ended _ := ⟨_, by simp, hends⟩
  ending := ⟨[], d, .start, hlater.gone hn hends.gone⟩

/-- A question that has taken in its reply is settled. -/
theorem Leads.settled_of_replied (hfresh : a₀.IsFresh) (hc : Leads (a₀, []) ms (a, ws))
    (hx : Happens x (a, ws) (b, vs)) (hlater : Leads (b, vs) later d)
    (hreplied : Moment.replied? ⟨a, x, b⟩ = some (n, q)) :
    Settled n (.sent .delivered) (later ++ [⟨a, x, b⟩]) d := by
  have hb := hc.step hx
  have hpublishing : b.stage? n = some .publishing := by
    obtain ⟨_, _, hpassage⟩ := Moment.replied?_eq_some.mp hreplied
    exact (Moment.passage?_eq_some.mp hpassage).2.2
  refine ⟨fun m hm o ho => ?_, fun hgone => ?_, ?_⟩
  · have hmem : m ∈ later ++ ⟨a, x, b⟩ :: ms := by
      rcases List.mem_append.mp hm with hm | hm
      · exact List.mem_append_left _ hm
      · obtain rfl := List.mem_singleton.mp hm
        simp
    exact ((hb.append hlater).ends_delivered_iff hfresh hmem ho).mpr
      ⟨⟨a, x, b⟩, by simp, q, hreplied⟩
  · obtain ⟨m, hm, o, _, hends, -, -, ho⟩ := hb.exists_ends hfresh hlater hpublishing hgone
    obtain rfl := ho _ rfl
    exact ⟨m, List.mem_append_left _ hm, hends⟩
  · cases hs : d.1.stage? n with
    | none => exact ⟨[], d, .start, hs⟩
    | some s =>
      have ho := hb.outcome?_kept hfresh hlater hpublishing rfl hs
      obtain ⟨more, e, hmore, hgone⟩ := (hb.append hlater).exists_finish hfresh hs ho
      exact ⟨more, (e, []), hmore, hgone⟩

/-- **What a question ends with is settled by its answer**, if that comes in time. -/
theorem Leads.settled (hfresh : a₀.IsFresh) (hc : Leads (a₀, []) ms (a, ws))
    (hn : a.stage? n = some (.awaitReply call q g)) (hcurrent : a.pipeline.isStale g = false)
    {r : Except Failure Reply} (hx : Happens (.turn (.answer n (.reply r))) (a, ws) (b, vs))
    (hlater : Leads (b, vs) later d) :
    Settled n (.sent (outcomeOf (Pipeline.refusal? r)))
      (later ++ [⟨a, .turn (.answer n (.reply r)), b⟩]) d := by
  have hlt : n < b.nextTask :=
    Nat.lt_of_lt_of_le (lt_nextTask (hc.orderly hfresh) hn) hx.change.nextTask_le
  cases hr : Pipeline.refusal? r with
  | some f =>
    have hends := ends_refused hn hcurrent hr
    rw [← hx.eq_enter] at hends
    exact hlater.settled_of_ends hlt hends
  | none =>
    have hpublishing := stage?_enter_reply hn hcurrent hr
    rw [← hx.eq_enter] at hpublishing
    exact hc.settled_of_replied hfresh hx hlater
      (Moment.replied?_eq_some.mpr ⟨call, g, Moment.passage?_turn rfl hn hpublishing⟩)

/-- **How a body is sorted** that was the answer to a question and came in time. Since then a course
has led to a state `d`, and `b` is the app right after the answer. -/
structure Sorts (body : String) (n : Nat) (since : Course) (b : App) (d : App × Errands) : Prop where
  /-- A question that is no longer there has ended. -/
  ended : d.1.stage? n = none → ∃ m ∈ since, ∃ o, m.Ends n o
  /-- One that is still there can come to its end. -/
  ending : ∃ more e, Leads d more e ∧ e.1.stage? n = none
  /-- It is delivered if the body says something. -/
  delivered : ∀ m ∈ since, ∀ o, m.Ends n o →
    (o = .sent .delivered ↔ ∃ text, Says maxDepth body text)
  /-- Otherwise it fails as one of the assistant's, if the body complains. -/
  service : ∀ m ∈ since, ∀ o, m.Ends n o → (o = .sent (.failed .service) ↔
    (∀ text, ¬ Says maxDepth body text) ∧ ∃ reason, Complains maxDepth body reason)
  /-- In every other case it fails as malformed. -/
  malformed : ∀ m ∈ since, ∀ o, m.Ends n o → (o = .sent (.failed .malformed) ↔
    (∀ text, ¬ Says maxDepth body text) ∧ ∀ reason, ¬ Complains maxDepth body reason)
  /-- A complaint is shown as it is, and the question has ended. -/
  complaint : ∀ reason, (∀ text, ¬ Says maxDepth body text) → Complains maxDepth body reason →
    b.pipeline.banner = some ⟨.service, reason⟩ ∧ b.stage? n = none
  /-- Everything else of no use is shown alike, and the question has ended. -/
  useless : (∀ text, ¬ Says maxDepth body text) → (∀ reason, ¬ Complains maxDepth body reason) →
    b.pipeline.banner =
      some ⟨.malformed, "Connection error: the assistant sent an unreadable reply."⟩ ∧
    b.stage? n = none

/-- A body is sorted as what its reply is judged to be. -/
theorem Leads.sorts (hfresh : a₀.IsFresh) (hc : Leads (a₀, []) ms (a, ws))
    (hn : a.stage? n = some (.awaitReply call q g)) (hcurrent : a.pipeline.isStale g = false)
    (hx : Happens (.turn (.answer n (.reply (ofBody body)))) (a, ws) (b, vs))
    (hlater : Leads (b, vs) later d) :
    Sorts body n (later ++ [⟨a, .turn (.answer n (.reply (ofBody body))), b⟩]) b d := by
  obtain ⟨honly, hended, hending⟩ := hc.settled hfresh hn hcurrent hx hlater
  have hrefused : ∀ f, Pipeline.refusal? (ofBody body) = some f →
      b.pipeline.banner = some (Banner.ofSend f) ∧ b.stage? n = none := by
    intro f hf
    rw [hx.eq_enter]
    exact ⟨by rw [enter_refused hn hcurrent hf]; rfl, (ends_refused hn hcurrent hf).gone⟩
  have hjudged := judged_ofBody body
  generalize Pipeline.refusal? (ofBody body) = f at hjudged honly hended hrefused
  obtain ⟨hdelivered, hservice, hmalformed⟩ := outcomeOf_iff hjudged
  refine ⟨fun hgone => ?_, hending, fun m hm o ho => ?_, fun m hm o ho => ?_, fun m hm o ho => ?_,
    fun reason hmessage hcomplains => ?_, fun hmessage hcomplains => ?_⟩
  · obtain ⟨m, hm, hends⟩ := hended hgone
    exact ⟨m, hm, _, hends⟩
  · rw [honly m hm o ho, Outcome.sent.injEq, hdelivered]
  · rw [honly m hm o ho, Outcome.sent.injEq, hservice]
  · rw [honly m hm o ho, Outcome.sent.injEq, hmalformed]
  · cases hjudged with
    | useful h => exact absurd h (hmessage _)
    | complaint _ h =>
      rw [hcomplains.unique h]
      exact hrefused _ rfl
    | useless _ h => exact absurd hcomplains (h reason)
  · cases hjudged with
    | useful h => exact absurd h (hmessage _)
    | complaint _ h => exact absurd h (hcomplains _)
    | useless _ h => exact hrefused _ rfl

/-- **What comes of the body of a response to a question.**

* The body is read as a reply exactly if it is an object with a message or an error, whatever those
  are. Its fields are always fit for a reply, and a body that is not read is malformed.
* If a response grants the question, what is read of its body is the answer to the question.
* An answer that comes too late is given up, and the question does not end otherwise.
* From an answer that comes in time the question comes to be delivered, to fail as one of the
  assistant's or to fail as malformed, by what the body says and what it complains of. -/
theorem Leads.sorts_body (body : String) (hfresh : a₀.IsFresh) (hc : Leads (a₀, []) ms (a, ws))
    (hn : a.stage? n = some (.awaitReply call q g))
    (hx : Happens (.turn (.answer n (.reply (ofBody body)))) (a, ws) (b, vs))
    (hlater : Leads (b, vs) later d) :
    ((∃ r, ofBody body = .ok r) ↔
      ∃ v, Has maxDepth body "message" v ∨ Has maxDepth body "error" v) ∧
    (∀ f, ofBody body = .error f → ∃ reason, f = .malformed reason) ∧
    (∀ fs, Json.parse body = .ok (.object fs) → ofObject fs = .ok (ofFields fs)) ∧
    (∀ (s : Http.Server) (script : Nat → Option Http.Response),
      Text.isBlankText q.text = false → s.Grants q script body →
        (s.send (Http.rehearsal script) q).rehearse.1 = ofBody body) ∧
    (a.pipeline.isStale g = true →
      Moment.Ends ⟨a, .turn (.answer n (.reply (ofBody body))), b⟩ n (.sent .discarded) ∧
        ∀ m ∈ later, ∀ o, ¬ m.Ends n o) ∧
    (a.pipeline.isStale g = false →
      Sorts body n (later ++ [⟨a, .turn (.answer n (.reply (ofBody body))), b⟩]) b d) := by
  refine ⟨isOk_ofBody, fun f => malformed_of_ofBody, fun fs => ofObject_of_parse,
    fun s script hq hgrants => hgrants.send hq, fun hstale => ?_,
    fun hcurrent => hc.sorts hfresh hn hcurrent hx hlater⟩
  have hlt := Nat.lt_of_lt_of_le (lt_nextTask (hc.orderly hfresh) hn) hx.change.nextTask_le
  have hends := ends_overtaken hn hstale (ofBody body)
  rw [← hx.eq_enter] at hends
  exact ⟨hends, fun m hm o => hlater.not_ends_of_gone hlt hends.gone hm⟩

/-- The last message counts, and it is empty, so the error is shown. -/
theorem sorts_body_of_second_message :
    let a := (((blank.mount "").run [.call (.send "hi")]).advance 0).advance 0
    let body := "\x7b\"message\":\"a\",\"error\":\"no\",\"message\":\"\"\x7d"
    let b := (a.enter (.answer 0 (.reply (ofBody body)))).1
    a.stage? 0 = some (.awaitReply 0 ⟨"hi", none, none⟩ 0) ∧
      b.pipeline.banner = some ⟨.service, "no"⟩ ∧ b.stage? 0 = none := by
  intro a body b
  have hn : a.stage? 0 = some (.awaitReply 0 ⟨"hi", none, none⟩ 0) := rfl
  obtain ⟨ms, hc⟩ := (reached_run (blank.mount "") [.call (.send "hi")]).exists_leads
  obtain ⟨-, -, -, -, -, hsorts⟩ := ((hc.turn (.advance 0)).turn (.advance 0)).sorts_body body
    (isFresh_blank.mount "") hn (.turn _) .start
  have hempty : Has maxDepth body "message" (.string "") := has_string_iff.mpr (by decide +kernel)
  have hcomplains : Complains maxDepth body "no" :=
    ⟨.string "no", has_string_iff.mpr (by decide +kernel), nofun, rfl⟩
  refine ⟨hn, (hsorts rfl).complaint "no" (fun text hmessage => ?_) hcomplains⟩
  cases hempty.unique hmessage.1
  exact hmessage.2 rfl

/-- Nothing is delivered of a body that says something if it comes too late, or if it is nested
deeper than the reader goes. -/
theorem not_delivered_of_late_or_deep :
    let a := (((blank.mount "").run [.call (.send "hi")]).advance 0).advance 0
    let late := a.run [.tell .reset]
    let body := "\x7b\"message\":\"x\"\x7d"
    let deep := "\x7b\"message\":\"x\",\"deep\":" ++ String.ofList (List.replicate 127 '[') ++
      String.ofList (List.replicate 127 ']') ++ "\x7d"
    (Says maxDepth body "x" ∧ Moment.Ends ⟨late, .turn (.answer 0 (.reply (ofBody body))),
      (late.enter (.answer 0 (.reply (ofBody body)))).1⟩ 0 (.sent .discarded)) ∧
    (Says (maxDepth + 1) deep "x" ∧ Moment.Ends ⟨a, .turn (.answer 0 (.reply (ofBody deep))),
      (a.enter (.answer 0 (.reply (ofBody deep)))).1⟩ 0 (.sent (.failed .malformed))) := by
  intro a late body deep
  have hn : a.stage? 0 = some (.awaitReply 0 ⟨"hi", none, none⟩ 0) := rfl
  have hlate : late.stage? 0 = some (.awaitReply 0 ⟨"hi", none, none⟩ 0) := rfl
  -- decoding a long text takes its time, so the characters are put where they are read
  have hread : Json.Cursor.ofString deep = ⟨"\x7b\"message\":\"x\",\"deep\":".toList ++
      List.replicate 127 '[' ++ List.replicate 127 ']' ++ ['\x7d'], .start⟩ := by
    simp only [Json.Cursor.ofString, deep, String.toList_append, String.toList_ofList]
    rfl
  have hmessage : Has (maxDepth + 1) deep "message" (.string "x") := by
    rw [has_string_iff, Json.whole, hread]
    decide +kernel
  have hrefused : (Pipeline.refusal? (ofBody deep)).map (Banner.kind ∘ Banner.ofSend) =
      some .malformed := by
    rw [ofBody, Json.parse, Json.whole, hread]
    decide +kernel
  obtain ⟨f, hf, hkind⟩ := Option.map_eq_some_iff.mp hrefused
  have hends := ends_refused hn rfl hf
  rw [show (Banner.ofSend f).kind = .malformed from hkind] at hends
  exact ⟨⟨⟨has_string_iff.mpr (by decide +kernel), by decide⟩, ends_overtaken hlate rfl _⟩,
    ⟨hmessage, by decide⟩, hends⟩

end App

end Parley
