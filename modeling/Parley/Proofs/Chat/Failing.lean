import Parley.Proofs.Chat.Footprint

/-!
# A question that fails leaves nothing but its message

A question fails if the server does not answer it, or answers something of no use
(`Parley.Pipeline.refusal?`). A reply of no use may still bring artifacts, insights and a number for
the conversation; none of it is looked at. `Parley.App.Leads.failed_leaves` compares the app with
what it was when the message was appended: the phase, the banner and the flag that lets the question
be asked again are all that has changed of the conversation, however many other things happened in
between. The task of the question has published nothing and saved nothing, and it has not touched
what is stored and shown.
-/

namespace Parley

namespace Pipeline

/-- Why an answer to a question is of no use. -/
def refusal? : Except Failure Reply → Option Failure
  | .error f => some f
  | .ok r =>
    match r.text? with
    | some _ => none
    | none =>
      match r.error? with
      | some reason => some (.service reason)
      | none => some (.malformed "reply has no usable message")

variable {r : Reply} {f : Failure}

/-- A reply of no use is not read any further, and nothing is drawn for it. -/
theorem interpret_of_refusal (h : refusal? (.ok r) = some f) (s : Supply) :
    interpret r s = (.error f, s) := by
  unfold interpret
  cases htext : r.text? with
  | some text =>
    simp only [refusal?, htext] at h
    cases h
  | none =>
    cases herror : r.error? with
    | some reason | none =>
      simp only [refusal?, htext, herror] at h
      cases h
      rfl

/-- Any other reply brings something. -/
theorem interpret_of_refusal_eq_none (h : refusal? (.ok r) = none) (s : Supply) :
    ∃ arrival s', interpret r s = (.ok arrival, s') := by
  unfold interpret
  cases htext : r.text? with
  | some text => exact ⟨_, _, rfl⟩
  | none =>
    cases herror : r.error? with
    | some reason | none =>
      simp only [refusal?, htext, herror] at h
      cases h

end Pipeline

namespace App

variable {a₀ a b c d : App} {n g call : Nat} {q : Question} {ws vs us us' : Errands}
  {x y : Happening} {e : App × Errands} {ms during later : Course} {r : Except Failure Reply}

/-- **What becomes of a question whose answer is of no use**: a banner is up, and the task ends. -/
theorem enter_refused (hn : a.stage? n = some (.awaitReply call q g))
    (hcurrent : a.pipeline.isStale g = false) {f : Failure} (hr : Pipeline.refusal? r = some f) :
    a.enter (.answer n (.reply r)) =
      (({ a with pipeline := { a.pipeline with
            phase := .idle, banner := some (Banner.ofSend f), resendable := true } }.note
          ⟨.warn, "Send failed: " ++ f.message⟩).endTask n (.sent (.failed (Banner.ofSend f).kind)),
        []) := by
  simp only [enter, takeAnswer, hn, takeReply, Pipeline.receive, hcurrent, Bool.false_eq_true,
    if_false]
  cases r with
  | error f' =>
    cases hr
    rfl
  | ok reply =>
    simp only [Pipeline.interpret_of_refusal hr]
    rfl

/-- Any other answer is published. -/
theorem stage?_enter_reply (hn : a.stage? n = some (.awaitReply call q g))
    (hcurrent : a.pipeline.isStale g = false) (hr : Pipeline.refusal? r = none) :
    (a.enter (.answer n (.reply r))).1.stage? n = some .publishing := by
  cases r with
  | error f => cases hr
  | ok reply =>
    obtain ⟨arrival, supply, hresult⟩ := Pipeline.interpret_of_refusal_eq_none hr a.supply
    refine stage?_of_eq_setStage (a := { a with
      pipeline := (a.pipeline.receive g (.ok reply) a.supply).1, supply }) ?_ (hn ▸ rfl)
    simp only [enter, takeAnswer, hn, takeReply, Pipeline.receive, hcurrent, hresult,
      Bool.false_eq_true, if_false]
    rfl

/-- **What a question that fails leaves of the app**: its answer was of no use, and that is all that
can be told. -/
theorem Happens.refused (hy : Happens y (c, us) (d, us')) (hO : (c.affairs us).Orderly)
    (hfailed : Moment.failed? ⟨c, y, d⟩ = some n) : ∃ call q r f,
      c.stage? n = some (.awaitReply call q c.pipeline.generation) ∧ c.pipeline.alive = true ∧
        y = .turn (.answer n (.reply r)) ∧ Pipeline.refusal? r = some f ∧
        d = ({ c with pipeline := { c.pipeline with
              phase := .idle, banner := some (Banner.ofSend f), resendable := true } }.note
            ⟨.warn, "Send failed: " ++ f.message⟩).endTask n
              (.sent (.failed (Banner.ofSend f).kind)) ∧
        us' = us := by
  obtain ⟨call, q, g, k, hpassage, htrace⟩ := Moment.failed?_eq_some.mp hfailed
  obtain ⟨-, hs, hs'⟩ := Moment.passage?_eq_some.mp hpassage
  dsimp only at hs hs' htrace
  obtain ⟨r, rfl, rfl⟩ := hy.answered_reply hO hs (hs' ▸ nofun)
  cases hcurrent : c.pipeline.isStale g with
  | true =>
    -- it would have been given up
    obtain ⟨-, h⟩ | ⟨h, -⟩ | ⟨h, -⟩ := enter_reply hs r
    · rw [h] at htrace
      cases htrace
    · cases hcurrent.symm.trans h
    · cases hcurrent.symm.trans h
  | false =>
    obtain ⟨halive, rfl⟩ := Pipeline.isStale_eq_false.mp hcurrent
    cases hr : Pipeline.refusal? r with
    | none => cases hs'.symm.trans (stage?_enter_reply hs hcurrent hr)
    | some f =>
      have henter := enter_refused hs hcurrent hr
      refine ⟨call, q, r, f, hs, halive, rfl, hr, congrArg Prod.fst henter, ?_⟩
      cases hy
      rw [henter]
      rfl

/-- **A question that fails leaves nothing but its message.** A question is accepted, and some time
later it fails, whatever happens in between.

* The answer was of no use. Of the conversation, the phase, the banner and the flag that lets the
  question be asked again are all that has changed since its message was appended. The failure
  itself changes nothing else in the app but that the task has ended, under a note, and leaves
  nothing to be published.
* In the whole course, also before and after, the task publishes nothing, leaves alone what is
  stored and shown, and hands over no session to be saved.
* So if nothing else happens in between, what is stored, shown, saved and left to do is what it was
  when the message was appended. -/
theorem Leads.failed_leaves (hfresh : a₀.IsFresh) (hc : Leads (a₀, []) ms (a, ws))
    (hx : Happens x (a, ws) (b, vs)) (haccepted : Moment.accepted? ⟨a, x, b⟩ = some (n, q))
    (hduring : Leads (b, vs) during (c, us)) (hy : Happens y (c, us) (d, us'))
    (hfailed : Moment.failed? ⟨c, y, d⟩ = some n) (hlater : Leads (d, us') later e) :
    (∃ r f, y = .turn (.answer n (.reply r)) ∧ Pipeline.refusal? r = some f ∧
        d.pipeline = { b.pipeline with
          phase := .idle, banner := some (Banner.ofSend f), resendable := true } ∧
        d = ({ c with pipeline := d.pipeline }.note
            ⟨.warn, "Send failed: " ++ f.message⟩).endTask n
              (.sent (.failed (Banner.ofSend f).kind)) ∧
        us' = us) ∧
      Course.IsQuiet (later ++ ⟨c, y, d⟩ :: (during ++ ⟨a, x, b⟩ :: ms)) n ∧
      Course.SavesNothing (later ++ ⟨c, y, d⟩ :: (during ++ ⟨a, x, b⟩ :: ms)) n ∧
      ((∀ m ∈ during, ∃ t, m.happening = .turn t ∧ t.task? = some n) →
        d.store = b.store ∧ d.canvas = b.canvas ∧ d.saves = b.saves ∧ us' = vs) := by
  have hb : Leads (a₀, []) (⟨a, x, b⟩ :: ms) (b, vs) := hc.step hx
  have hc' : Leads (a₀, []) (during ++ ⟨a, x, b⟩ :: ms) (c, us) := hb.append hduring
  obtain ⟨call, q', r, f, hwaits, halive, rfl, hf, hd, rfl⟩ :=
    hy.refused (hc'.orderly hfresh) hfailed
  obtain ⟨-, hposing, -⟩ := hx.accepted haccepted
  have hnb : n < b.nextTask := lt_nextTask (hb.orderly hfresh) hposing
  have hnc : n < c.nextTask := Nat.lt_of_lt_of_le hnb hduring.nextTask_le
  have hprogress : Stage.progress (c.stage? n) = 3 := by
    rw [hwaits]
    rfl
  have hended : d.stage? n = none := stage?_of_eq_endTask hd
  have hquiet := hc'.isQuiet hfresh hy hlater hnc (Nat.le_of_eq hprogress)
    (hended ▸ (by decide : 5 ≤ Stage.progress none))
  have hsaves := hc'.savesNothing hfresh hy hlater hnc (hprogress ▸ by decide) hended
  refine ⟨⟨r, f, rfl, hf, ?_, ?_, rfl⟩, hquiet, hsaves, fun halone => ?_⟩
  · -- the messages have waited for the question, and its generation has been the present one
    obtain ⟨hg, hconversation, htranscript⟩ := hb.exchange_kept hfresh hduring hnb
      (hposing ▸ (by decide : 2 ≤ 2)) (by rw [Affairs.see, stage?_affairs, hwaits]; rfl)
    dsimp only at hg hconversation htranscript
    have halive' : b.pipeline.alive = true := (hduring.alive_iff.mp halive).1
    rw [hd]
    simp only [endTask, note, observe, hconversation, htranscript, hg, halive, halive']
  · rw [hd]
    rfl
  · have hmem : ∀ m ∈ during, m ∈ later ++ ⟨c, .turn (.answer n (.reply r)), d⟩ ::
        (during ++ ⟨a, x, b⟩ :: ms) := fun m hm => by simp [hm]
    obtain ⟨hstore, hcanvas, hsaved, herrands⟩ := hduring.undisturbed
      (fun m hm => hquiet m (hmem m hm)) (fun m hm => hsaves m (hmem m hm)) halone
    have hfails := hsaves ⟨c, .turn (.answer n (.reply r)), d⟩ (by simp) _ rfl rfl
    obtain ⟨-, hstore', hcanvas'⟩ :=
      hquiet ⟨c, .turn (.answer n (.reply r)), d⟩ (by simp) _ rfl rfl
    exact ⟨hstore'.trans hstore, hcanvas'.trans hcanvas, hfails.trans hsaved, herrands⟩

/-- A reply without a message, but with an error, an artifact, an insight and a number for the
conversation: the error is shown, and nothing else has come of it. -/
theorem failed_leaves_of_reply_with_error :
    let a := (blank.mount "").run [.call (.send "hi")]
    let b := a.advance 0
    let reply : Reply := {
      conversation := some (.number (.integer 5))
      error := some (.string "no")
      artifacts := some (.array [.object [("id", .string "a")]])
      insights := some (.array [.string "line"]) }
    let d := ((b.advance 0).enter (.answer 0 (.reply (.ok reply)))).1
    d.pipeline = { b.pipeline with
        phase := .idle, banner := some ⟨.service, "no"⟩, resendable := true } ∧
      d.store = b.store ∧ d.canvas = b.canvas ∧ d.saves = b.saves := by
  intro a b reply d
  have hfresh : (blank.mount "").IsFresh := isFresh_blank.mount ""
  obtain ⟨ms, hc⟩ := (reached_run (blank.mount "") _).exists_leads (c := (a, []))
  have hduring := (Leads.start (c := (b, []))).turn (.advance 0)
  obtain ⟨⟨r, f, hy, hf, hpipeline, -⟩, -, -, hrest⟩ := hc.failed_leaves hfresh
    (.turn (.advance 0)) (n := 0) (q := ⟨"hi", none, none⟩) rfl hduring
    (.turn (.answer 0 (.reply (.ok reply)))) rfl .start
  cases hy
  cases hf
  obtain ⟨hstore, hcanvas, hsaved, -⟩ := hrest fun m hm => by
    obtain rfl := List.mem_singleton.mp hm
    exact ⟨_, rfl, rfl⟩
  exact ⟨hpipeline, hstore, hcanvas, hsaved⟩

end App

end Parley
