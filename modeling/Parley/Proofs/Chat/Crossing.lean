import Parley.Proofs.Chat.Question

/-!
# Artifacts that cross into another conversation

A reply publishes its message, and then its artifacts. Whether the conversation is still the one
that was asked is looked at once, when the reply comes; what listeners do while the message is
delivered is not looked at any more. So the artifacts of a reply reach a conversation that has
started anew, or was unmounted, exactly if something did that since the reply was taken in
(`Parley.App.Leads.crosses_iff`); and a listener to the message may well do it
(`Parley.App.crosses_of_newConversation`).

What overtakes a question *before* its reply comes is another matter: such a reply publishes
nothing. To tell the two apart, generations are read off a course: a new one begins when everything
starts anew or a conversation starts to load (`Parley.Moment.renews`), and at no other time.
-/

namespace Parley

/-! ### Generations in the course of time -/

/-- A new generation begins. -/
def Moment.renews (m : Moment) : Bool := m.happening.resets || m.loads

/-- What is done without a turn begins a new generation only if everything starts anew. -/
theorem Moment.renews_of_errand {m : Moment} (hm : m.happening.turn? = none) :
    m.renews = m.happening.resets := by
  have hloads : m.loads = false := by
    rw [Moment.loads, Moment.passage?, hm]
    rfl
  rw [Moment.renews, hloads, Bool.or_false]

/-- A new generation has begun since the question of a task was accepted. -/
def Course.renewed (n : Nat) : Course → Bool
  | [] => false
  | m :: ms => m.renews || (!(m.accepted?.any (·.1 = n)) && renewed n ms)

/-- **When a turn begins a new generation**: if a task starts to load a conversation. -/
theorem Change.turn_generation {t : Turn} {A B : Affairs} (hm : Change (some t) A B) :
    (B.pipeline.generation = A.pipeline.generation ∧ B.pipeline.alive = A.pipeline.alive) ∨
      ∃ n s call id g errand, t.task? = some n ∧ A.stage? n = some s ∧ s.isLoading = false ∧
        B.stage? n = some (.awaitEntries call id g errand) := by
  cases hm with
  | load call ht hstage hs =>
    obtain ⟨htask, hloading⟩ := load_of_turn ht hs
    exact .inr ⟨_, _, _, _, _, _, htask, hstage, hloading, Affairs.stage?_put_self (hstage ▸ rfl)⟩
  | @pose _ _ g _ call hstage =>
    have hpose := A.pipeline.pose_eq g
    exact .inl ⟨congrArg (·.generation) hpose, congrArg (·.alive) hpose⟩
  | _ => exact .inl ⟨rfl, rfl⟩

namespace App

variable {a₀ a b : App} {n g : Nat} {q : Question} {ws vs : Errands} {x : Happening}
  {c c' : App × Errands} {ms later : Course}

/-- **What becomes of the generation**: it is the next one if a new one begins, and else it stays;
and a conversation is mounted until it is unmounted. -/
theorem Happens.generation (hx : Happens x (a, ws) (b, vs)) :
    b.pipeline.generation =
        (if Moment.renews ⟨a, x, b⟩ then a.pipeline.generation + 1 else a.pipeline.generation) ∧
      b.pipeline.alive = (a.pipeline.alive && !x.unmounts) := by
  cases x with
  | errand w =>
    have hrenews : Moment.renews ⟨a, .errand w, b⟩ = (Happening.errand w).resets :=
      Moment.renews_of_errand rfl
    cases hx
    rw [hrenews, pipeline_doing]
    split
    · rename_i hresets
      rw [Happening.unmounts_eq_false (.inl hresets), Bool.not_false, Bool.and_true]
      exact ⟨rfl, rfl⟩
    · split
      · rename_i hdismisses
        rw [Happening.unmounts_eq_false (.inr hdismisses), Bool.not_false, Bool.and_true]
        exact ⟨rfl, rfl⟩
      · split
        · rename_i hunmounts
          rw [hunmounts, Bool.not_true, Bool.and_false]
          exact ⟨rfl, rfl⟩
        · rename_i hunmounts
          rw [Bool.eq_false_iff.mpr hunmounts, Bool.not_false, Bool.and_true]
          exact ⟨rfl, rfl⟩
  | turn t =>
    have hrenews : Moment.renews ⟨a, .turn t, b⟩ = Moment.loads ⟨a, .turn t, b⟩ := rfl
    have hunmounts : (Happening.turn t).unmounts = false := rfl
    rw [hrenews, hunmounts, Bool.not_false, Bool.and_true]
    cases hloads : Moment.loads ⟨a, .turn t, b⟩ with
    | false =>
      rcases hx.change.turn_generation with h | ⟨n, s, call, id, g, errand, htask, hs, hs₁, hs'⟩
      · exact h
      · cases hloads.symm.trans (Moment.loads_eq_true.mpr
          ⟨n, s, call, id, g, errand, Moment.passage?_turn htask hs hs', hs₁⟩)
    | true =>
      obtain ⟨n, s, call, id, g, errand, hpassage, hloading⟩ := Moment.loads_eq_true.mp hloads
      obtain ⟨-, hs, hs'⟩ := Moment.passage?_eq_some.mp hpassage
      have hb : b.pipeline = a.pipeline.startLoad := (hx.change.startLoad hs hloading hs').1
      rw [hb]
      exact ⟨rfl, rfl⟩

/-- The question that is accepted belongs to the generation there is. -/
theorem Happens.not_renews (hx : Happens x (a, ws) (b, vs))
    (haccepted : Moment.accepted? ⟨a, x, b⟩ = some (n, q)) :
    Moment.renews ⟨a, x, b⟩ = false := by
  obtain ⟨-, -, _, _, _, -, -, -, -, hb, -⟩ := hx.accepted haccepted
  cases hrenews : Moment.renews ⟨a, x, b⟩ with
  | false => rfl
  | true =>
    have hg := hx.generation.1
    rw [hb, hrenews] at hg
    exact absurd hg.symm (Nat.succ_ne_self _)

/-- **What a question under way is overtaken by**: its generation is not behind exactly if no new
one has begun since it was accepted. -/
theorem Leads.generation_eq_iff (hfresh : a₀.IsFresh) (hc : Leads (a₀, []) ms c) {s : Stage}
    (hs : c.1.stage? n = some s) (hq : s.question? = some (q, g)) :
    g ≤ c.1.pipeline.generation ∧
      (c.1.pipeline.generation = g ↔ Course.renewed n ms = false) := by
  induction hc generalizing s with
  | start =>
    have hnone := Affairs.stage?_of_tasks_eq_nil (A := a₀.affairs []) hfresh.tasks n
    cases hnone.symm.trans hs
  | @step ms a b ws vs x hc hx ih =>
    rcases hx.change.exists_question_before hs hq with ⟨s₀, hs₀, hq₀⟩ | ⟨hl, ⟨o, ho⟩, rfl⟩
    · -- it is under way, so it is not being accepted
      obtain ⟨hle, hiff⟩ := ih hs₀ hq₀
      have hother : (Moment.accepted? ⟨a, x, b⟩).any (·.1 = n) = false := by
        cases haccepted : Moment.accepted? ⟨a, x, b⟩ with
        | none => rfl
        | some other =>
          obtain ⟨-, -, o, _, _, ho, -⟩ := hx.accepted haccepted
          refine decide_eq_false ?_
          rintro rfl
          cases ho.symm.trans hs₀
          cases hq₀
      have hrenewed : Course.renewed n (⟨a, x, b⟩ :: ms) =
          (Moment.renews ⟨a, x, b⟩ || Course.renewed n ms) := by
        rw [Course.renewed, hother, Bool.not_false, Bool.true_and]
      rw [hx.generation.1, hrenewed]
      dsimp only at hle hiff
      split
      · rename_i hrenews
        rw [hrenews]
        simp
        omega
      · rename_i hrenews
        rw [Bool.eq_false_iff.mpr hrenews, Bool.false_or]
        exact ⟨hle, hiff⟩
    · obtain rfl := Happening.turn?_eq_some.mp hl
      have haccepted := Moment.accepted?_eq_some.mpr
        ⟨o, g, Moment.passage?_turn (t := .advance n) rfl ho hs⟩
      have hrenews := hx.not_renews haccepted
      obtain ⟨-, hs', -⟩ := hx.accepted haccepted
      cases hs.symm.trans hs'
      have hg := hx.generation.1
      rw [hrenews] at hg
      refine ⟨Nat.le_of_eq hg.symm, iff_of_true hg ?_⟩
      simp [Course.renewed, hrenews, haccepted]

/-- **What is not stale becomes stale** exactly if a new generation begins or the conversation is
unmounted. -/
theorem Leads.isStale_iff (hlater : Leads c later c') (hcurrent : c.1.pipeline.isStale g = false) :
    c'.1.pipeline.isStale g = true ↔
      ∃ m ∈ later, m.renews = true ∨ m.happening.unmounts = true := by
  suffices h : g ≤ c'.1.pipeline.generation ∧ (c'.1.pipeline.isStale g = true ↔
      ∃ m ∈ later, m.renews = true ∨ m.happening.unmounts = true) from h.2
  induction hlater with
  | start =>
    refine ⟨Nat.le_of_eq (Pipeline.isStale_eq_false.mp hcurrent).2.symm, ?_⟩
    simp [hcurrent]
  | @step later a b ws vs x hl hx ih =>
    obtain ⟨hle, hiff⟩ := ih
    obtain ⟨hg, halive⟩ := hx.generation
    refine ⟨Nat.le_trans hle hx.change.generation_le.1, ?_⟩
    rw [List.exists_mem_cons_iff, ← hiff]
    cases hstale : a.pipeline.isStale g with
    | true => exact iff_of_true (hx.change.isStale hle hstale) (.inr rfl)
    | false =>
      obtain ⟨hmounted, rfl⟩ := Pipeline.isStale_eq_false.mp hstale
      rw [Pipeline.isStale_eq_true, hg, halive, hmounted]
      split
      · rename_i hrenews
        simp [hrenews]
      · rename_i hrenews
        simp [hrenews]

/-! ### What a reply publishes -/

/-- **The artifacts of a reply are published when its message is.** Everything that the message
leads to is done first, and nothing of it is looked at. -/
theorem turn_of_arrival {r : Except Failure Reply} {arrival : Pipeline.Arrival}
    {adopted : Option Int}
    (h : a.enter (.answer n (.reply r)) = (b, arrivalErrands n g arrival adopted))
    (hartifacts : arrival.artifacts ≠ []) :
    a.turn (.answer n (.reply r)) =
      (((b.settle [.publish ⟨chatSource, .messageReceived arrival.message⟩]).note
          ⟨.info, "Reply produced " ++ Pipeline.numberText arrival.artifacts.length ++
            " artifact(s)"⟩).settle
        [.publish ⟨chatSource, .artifactsReceived arrival.artifacts⟩]).settle
          [.act (.conclude n g adopted)] := by
  have hsplit : arrivalErrands n g arrival adopted =
      [.publish ⟨chatSource, .messageReceived arrival.message⟩] ++
        ([.act (.note ⟨.info, "Reply produced " ++
            Pipeline.numberText arrival.artifacts.length ++ " artifact(s)"⟩)] ++
          ([.publish ⟨chatSource, .artifactsReceived arrival.artifacts⟩] ++
            [.act (.conclude n g adopted)])) := by
    rw [arrivalErrands, if_neg (by simpa using hartifacts)]
    rfl
  rw [turn, h, hsplit, settle_append, settle_append, settle_append, settle_note]

/-- **When artifacts cross into another conversation.** A task waits for the reply to its question,
and the answer comes.

* If the conversation was unmounted, or a new generation has begun since the question was accepted,
  the answer is dropped and nothing is published.
* Otherwise the question fails, and nothing is published; or the reply is taken in. Wherever one
  looks from then on, in whatever order things are done, the conversation is not the one that was
  asked any more exactly if a new generation has begun or it was unmounted since. If nothing comes
  between, the artifacts are published once everything is done that the message leads to: they cross
  exactly if something that is done while the message is delivered starts anew or unmounts the
  conversation. -/
theorem Leads.crosses_iff (hfresh : a₀.IsFresh) (hc : Leads (a₀, []) ms (a, ws)) {call : Nat}
    (hs : a.stage? n = some (.awaitReply call q g)) (r : Except Failure Reply) :
    ((a.pipeline.alive = false ∨ Course.renewed n ms = true) ∧
        a.enter (.answer n (.reply r)) =
          ((a.note ⟨.debug, "Discarding stale reply"⟩).endTask n (.sent .discarded), [])) ∨
      (a.pipeline.alive = true ∧ Course.renewed n ms = false) ∧
        ((∃ b, a.enter (.answer n (.reply r)) = (b, [])) ∨
          ∃ b arrival adopted,
            a.enter (.answer n (.reply r)) = (b, arrivalErrands n g arrival adopted) ∧
            (∀ later c, Leads (b, arrivalErrands n g arrival adopted ++ ws) later c →
              (c.1.pipeline.isStale g = true ↔
                ∃ m ∈ later, m.renews = true ∨ m.happening.unmounts = true)) ∧
            (arrival.artifacts ≠ [] → ∃ c during,
              Leads (b, [.publish ⟨chatSource, .messageReceived arrival.message⟩]) during (c, []) ∧
              a.turn (.answer n (.reply r)) =
                ((c.note ⟨.info, "Reply produced " ++
                    Pipeline.numberText arrival.artifacts.length ++ " artifact(s)"⟩).settle
                  [.publish ⟨chatSource, .artifactsReceived arrival.artifacts⟩]).settle
                    [.act (.conclude n g adopted)] ∧
              (c.pipeline.isStale g = true ↔
                ∃ m ∈ during, m.happening.resets = true ∨ m.happening.unmounts = true))) := by
  have hrenewed : a.pipeline.generation = g ↔ Course.renewed n ms = false :=
    (hc.generation_eq_iff hfresh hs rfl).2
  rcases enter_reply hs r with ⟨hstale, h⟩ | ⟨hstale, banner, x, supply, h⟩ |
    ⟨hstale, reply, arrival, adopted, supply, -, -, -, -, h⟩
  · refine .inl ⟨?_, h⟩
    rw [Pipeline.isStale_eq_true, Ne, hrenewed, Bool.not_eq_false] at hstale
    exact hstale
  · obtain ⟨halive, hg⟩ := Pipeline.isStale_eq_false.mp hstale
    exact .inr ⟨⟨halive, hrenewed.mp hg⟩, .inl ⟨_, h⟩⟩
  · obtain ⟨halive, hg⟩ := Pipeline.isStale_eq_false.mp hstale
    refine .inr ⟨⟨halive, hrenewed.mp hg⟩, .inr ⟨_, arrival, adopted, h, fun later c hlater => ?_,
      fun hartifacts => ?_⟩⟩
    · exact hlater.isStale_iff hstale
    · obtain ⟨during, hduring, herrands⟩ := exists_leads_settle _
        [.publish ⟨chatSource, .messageReceived arrival.message⟩]
      refine ⟨_, during, hduring, turn_of_arrival h hartifacts, ?_⟩
      rw [hduring.isStale_iff hstale]
      refine exists_congr fun m => and_congr_right fun hm => ?_
      rw [Moment.renews_of_errand (herrands m hm)]

/-- A reply with an artifact, to a question that nothing came between: it is taken in, and what its
message leads to decides whether the artifact crosses. -/
theorem crosses_iff_of_prompt_reply :
    let a := blank.run [.call (.send "hi"), .advance 0, .advance 0]
    let reply : Reply := {
      message := some (.string "x")
      artifacts := some (.array [.object [("id", .string "a")]]) }
    ∃ b arrival adopted c during,
      a.enter (.answer 0 (.reply (.ok reply))) = (b, arrivalErrands 0 0 arrival adopted) ∧
      Leads (b, [.publish ⟨chatSource, .messageReceived arrival.message⟩]) during (c, []) ∧
      (c.pipeline.isStale 0 = true ↔
        ∃ m ∈ during, m.happening.resets = true ∨ m.happening.unmounts = true) := by
  intro a reply
  have hc : Leads (blank, []) _ (a, []) :=
    ((Leads.start.turn (.call (.send "hi"))).turn (.advance 0)).turn (.advance 0)
  have hlength : (a.enter (.answer 0 (.reply (.ok reply)))).2.length = 4 := rfl
  obtain ⟨h | h, -⟩ | ⟨-, ⟨b, h⟩ | ⟨b, arrival, adopted, h, -, hpublished⟩⟩ :=
    hc.crosses_iff isFresh_blank (n := 0) rfl (.ok reply)
  · cases h
  · cases h
  · rw [h] at hlength
    cases hlength
  · have hartifacts : arrival.artifacts ≠ [] := by
      intro hnil
      rw [h] at hlength
      simp [arrivalErrands, hnil] at hlength
    obtain ⟨c, during, hduring, -, hcrosses⟩ := hpublished hartifacts
    exact ⟨b, arrival, adopted, c, during, h, hduring, hcrosses⟩

/-- **Artifacts cross into a conversation that has started anew.** A listener starts a new
conversation when it is handed the message of a reply. The transcript is empty then, and yet the
artifact of the reply comes to be in the store. -/
theorem crosses_of_newConversation :
    let a := ((blank.mount "").addObserver .messageReceived [[.announce .newConversation]]).run
      [.call (.send "hi"), .advance 0, .advance 0]
    let reply : Reply := {
      message := some (.string "x")
      artifacts := some (.array [.object [("id", .string "a")]]) }
    ∃ b arrival, a.enter (.answer 0 (.reply (.ok reply))) = (b, arrivalErrands 0 0 arrival none) ∧
      b.pipeline.isStale 0 = false ∧
      (b.settle [.publish ⟨chatSource, .messageReceived arrival.message⟩]).pipeline.isStale 0 =
        true ∧
      (a.turn (.answer 0 (.reply (.ok reply)))).pipeline.transcript = .empty ∧
      (a.turn (.answer 0 (.reply (.ok reply)))).store.items.map (·.id) = ["a"] := by
  intro a reply
  refine ⟨_, _, rfl, rfl, ?_, ?_, ?_⟩
  · decide +kernel
  · decide +kernel
  · decide +kernel

end App

end Parley
