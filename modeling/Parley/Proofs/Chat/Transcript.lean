import Parley.Proofs.Chat.Question

/-!
# The history of a transcript

A transcript only grows, and by one message at a time: the user's, when it is accepted to be sent,
and the assistant's, when the reply to it is taken in (`Parley.App.Happens.messages`). Only two
things do more than that. Everything may start anew, and the entries of a conversation that was
loaded take the place of what was there.

So the message that a reply is put behind is the one whose text was asked
(`Parley.App.Leads.transcript_history`). That is not for any care that is taken when the reply
comes, where nothing is compared; it is because a question that is not overtaken is still the last
message.
-/

namespace Parley

/-- **What a turn may do to the messages**: nothing, unless a question is accepted, a reply is taken
in, or the entries of a conversation arrive. -/
theorem Change.turn_messages {t : Turn} {A B : Affairs} (hm : Change (some t) A B) :
    (B.pipeline.conversation = A.pipeline.conversation ∧
        B.pipeline.transcript = A.pipeline.transcript) ∨
      (∃ n o q g, t = .advance n ∧ A.stage? n = some (.start o) ∧
        B.stage? n = some (.posing q g)) ∨
      (∃ n call q g r, t = .answer n (.reply r) ∧ A.stage? n = some (.awaitReply call q g) ∧
        B.stage? n = some .publishing) ∨
      ∃ n call id g errand r g' s o, t = .answer n r ∧
        A.stage? n = some (.awaitEntries call id g errand) ∧
        B.stage? n = some (.wantSave g' s o) := by
  cases hm with
  | ask hstage =>
    exact .inr (.inl ⟨_, _, _, _, rfl, hstage, Affairs.stage?_put_self (hstage ▸ rfl)⟩)
  | @pose _ _ g _ call hstage =>
    have hpose := A.pipeline.pose_eq g
    exact .inl ⟨congrArg (·.conversation) hpose, congrArg (·.transcript) hpose⟩
  | delivered r x hstage =>
    exact .inr (.inr (.inl ⟨_, _, _, _, _, rfl, hstage, Affairs.stage?_put_self (hstage ▸ rfl)⟩))
  | loaded entries supply hstage =>
    exact .inr (.inr (.inr ⟨_, _, _, _, _, _, _, _, _, rfl, hstage,
      Affairs.stage?_put_self (hstage ▸ rfl)⟩))
  | _ => exact .inl ⟨rfl, rfl⟩

namespace App

variable {a₀ a b : App} {n : Nat} {q : Question} {ws vs : Errands} {x : Happening}
  {c c' : App × Errands} {ms later : Course}

/-! ### One moment -/

/-- **What a reply that is taken in is**: the reply to a question of the present generation. Its
message is appended. -/
theorem Happens.replied (hx : Happens x (a, ws) (b, vs)) (hO : (a.affairs ws).Orderly)
    (hreplied : Moment.replied? ⟨a, x, b⟩ = some (n, q)) :
    ∃ call z, a.stage? n = some (.awaitReply call q a.pipeline.generation) ∧ z.role = .agent ∧
      b.pipeline.transcript = a.pipeline.transcript.push z := by
  obtain ⟨call, g, hpassage⟩ := Moment.replied?_eq_some.mp hreplied
  obtain ⟨-, hs, hs'⟩ := Moment.passage?_eq_some.mp hpassage
  dsimp only at hs hs'
  obtain ⟨r, rfl, rfl⟩ := hx.answered_reply hO hs (hs' ▸ nofun)
  obtain ⟨-, h⟩ | ⟨-, banner, y, supply, h⟩ | ⟨hstale, _, arrival, _, _, -, -, hrole, -, h⟩ :=
    enter_reply hs r
  · cases hs'.symm.trans (stage?_of_eq_endTask (congrArg Prod.fst h))
  · cases hs'.symm.trans (stage?_of_eq_endTask (congrArg Prod.fst h))
  · obtain rfl := (Pipeline.isStale_eq_false.mp hstale).2
    rw [h]
    exact ⟨call, arrival.message, hs, hrole, rfl⟩

/-- **What happens to the messages**: nothing, unless everything starts anew, the entries of a
conversation arrive, a message is accepted to be sent, or a reply is taken in. -/
theorem Happens.messages (hx : Happens x (a, ws) (b, vs)) (hO : (a.affairs ws).Orderly) :
    (b.pipeline.conversation = a.pipeline.conversation ∧
        b.pipeline.transcript = a.pipeline.transcript) ∨
      x.resets = true ∨ Moment.arrives ⟨a, x, b⟩ = true ∨
      (∃ n text y, Moment.sent? ⟨a, x, b⟩ = some (n, text) ∧ y.role = .user ∧ y.content = text ∧
        b.pipeline.conversation = a.pipeline.conversation ∧
        b.pipeline.transcript = a.pipeline.transcript.push y) ∨
      ∃ n q z, Moment.replied? ⟨a, x, b⟩ = some (n, q) ∧ z.role = .agent ∧
        b.pipeline.transcript = a.pipeline.transcript.push z := by
  cases x with
  | errand w =>
    cases hx
    rw [pipeline_doing]
    split
    · rename_i h
      exact .inr (.inl h)
    · refine .inl ?_
      split
      · exact ⟨rfl, rfl⟩
      · split <;> exact ⟨rfl, rfl⟩
  | turn t =>
    rcases hx.change.turn_messages with h | ⟨n, o, q, g, rfl, hs, hs'⟩ |
      ⟨n, call, q, g, r, rfl, hs, hs'⟩ | ⟨n, call, id, g, errand, r, g', s, o, rfl, hs, hs'⟩
    · exact .inl h
    · have hpassage := Moment.passage?_turn (t := .advance n) rfl hs hs'
      obtain ⟨-, -, o', y, t, ho, hrole, -, -, hb, hcases⟩ :=
        hx.accepted (Moment.accepted?_eq_some.mpr ⟨o, g, hpassage⟩)
      obtain rfl : o = o' := by
        have h := Option.some.inj (hs.symm.trans ho)
        exact Stage.start.inj h
      obtain ⟨text, rfl, hcontent, rfl⟩ | ⟨rfl, -, rfl⟩ := hcases
      · exact .inr (.inr (.inr (.inl ⟨n, text, y, Moment.sent?_eq_some.mpr ⟨q, g, hpassage⟩, hrole,
          hcontent, by rw [hb], by rw [hb]⟩)))
      · rw [hb]
        exact .inl ⟨rfl, rfl⟩
    · have hreplied := Moment.replied?_eq_some.mpr
        ⟨call, g, Moment.passage?_turn (t := .answer n (.reply r)) rfl hs hs'⟩
      obtain ⟨-, z, -, hrole, htranscript⟩ := hx.replied hO hreplied
      exact .inr (.inr (.inr (.inr ⟨n, q, z, hreplied, hrole, htranscript⟩)))
    · have harrives := Moment.arrives_eq_true.mpr ⟨n, call, id, g, errand, g', s, o,
        Moment.passage?_turn (t := .answer n r) rfl hs hs'⟩
      exact .inr (.inr (.inl harrives))

/-- **A transcript only grows**, unless everything starts anew or the entries of a conversation
arrive. -/
theorem Happens.messages_grow (hx : Happens x (a, ws) (b, vs)) (hO : (a.affairs ws).Orderly)
    (hresets : x.resets = false) (harrives : Moment.arrives ⟨a, x, b⟩ = false) :
    a.pipeline.transcript.messages <+: b.pipeline.transcript.messages := by
  rcases hx.messages hO with ⟨-, h⟩ | h | h | ⟨-, -, y, -, -, -, -, h⟩ | ⟨-, -, z, -, -, h⟩
  · exact h ▸ List.prefix_refl _
  · cases hresets.symm.trans h
  · cases harrives.symm.trans h
  · rw [h]
    exact List.prefix_append _ _
  · rw [h]
    exact List.prefix_append _ _

/-! ### Courses -/

/-- **A transcript only grows in the course of time**, as long as nothing starts anew and no
conversation arrives. -/
theorem Leads.messages_grow (hfresh : a₀.IsFresh) (hc : Leads (a₀, []) ms c)
    (hlater : Leads c later c') (hkept : ∀ m ∈ later, m.happening.resets = false ∧
      m.arrives = false) :
    c.1.pipeline.transcript.messages <+: c'.1.pipeline.transcript.messages := by
  induction hlater with
  | start => exact List.prefix_refl _
  | step hl hx ih =>
    obtain ⟨hresets, harrives⟩ := hkept _ List.mem_cons_self
    exact (ih fun m hm => hkept m (List.mem_cons_of_mem _ hm)).trans
      (hx.messages_grow ((hc.append hl).orderly hfresh) hresets harrives)

/-- **A question under way was accepted**, and one that waits for its reply was put to the
server. -/
theorem Leads.questions (hfresh : a₀.IsFresh) (hc : Leads (a₀, []) ms c) {s : Stage} {g : Nat}
    (hs : c.1.stage? n = some s) (hq : s.question? = some (q, g)) :
    (∃ m ∈ ms, m.accepted? = some (n, q)) ∧
      ∀ call, s = .awaitReply call q g → ∃ m ∈ ms, m.posed? = some (n, call, q) := by
  induction hc generalizing s with
  | start =>
    have hnone := Affairs.stage?_of_tasks_eq_nil (A := a₀.affairs []) hfresh.tasks n
    cases hnone.symm.trans hs
  | @step ms a b ws vs x hc hx ih =>
    have hlater : ∀ {P : Moment → Prop}, (∃ m ∈ ms, P m) → ∃ m ∈ (⟨a, x, b⟩ :: ms : Course), P m :=
      fun ⟨m, hm, h⟩ => ⟨m, List.mem_cons_of_mem _ hm, h⟩
    rcases hx.change.question_before hs hq with h | ⟨hl, h, call, rfl⟩ | ⟨hl, ⟨o, ho⟩, rfl⟩
    · obtain ⟨haccepted, hposed⟩ := ih h hq
      exact ⟨hlater haccepted, fun call hcall => hlater (hposed call hcall)⟩
    · obtain ⟨haccepted, -⟩ := ih h rfl
      obtain rfl := Happening.turn?_eq_some.mp hl
      refine ⟨hlater haccepted, fun call' hcall => ?_⟩
      cases hcall
      exact ⟨_, List.mem_cons_self,
        Moment.posed?_eq_some.mpr ⟨q, g, g, Moment.passage?_turn rfl h hs⟩⟩
    · obtain rfl := Happening.turn?_eq_some.mp hl
      exact ⟨⟨_, List.mem_cons_self,
        Moment.accepted?_eq_some.mpr ⟨o, g, Moment.passage?_turn rfl ho hs⟩⟩, nofun⟩

/-- What comes of a message that a task is to send: it is appended, to be asked next, or it is
ignored and nothing is asked. -/
theorem advance_start_send {text : String} (hn : a.stage? n = some (.start (.send text))) :
    (∃ y : Message, y.role = .user ∧ y.content = text ∧
        (a.advance n).pipeline.transcript = a.pipeline.transcript.push y ∧
        (a.advance n).stage? n = some (.posing (a.questionOf y) a.pipeline.generation) ∧
        (a.advance n).calls = a.calls) ∨
      (a.advance n).pipeline.transcript = a.pipeline.transcript ∧ (a.advance n).stage? n = none ∧
        (a.advance n).trace.head? = some (.ended n (.sent .ignored)) ∧
        (a.advance n).calls = a.calls := by
  obtain ⟨-, h⟩ | ⟨-, y, supply, hrole, hcontent, h⟩ := advance_send hn
  · have hgone := stage?_of_eq_endTask h
    rw [h] at hgone ⊢
    exact .inr ⟨rfl, hgone, rfl, rfl⟩
  · have hposing := stage?_of_eq_setStage h (hn ▸ rfl)
    rw [h] at hposing ⊢
    exact .inl ⟨y, hrole, hcontent, rfl, hposing, rfl⟩

/-- **The history of a transcript.** After every course, and whatever happens next:

* a message that a task is to send is either appended as the user's, and nothing else with it, or
  ignored, and nothing is appended; neither calls the server. What is put to the server was
  accepted before, leaves the messages alone, and is the text of the last message unless it was
  overtaken;
* as long as nothing starts anew and no conversation arrives, the messages are those that were
  there with others behind them, and one of the assistant's is among the others only if the reply
  to a question is taken in;
* that reply belongs to a question that its task put to the server. Its message stands behind the
  user's whose text was asked, and stays there. -/
theorem Leads.transcript_history (hfresh : a₀.IsFresh) (hc : Leads (a₀, []) ms (a, ws))
    (hx : Happens x (a, ws) (b, vs)) (hlater : Leads (b, vs) later c') :
    (∀ n text, x = .turn (.advance n) → a.stage? n = some (.start (.send text)) →
        (∃ y : Message, y.role = .user ∧ y.content = text ∧
            b.pipeline.transcript = a.pipeline.transcript.push y ∧
            b.stage? n = some (.posing (a.questionOf y) a.pipeline.generation) ∧
            b.calls = a.calls) ∨
          b.pipeline.transcript = a.pipeline.transcript ∧ b.stage? n = none ∧
            b.trace.head? = some (.ended n (.sent .ignored)) ∧ b.calls = a.calls) ∧
      (∀ n call q, Moment.posed? ⟨a, x, b⟩ = some (n, call, q) →
        b.trace.head? = some (.asked call (.send q)) ∧ (∃ m ∈ ms, m.accepted? = some (n, q)) ∧
          b.pipeline.transcript = a.pipeline.transcript ∧
          (a.stage? n = some (.posing q a.pipeline.generation) → ∃ y : Message,
            y.role = .user ∧ y.content = q.text ∧ b.pipeline.transcript.last? = some y)) ∧
      (x.resets = false → Moment.arrives ⟨a, x, b⟩ = false → ∃ zs,
        b.pipeline.transcript.messages = a.pipeline.transcript.messages ++ zs ∧
          ∀ z ∈ zs, z.role = .agent → ∃ n q, Moment.replied? ⟨a, x, b⟩ = some (n, q)) ∧
      ∀ n q, Moment.replied? ⟨a, x, b⟩ = some (n, q) → ∃ call t, ∃ y z : Message,
        a.stage? n = some (.awaitReply call q a.pipeline.generation) ∧
          (∃ m ∈ ms, m.posed? = some (n, call, q)) ∧
          y.role = .user ∧ y.content = q.text ∧ z.role = .agent ∧
          a.pipeline.transcript.messages = t ++ [y] ∧
          b.pipeline.transcript.messages = t ++ [y, z] ∧
          ((∀ m ∈ later, m.happening.resets = false ∧ m.arrives = false) →
            t ++ [y, z] <+: c'.1.pipeline.transcript.messages) := by
  have hO : (a.affairs ws).Orderly := hc.orderly hfresh
  have hpending : Pending ms a := hc.pending hfresh
  refine ⟨fun n text hturn hn => ?_, fun n call q hposed => ?_, fun hresets harrives => ?_,
    fun n q hreplied => ?_⟩
  · subst hturn
    cases hx
    exact advance_start_send hn
  · obtain ⟨⟨g, hs⟩, hasked, -, -, htranscript⟩ := hx.posed hposed
    refine ⟨hasked, (hc.questions hfresh hs rfl).1, htranscript, fun hcurrent => ?_⟩
    obtain ⟨-, y, hrole, hlast, rfl⟩ := hpending.asked n _ q hcurrent rfl
    exact ⟨y, hrole, rfl, htranscript ▸ hlast⟩
  · rcases hx.messages hO with ⟨-, h⟩ | h | h | ⟨-, -, y, -, hrole, -, -, h⟩ |
      ⟨n, q, z, hreplied, -, h⟩
    · exact ⟨[], by rw [h, List.append_nil], nofun⟩
    · cases hresets.symm.trans h
    · cases harrives.symm.trans h
    · refine ⟨[y], by rw [h, Transcript.messages_push], fun z hz hagent => ?_⟩
      obtain rfl := List.mem_singleton.mp hz
      cases hrole.symm.trans hagent
    · exact ⟨[z], by rw [h, Transcript.messages_push], fun _ _ _ => ⟨n, q, hreplied⟩⟩
  · obtain ⟨call, z, hs, hagent, htranscript⟩ := hx.replied hO hreplied
    obtain ⟨-, y, hrole, hlast, rfl⟩ := hpending.asked n _ q hs rfl
    obtain ⟨t, ht⟩ := List.getLast?_eq_some_iff.mp hlast
    have hb : b.pipeline.transcript.messages = t ++ [y, z] := by
      rw [htranscript, Transcript.messages_push, ht, List.append_assoc]
      rfl
    refine ⟨call, t, y, z, hs, (hc.questions hfresh hs rfl).2 call rfl, hrole, rfl, hagent, ht, hb,
      fun hkept => ?_⟩
    rw [← hb]
    exact (hc.step hx).messages_grow hfresh hlater hkept

/-- A reply that comes after another message was typed and ignored: it stands behind the message
that was asked. -/
theorem transcript_history_of_ignored_send :
    let ts : List Turn := [.call (.send "hi"), .advance 0, .advance 0, .call (.send "ho"),
      .advance 1]
    let a := blank.run ts
    let b := (a.enter (.answer 0 (.reply (.ok { message := some (.string "x") })))).1
    a.pipeline.transcript.size = 1 ∧ ∃ y z : Message, y.content = "hi" ∧ z.role = .agent ∧
      [y, z] <+: b.pipeline.transcript.messages := by
  intro ts a b
  have hc : Leads (blank, []) _ (a, []) :=
    ((((Leads.start.turn (.call (.send "hi"))).turn (.advance 0)).turn (.advance 0)).turn
      (.call (.send "ho"))).turn (.advance 1)
  obtain ⟨-, -, -, hreply⟩ := hc.transcript_history isFresh_blank (.turn (.answer 0
    (.reply (.ok { message := some (.string "x") })))) .start
  obtain ⟨call, t, y, z, hs, -, hrole, hcontent, hagent, ha, hb, -⟩ :=
    hreply 0 ⟨"hi", none, none⟩ rfl
  have hsize : a.pipeline.transcript.messages.length = 1 := rfl
  obtain rfl : t = [] := by
    rw [ha, List.length_append] at hsize
    simpa using hsize
  exact ⟨rfl, y, z, hcontent, hagent, hb ▸ List.prefix_refl _⟩

end App

end Parley
