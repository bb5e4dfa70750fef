import Parley.Proofs.App.Fate
import Parley.Proofs.Chat.Happening
import Parley.Proofs.Chat.Overtaken

/-!
# The question under way, and the one that failed

A question that is under way in the present generation is the one that was accepted last, and it is
the text of the last message; if it fails it can be asked again, until anything else is accepted or
the conversation is loaded, starts anew or loses its banner (`Parley.Course.failed?`). That is what
`Parley.App.Pending` says after a course, and `Parley.App.Leads.pending` that it holds after every
course. So what the app keeps to itself, whether there is something to ask again, is known from what
has happened.

Two things carry the invariant. A task that has a question under way had it before or has just
accepted it (`Parley.Change.exists_question_before`); and as long as the question is under way,
neither the messages nor the number of the conversation move (`Parley.Change.messages_kept`).
-/

namespace Parley

/-! ### What has happened since -/

/-- A conversation moves on: what failed before is not to be asked again. -/
def Moment.movesOn (m : Moment) : Bool :=
  m.accepted?.isSome || m.loads || m.happening.resets || m.happening.dismisses

namespace Course

/-- The question that was accepted last, under the task that asked it. -/
def accepted? (ms : Course) : Option (Nat × Question) := ms.findSome? Moment.accepted?

/-- The question that failed, if it is the one that was accepted last and nothing was accepted,
loaded, started anew or dismissed since. -/
def failed? : Course → Option Question
  | [] => none
  | m :: ms =>
    match m.failed? with
    | some n => (accepted? ms).bind fun (k, q) => if k = n then some q else none
    | none => if m.movesOn then none else failed? ms

theorem failed?_of_failed {m : Moment} {ms : Course} {n : Nat} {q : Question}
    (hm : m.failed? = some n) (hms : accepted? ms = some (n, q)) : failed? (m :: ms) = some q := by
  simp [failed?, hm, hms]

theorem failed?_of_not_failed {m : Moment} {ms : Course} (hm : m.failed? = none) :
    failed? (m :: ms) = if m.movesOn then none else failed? ms := by
  simp [failed?, hm]

end Course

/-- The question that a task has under way, and its generation. -/
def Stage.question? : Stage → Option (Question × Nat)
  | .posing q g | .awaitReply _ q g => some (q, g)
  | _ => none

theorem Stage.exchange?_of_question? {s : Stage} {q : Question} {g : Nat}
    (h : s.question? = some (q, g)) : s.exchange? = some g := by
  cases s <;> cases h <;> rfl

/-! ### Questions and changes -/

namespace Change

variable {l : Option Turn} {A B : Affairs} {qs : List (Nat × Message)} {n g : Nat} {q : Question}
  {s s' : Stage}

/-- **Where a question under way comes from**: its task was at that stage before, or was about to
put it to the server, or starts with it. -/
theorem question_before (hm : Change l A B) (hs : B.stage? n = some s)
    (hq : s.question? = some (q, g)) :
    A.stage? n = some s ∨
      (l = some (.advance n) ∧ A.stage? n = some (.posing q g) ∧
        ∃ call, s = .awaitReply call q g) ∨
      l = some (.advance n) ∧ (∃ o, A.stage? n = some (.start o)) ∧ s = .posing q g := by
  have hfate := hm.fate n
  rw [hs] at hfate
  cases hfate with
  | kept h => exact .inl h
  | asked h =>
    cases hq
    exact .inr (.inr ⟨rfl, ⟨_, h⟩, rfl⟩)
  | posed h =>
    cases hq
    exact .inr (.inl ⟨rfl, h, _, rfl⟩)
  -- a task that comes to any other stage has no question
  | called | cleared | selected | loads => cases hq
  | concluded _ _ h =>
    obtain ⟨_, rfl⟩ := h s rfl
    cases hq
  | attends _ h => rcases h with rfl | ⟨_, rfl⟩ <;> cases hq
  | saves _ h | replied _ h | arrived _ h => rcases h with h | h <;> cases h; cases hq

/-- A question under way was under way before, or its task starts with it. -/
theorem exists_question_before (hm : Change l A B) (hs : B.stage? n = some s)
    (hq : s.question? = some (q, g)) :
    (∃ s', A.stage? n = some s' ∧ s'.question? = some (q, g)) ∨
      l = some (.advance n) ∧ (∃ o, A.stage? n = some (.start o)) ∧ s = .posing q g := by
  rcases hm.question_before hs hq with h | ⟨-, h, -⟩ | h
  · exact .inl ⟨s, h, hq⟩
  · exact .inl ⟨_, h, rfl⟩
  · exact .inr h

/-- **The messages wait for the exchange under way.** If a task has one of the present generation
under way before and after, neither the messages nor the number of the conversation have moved. -/
theorem exchange_kept (hm : Change l A B) (hS : Sound qs A)
    (hsee : A.see Stage.exchange? n = some g) (hsee' : B.see Stage.exchange? n = some g)
    (hg : B.pipeline.generation = g) :
    A.pipeline.generation = g ∧ B.pipeline.conversation = A.pipeline.conversation ∧
      B.pipeline.transcript = A.pipeline.transcript := by
  have hcurrent : A.pipeline.generation = g :=
    Nat.le_antisymm (hg ▸ hm.generation_le.1) (hS.le n g hsee)
  refine ⟨hcurrent, ?_⟩
  rcases hm.messages hS (hcurrent ▸ hsee) with h | h | ⟨r, rfl⟩
  · exact h
  · rw [h, Pipeline.reset, hcurrent] at hg
    exact absurd hg (Nat.succ_ne_self g)
  · -- the answer for the task itself: if it brings a message, nothing is under way any more
    cases hm with
    | quiet | leave | staleReply | failedReply | staleEntries | failedEntries => exact ⟨rfl, rfl⟩
    | load _ ht => rcases ht with ht | ⟨_, ht⟩ <;> cases ht
    | delivered r x hstage | loaded entries supply hstage =>
      rw [Affairs.see, Affairs.stage?_put_self (hstage ▸ rfl)] at hsee'
      cases hsee'

/-- So they wait for a question. -/
theorem messages_kept (hm : Change l A B) (hS : Sound qs A) (hs : A.stage? n = some s)
    (hq : s.question? = some (q, g)) (hs' : B.stage? n = some s')
    (hq' : s'.question? = some (q, g)) (hg : B.pipeline.generation = g) :
    A.pipeline.generation = g ∧ B.pipeline.conversation = A.pipeline.conversation ∧
      B.pipeline.transcript = A.pipeline.transcript := by
  refine hm.exchange_kept hS (n := n) ?_ ?_ hg
  · rw [Affairs.see, hs]
    exact Stage.exchange?_of_question? hq
  · rw [Affairs.see, hs']
    exact Stage.exchange?_of_question? hq'

/-- A load begins in a turn of its task, which is not loading yet. -/
theorem load_of_turn {t : Turn} {id : Int} {errand : Errand}
    (ht : t = .advance n ∨ ∃ r, t = .giveSession n r)
    (hs : s = .start (.load id) ∧ errand = .load ∨ s = .startLoad id errand ∨
      s = .awaitSession ∧ errand = .restore) : t.task? = some n ∧ s.isLoading = false := by
  constructor
  · rcases ht with rfl | ⟨r, rfl⟩ <;> rfl
  · rcases hs with ⟨rfl, -⟩ | rfl | ⟨rfl, -⟩ <;> rfl

/-- **What becomes of a question that can be asked again** in a turn: it stays what it is, unless a
question is accepted, a conversation starts to load, or a question fails. -/
theorem resendable_kept {t : Turn} (hm : Change (some t) A B) (hS : Sound qs A) :
    (B.pipeline.resendable = A.pipeline.resendable ∧ (A.pipeline.resendable = true →
        B.pipeline.conversation = A.pipeline.conversation ∧
          B.pipeline.transcript = A.pipeline.transcript)) ∨
      (∃ n o q g, t = .advance n ∧ A.stage? n = some (.start o) ∧
        B.stage? n = some (.posing q g)) ∨
      (∃ n s call id g errand, t.task? = some n ∧ A.stage? n = some s ∧ s.isLoading = false ∧
        B.stage? n = some (.awaitEntries call id g errand)) ∨
      ∃ n call q g r, t = .answer n (.reply r) ∧ A.stage? n = some (.awaitReply call q g) ∧
        A.pipeline.isStale g = false ∧ B.stage? n = none := by
  -- whatever comes back in time finds nothing to ask again
  have hbusy : ∀ {n s g}, A.stage? n = some s → s.exchange? = some g →
      A.pipeline.isStale g = false → A.pipeline.resendable = false := fun hn hg hstale =>
    (hS.no_banner (hS.busy _ (Affairs.see_of_answered hn hg hstale))).2
  cases hm with
  | quiet | call | attend | leave | save | skip | saved | staleReply | staleEntries =>
    exact .inl ⟨rfl, fun _ => ⟨rfl, rfl⟩⟩
  | ask hstage =>
    exact .inr (.inl ⟨_, _, _, _, rfl, hstage, Affairs.stage?_put_self (hstage ▸ rfl)⟩)
  | @pose _ _ g _ call hstage =>
    have hpose := A.pipeline.pose_eq g
    exact .inl ⟨congrArg (·.resendable) hpose, fun _ =>
      ⟨congrArg (·.conversation) hpose, congrArg (·.transcript) hpose⟩⟩
  | load call ht hstage hs =>
    obtain ⟨htask, hloading⟩ := load_of_turn ht hs
    exact .inr (.inr (.inl ⟨_, _, _, _, _, _, htask, hstage, hloading,
      Affairs.stage?_put_self (hstage ▸ rfl)⟩))
  | failedReply r b hstage hstale =>
    exact .inr (.inr (.inr ⟨_, _, _, _, _, rfl, hstage, hstale, Affairs.stage?_drop_self⟩))
  | delivered r x hstage hstale =>
    exact .inl ⟨rfl, fun h => nomatch (hbusy hstage rfl hstale).symm.trans h⟩
  | failedEntries f b hstage hstale =>
    exact .inl ⟨rfl, fun h => nomatch (hbusy hstage rfl hstale).symm.trans h⟩
  | loaded entries supply hstage hstale =>
    exact .inl ⟨rfl, fun h => nomatch (hbusy hstage rfl hstale).symm.trans h⟩

/-- **Where a task that waits for entries comes from**: it waited for them before, or its load
begins now, with a generation of its own. -/
theorem entries_before (hm : Change l A B) {call k : Nat} {id : Int} {errand : Errand}
    (hs : B.stage? n = some (.awaitEntries call id k errand)) :
    A.stage? n = some (.awaitEntries call id k errand) ∨
      B.pipeline = A.pipeline.startLoad ∧ k = A.pipeline.generation + 1 := by
  have hfate := hm.fate n
  rw [hs] at hfate
  cases hfate with
  | kept h => exact .inl h
  | loads _ _ _ hpipeline => exact .inr ⟨hpipeline, rfl⟩
  -- no other fate brings a task to this stage
  | concluded _ _ h =>
    obtain ⟨_, h⟩ := h _ rfl
    cases h
  | attends _ h => rcases h with h | ⟨_, h⟩ <;> cases h
  | saves _ h | replied _ h | arrived _ h => rcases h with h | h <;> cases h

/-- **A task that comes to wait for entries starts to load**, in a generation of its own. -/
theorem startLoad (hm : Change l A B) (hs : A.stage? n = some s) (hloading : s.isLoading = false)
    {call k : Nat} {id : Int} {errand : Errand}
    (hs' : B.stage? n = some (.awaitEntries call id k errand)) :
    B.pipeline = A.pipeline.startLoad ∧ k = A.pipeline.generation + 1 := by
  refine (hm.entries_before hs').resolve_left fun h => ?_
  cases hs.symm.trans h
  cases hloading

end Change

namespace App

variable {a₀ a b : App} {h : History} {n g : Nat} {q : Question} {ws vs : Errands} {x : Happening}
  {ms : Course} {qs qs' : List (Nat × Message)}

/-! ### What the moments come to -/

/-- **What an accepted question is**: the text of a message of the user's that is the last of the
transcript from then on. A message that is sent is appended; one that is sent again is there. -/
theorem advance_accepted {o : Operation} (hn : a.stage? n = some (.start o))
    (hb : (a.advance n).stage? n = some (.posing q g)) :
    a.pipeline.phase = .idle ∧ g = a.pipeline.generation ∧ ∃ y t,
      y.role = .user ∧ t.last? = some y ∧ q = a.questionOf y ∧
      (a.advance n).pipeline = { a.pipeline with
        phase := .sending, banner := none, resendable := false, transcript := t } ∧
      ((∃ text, o = .send text ∧ y.content = text ∧ t = a.pipeline.transcript.push y) ∨
        o = .retry ∧ a.pipeline.resendable = true ∧ t = a.pipeline.transcript) := by
  have hsome : (a.stage? n).isSome := hn ▸ rfl
  cases o with
  | send text =>
    obtain ⟨-, hadvance⟩ | ⟨⟨-, hidle⟩, y, supply, hrole, hcontent, hadvance⟩ := advance_send hn
    · cases hb.symm.trans (stage?_of_eq_endTask hadvance)
    · cases hb.symm.trans (stage?_of_eq_setStage hadvance hsome)
      rw [hadvance]
      exact ⟨hidle, rfl, y, _, hrole, List.getLast?_concat, rfl, rfl,
        .inl ⟨text, rfl, hcontent, rfl⟩⟩
  | retry =>
    obtain ⟨-, hadvance⟩ | ⟨⟨hidle, hresendable⟩, y, hrole, hlast, hadvance⟩ := advance_retry hn
    · cases hb.symm.trans (stage?_of_eq_endTask hadvance)
    · cases hb.symm.trans (stage?_of_eq_setStage hadvance hsome)
      rw [hadvance]
      exact ⟨hidle, rfl, y, _, hrole, hlast, rfl, rfl, .inr ⟨rfl, hresendable, rfl⟩⟩
  -- no other operation comes to put a question
  | load id =>
    have hadvance : a.advance n = a.startLoad n id .load := by simp only [advance, hn, begin]
    cases (hadvance ▸ hb).symm.trans (stage?_startLoad hsome id .load)
  | restore =>
    have hadvance : a.advance n = a.setStage n .awaitSession := by simp only [advance, hn, begin]
    cases hb.symm.trans (stage?_of_eq_setStage hadvance hsome)
  | list =>
    have hadvance : a.advance n = a.begin n .list := by simp only [advance, hn]
    cases hb.symm.trans (stage?_of_eq_ask hadvance hsome)

/-- **What a question that is accepted is**, told from the moment at which it is. -/
theorem Happens.accepted (hx : Happens x (a, ws) (b, vs))
    (haccepted : Moment.accepted? ⟨a, x, b⟩ = some (n, q)) :
    a.pipeline.phase = .idle ∧ b.stage? n = some (.posing q a.pipeline.generation) ∧
      ∃ o y t, a.stage? n = some (.start o) ∧
        y.role = .user ∧ t.last? = some y ∧ q = a.questionOf y ∧
        b.pipeline = { a.pipeline with
          phase := .sending, banner := none, resendable := false, transcript := t } ∧
        ((∃ text, o = .send text ∧ y.content = text ∧ t = a.pipeline.transcript.push y) ∨
          o = .retry ∧ a.pipeline.resendable = true ∧ t = a.pipeline.transcript) := by
  obtain ⟨o, g, hpassage⟩ := Moment.accepted?_eq_some.mp haccepted
  obtain ⟨⟨t, rfl, -⟩, ho, hposing⟩ := Moment.passage?_eq_some.mp hpassage
  dsimp only at ho hposing
  have hadvance : t = .advance n := by
    rcases hx.change.exists_question_before (n := n) hposing rfl with ⟨s, hs, hq⟩ | ⟨hl, -, -⟩
    · cases hs.symm.trans ho
      cases hq
    · exact Option.some.inj hl
  subst hadvance
  cases hx with
  | turn =>
    obtain ⟨hidle, rfl, y, t, hrest⟩ := advance_accepted ho hposing
    exact ⟨hidle, hposing, o, y, t, ho, hrest⟩

/-- A question is put to the server by the task that holds it, under the number of the call. -/
theorem Happens.exists_posing (hx : Happens x (a, ws) (b, vs)) {call : Nat}
    (hposed : Moment.posed? ⟨a, x, b⟩ = some (n, call, q)) :
    ∃ g, a.stage? n = some (.posing q g) ∧ call = a.calls ∧ b = a.advance n := by
  obtain ⟨q', g, g', hpassage⟩ := Moment.posed?_eq_some.mp hposed
  obtain ⟨-, hs, hs'⟩ := Moment.passage?_eq_some.mp hpassage
  dsimp only at hs hs'
  rcases hx.change.question_before (n := n) hs' rfl with h | ⟨hl, h, -⟩ | ⟨-, -, h⟩
  · cases hs.symm.trans h
  · obtain rfl := Happening.turn?_eq_some.mp hl
    cases hx
    cases hs'.symm.trans (advance_posing (n := n) h).1
    exact ⟨g, h, rfl, rfl⟩
  · cases h

/-- **What a question that is put to the server is**: one that was accepted, and is asked now. The
messages are left alone. -/
theorem Happens.posed (hx : Happens x (a, ws) (b, vs)) {call : Nat}
    (hposed : Moment.posed? ⟨a, x, b⟩ = some (n, call, q)) :
    (∃ g, a.stage? n = some (.posing q g)) ∧ b.trace.head? = some (.asked call (.send q)) ∧
      b.calls = a.calls + 1 ∧ b.pipeline.conversation = a.pipeline.conversation ∧
      b.pipeline.transcript = a.pipeline.transcript := by
  obtain ⟨g, h, rfl, rfl⟩ := hx.exists_posing hposed
  obtain ⟨-, htrace, hkept⟩ := advance_posing h
  exact ⟨⟨g, h⟩, congrArg List.head? htrace, hkept⟩

/-- Nothing but an answer moves a task that waits for the server. -/
theorem Happens.answered (hx : Happens x (a, ws) (b, vs)) (hO : (a.affairs ws).Orderly)
    {s : Stage} (hs : a.stage? n = some s) (hwaits : s.awaited?.isSome)
    (hs' : b.stage? n ≠ some s) : ∃ r, x = .turn (.answer n r) := by
  by_contra hne
  have hlt : n < (a.affairs ws).nextTask := by
    obtain ⟨t, ht, rfl, -⟩ := Affairs.exists_of_stage? (A := a.affairs ws) hs
    exact hO.named.lt t ht
  have hkept := hx.change.stage?_eq hO hlt (fun s' h => ?_) fun r hr =>
    hne ⟨r, Happening.turn?_eq_some.mp hr⟩
  · exact hs' (hkept.trans hs)
  · obtain rfl := Option.some.inj (hs.symm.trans h)
    exact hwaits

/-- Nothing but a reply moves a task that waits for one. -/
theorem Happens.answered_reply (hx : Happens x (a, ws) (b, vs)) (hO : (a.affairs ws).Orderly)
    {call : Nat} (hs : a.stage? n = some (.awaitReply call q g))
    (hs' : b.stage? n ≠ some (.awaitReply call q g)) :
    ∃ r, x = .turn (.answer n (.reply r)) ∧ b = (a.enter (.answer n (.reply r))).1 := by
  obtain ⟨r, rfl⟩ := hx.answered hO hs rfl hs'
  cases hx
  cases r with
  | reply r => exact ⟨r, rfl, rfl⟩
  | entries | summaries =>
    simp only [enter, takeAnswer, hs] at hs'
    exact absurd rfl hs'

/-- **What a question that fails is**: one of the present generation, whose task has waited for the
reply. It can be asked again from then on. -/
theorem Happens.failed (hx : Happens x (a, ws) (b, vs)) (hO : (a.affairs ws).Orderly)
    (hfailed : Moment.failed? ⟨a, x, b⟩ = some n) :
    ∃ call q banner, a.stage? n = some (.awaitReply call q a.pipeline.generation) ∧
      b.pipeline = { a.pipeline with
        phase := .idle, banner := some banner, resendable := true } := by
  obtain ⟨call, q, g, k, hpassage, htrace⟩ := Moment.failed?_eq_some.mp hfailed
  obtain ⟨-, hs, hs'⟩ := Moment.passage?_eq_some.mp hpassage
  dsimp only at hs hs' htrace
  obtain ⟨r, rfl, rfl⟩ := hx.answered_reply hO hs (hs' ▸ nofun)
  obtain ⟨-, h⟩ | ⟨hstale, banner, y, supply, h⟩ | ⟨-, _, _, _, _, -, -, -, -, h⟩ :=
    enter_reply hs r
  · rw [h] at htrace
    cases htrace
  · obtain rfl := (Pipeline.isStale_eq_false.mp hstale).2
    rw [h]
    exact ⟨call, q, banner, hs, rfl⟩
  · cases hs'.symm.trans (stage?_of_eq_setStage (congrArg Prod.fst h) (hs ▸ rfl))

/-- A question of the present generation whose task has ended with the answer failed. -/
theorem failed?_of_answer {call : Nat} {r : Except Failure Reply}
    (hs : a.stage? n = some (.awaitReply call q g)) (hstale : a.pipeline.isStale g = false)
    (hs' : (a.enter (.answer n (.reply r))).1.stage? n = none) :
    Moment.failed? ⟨a, .turn (.answer n (.reply r)), (a.enter (.answer n (.reply r))).1⟩ =
      some n := by
  obtain ⟨h, -⟩ | ⟨-, banner, y, supply, h⟩ | ⟨-, _, _, _, _, -, -, -, -, h⟩ := enter_reply hs r
  · cases hstale.symm.trans h
  · refine Moment.failed?_eq_some.mpr
      ⟨call, q, g, banner.kind, Moment.passage?_turn rfl hs hs', ?_⟩
    rw [h]
    rfl
  · cases hs'.symm.trans (stage?_of_eq_setStage (congrArg Prod.fst h) (hs ▸ rfl))

/-! ### The invariant -/

/-- What is known, after a course, of the question under way and of the one that failed. -/
structure Pending (ms : Course) (a : App) : Prop where
  /-- A question under way is the one that was accepted last, and the text of the last message. -/
  asked : ∀ n s q, a.stage? n = some s → s.question? = some (q, a.pipeline.generation) →
    Course.accepted? ms = some (n, q) ∧ ∃ y : Message,
      y.role = .user ∧ a.pipeline.transcript.last? = some y ∧ q = a.questionOf y
  /-- What can be asked again is the question that failed, and the text of the last message. -/
  failed : a.pipeline.resendable = true → ∃ y : Message, y.role = .user ∧
    a.pipeline.transcript.last? = some y ∧ Course.failed? ms = some (a.questionOf y)
  none : a.pipeline.resendable = false → Course.failed? ms = none

/-- Messages put the same questions as long as the conversation and its persona are the same. -/
theorem questionOf_congr (hconversation : b.pipeline.conversation = a.pipeline.conversation)
    (hprofile : b.profile = a.profile) (y : Message) : b.questionOf y = a.questionOf y := by
  rw [questionOf, questionOf, hconversation, hprofile]

theorem Pending.of_isFresh (ha : a₀.IsFresh) : Pending [] a₀ where
  asked n s q hs _ := by
    have hnone := Affairs.stage?_of_tasks_eq_nil (A := a₀.affairs []) ha.tasks n
    cases hnone.symm.trans hs
  failed hresendable := by
    rw [ha.pipeline] at hresendable
    cases hresendable
  none _ := rfl

/-- The last message and the question under way stay together. -/
theorem Pending.asked_step (hp : Pending ms a) (hS : Sound qs (a.affairs ws))
    (hx : Happens x (a, ws) (b, vs)) {s : Stage} (hs : b.stage? n = some s)
    (hq : s.question? = some (q, b.pipeline.generation)) :
    Course.accepted? (⟨a, x, b⟩ :: ms) = some (n, q) ∧ ∃ y : Message,
      y.role = .user ∧ b.pipeline.transcript.last? = some y ∧ q = b.questionOf y := by
  have hprofile := hx.profile
  rcases hx.change.exists_question_before hs hq with ⟨s₀, hs₀, hq₀⟩ | ⟨hl, ⟨o, ho⟩, rfl⟩
  · obtain ⟨hg, hconversation, htranscript⟩ := hx.change.messages_kept hS hs₀ hq₀ hs hq rfl
    have hq₀ : s₀.question? = some (q, a.pipeline.generation) := hq₀.trans (hg ▸ rfl)
    obtain ⟨haccepted, y, hrole, hlast, rfl⟩ := hp.asked n s₀ q hs₀ hq₀
    -- while a question is under way no other is accepted
    have hnone : Moment.accepted? ⟨a, x, b⟩ = Option.none := by
      cases hother : Moment.accepted? ⟨a, x, b⟩ with
      | none => rfl
      | some other =>
        have hsee : (a.affairs ws).see Stage.exchange? n = some a.pipeline.generation := by
          rw [Affairs.see, hs₀]
          exact Stage.exchange?_of_question? hq₀
        exact absurd (hx.accepted hother).1 (hS.busy n hsee)
    refine ⟨?_, y, hrole, (congrArg Transcript.last? htranscript).trans hlast,
      (questionOf_congr hconversation hprofile y).symm⟩
    rw [Course.accepted?, List.findSome?_cons, hnone]
    exact haccepted
  · -- the task starts with the question, so it is the one that was accepted
    obtain rfl := Happening.turn?_eq_some.mp hl
    have haccepted : Moment.accepted? ⟨a, .turn (.advance n), b⟩ = some (n, q) :=
      Moment.accepted?_eq_some.mpr ⟨o, _, Moment.passage?_turn rfl ho hs⟩
    obtain ⟨-, -, -, y, t, -, hrole, hlast, hq, hb, -⟩ := hx.accepted haccepted
    refine ⟨?_, y, hrole, ?_, ?_⟩
    · rw [Course.accepted?, List.findSome?_cons, haccepted]
    · rw [hb]
      exact hlast
    · rw [hq]
      exact (questionOf_congr (by rw [hb]) hprofile y).symm

/-- Once a conversation moves on there is nothing to ask again. -/
theorem Happens.movesOn (hx : Happens x (a, ws) (b, vs))
    (hover : Moment.movesOn ⟨a, x, b⟩ = true) : b.pipeline.resendable = false := by
  simp only [Moment.movesOn, Bool.or_eq_true] at hover
  obtain ((h | h) | h) | h := hover
  · obtain ⟨⟨n, q⟩, haccepted⟩ := Option.isSome_iff_exists.mp h
    obtain ⟨-, -, _, _, _, -, -, -, -, hb, -⟩ := hx.accepted haccepted
    rw [hb]
  · obtain ⟨n, s, call, id, g, errand, hpassage, hloading⟩ := Moment.loads_eq_true.mp h
    obtain ⟨-, hs, hs'⟩ := Moment.passage?_eq_some.mp hpassage
    have hb : b.pipeline = a.pipeline.startLoad := (hx.change.startLoad hs hloading hs').1
    rw [hb, Pipeline.startLoad]
  · cases hx with
    | turn => cases h
    | errand w => rw [pipeline_doing, if_pos h, Pipeline.reset]
  · cases hx with
    | turn => cases h
    | errand w =>
      rw [pipeline_doing, if_pos h]
      split <;> rfl

/-- **What can be asked again is kept**, unless a question fails or the conversation moves on. -/
theorem Happens.resendable (hx : Happens x (a, ws) (b, vs)) (hS : Sound qs (a.affairs ws))
    (hfailed : Moment.failed? ⟨a, x, b⟩ = none) (hstays : Moment.movesOn ⟨a, x, b⟩ = false) :
    b.pipeline.resendable = a.pipeline.resendable ∧ (a.pipeline.resendable = true →
      b.pipeline.conversation = a.pipeline.conversation ∧
        b.pipeline.transcript = a.pipeline.transcript) := by
  simp only [Moment.movesOn, Bool.or_eq_false_iff, Option.isSome_eq_false_iff,
    Option.isNone_iff_eq_none] at hstays
  obtain ⟨⟨⟨haccepted, hloads⟩, hresets⟩, hdismisses⟩ := hstays
  cases x with
  | errand w =>
    cases hx
    rw [pipeline_doing, if_neg (Bool.eq_false_iff.mp hresets),
      if_neg (Bool.eq_false_iff.mp hdismisses)]
    split <;> exact ⟨rfl, fun _ => ⟨rfl, rfl⟩⟩
  | turn t =>
    cases hx
    rcases (a.change_enter ws t).resendable_kept hS with h | ⟨n, o, q, g, rfl, ho, hposing⟩ |
      ⟨n, s, call, id, g, errand, htask, hs, hloading, hs'⟩ |
      ⟨n, call, q, g, r, rfl, hs, hstale, hs'⟩
    · exact h
    · have h := Moment.accepted?_eq_some.mpr
        ⟨o, g, Moment.passage?_turn (t := .advance n) rfl ho hposing⟩
      cases haccepted.symm.trans h
    · have h := Moment.loads_eq_true.mpr
        ⟨_, _, _, _, _, _, Moment.passage?_turn htask hs hs', hloading⟩
      cases hloads.symm.trans h
    · cases hfailed.symm.trans (failed?_of_answer hs hstale hs')

/-- **What happens keeps what is known of the question under way and of the one that failed.** -/
theorem Pending.step (hp : Pending ms a) (hO : (a.affairs ws).Orderly)
    (hS : Sound qs (a.affairs ws)) (hx : Happens x (a, ws) (b, vs)) :
    Pending (⟨a, x, b⟩ :: ms) b := by
  refine ⟨fun n s q => hp.asked_step hS hx, fun hb => ?_, fun hb => ?_⟩
  · cases hfailed : Moment.failed? ⟨a, x, b⟩ with
    | some n =>
      obtain ⟨call, q, banner, hs, hpipeline⟩ := hx.failed hO hfailed
      obtain ⟨haccepted, y, hrole, hlast, rfl⟩ := hp.asked n _ q hs rfl
      refine ⟨y, hrole, (congrArg (·.transcript.last?) hpipeline).trans hlast, ?_⟩
      rw [questionOf_congr (by rw [hpipeline]) hx.profile]
      exact Course.failed?_of_failed hfailed haccepted
    | none =>
      have hstays : Moment.movesOn ⟨a, x, b⟩ = false := by
        rw [← Bool.not_eq_true]
        intro hover
        cases hb.symm.trans (hx.movesOn hover)
      obtain ⟨hresendable, hkept⟩ := hx.resendable hS hfailed hstays
      have ha := hresendable.symm.trans hb
      obtain ⟨y, hrole, hlast, hquestion⟩ := hp.failed ha
      obtain ⟨hconversation, htranscript⟩ := hkept ha
      refine ⟨y, hrole, (congrArg Transcript.last? htranscript).trans hlast, ?_⟩
      rw [questionOf_congr hconversation hx.profile, Course.failed?_of_not_failed hfailed, hstays]
      exact hquestion
  · cases hfailed : Moment.failed? ⟨a, x, b⟩ with
    | some n =>
      obtain ⟨call, q, banner, -, hpipeline⟩ := hx.failed hO hfailed
      rw [hpipeline] at hb
      cases hb
    | none =>
      rw [Course.failed?_of_not_failed hfailed]
      split
      · rfl
      · rename_i hstays
        have hresendable := (hx.resendable hS hfailed (Bool.eq_false_iff.mpr hstays)).1
        exact hp.none (hresendable.symm.trans hb)

/-- **After every course it is known which question is under way and which one failed.** -/
theorem Leads.pending (hfresh : a₀.IsFresh) {c : App × Errands} (hc : Leads (a₀, []) ms c) :
    Pending ms c.1 := by
  induction hc with
  | start => exact .of_isFresh hfresh
  | step hc hx ih =>
    obtain ⟨h, hr⟩ := hc.reached .start
    exact ih.step (hr.orderly hfresh) (hr.sound hfresh) hx

/-- What can be asked again is what failed. -/
theorem Leads.resendable_iff (hfresh : a₀.IsFresh) (hc : Leads (a₀, []) ms (a, ws)) :
    a.pipeline.resendable = true ↔ (Course.failed? ms).isSome := by
  have hp : Pending ms a := hc.pending hfresh
  constructor
  · intro h
    obtain ⟨y, -, -, hy⟩ := hp.failed h
    rw [hy, Option.isSome_some]
  · intro h
    by_contra hne
    rw [hp.none (Bool.eq_false_iff.mpr hne)] at h
    cases h

end App

end Parley
