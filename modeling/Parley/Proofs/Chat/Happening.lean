import Parley.Proofs.App.Alike
import Parley.Proofs.App.Assembly
import Parley.Proofs.Chat.Exchange

/-!
# What happens to a conversation

A statement about what has happened *since* needs words for what can happen. Here they are, as
properties of the moments of a course (`Parley.Moment`), told from the app before and after: a
question is accepted, a conversation starts to load, a question fails, a reply is taken in, the
entries of a conversation arrive, everything starts anew, the banner is removed, the conversation is
unmounted.

The equations say what each of them comes to. What is done without a task has at most one of three
effects on a conversation (`Parley.App.pipeline_doing`); a question is accepted as the last message
(`Parley.App.advance_send`, `Parley.App.advance_retry`); and an answer is dropped, fails or is
published (`Parley.App.enter_reply`).
-/

namespace Parley

open Pipeline (Arrival)

/-! ### Words for what happens -/

namespace Happening

/-- Everything starts anew, by a command or because the conversation is handed the signal. -/
def resets : Happening → Bool
  | .errand (.deliver ⟨_, _, .pipeline⟩ ⟨_, .newConversation⟩) => true
  | .errand (.act (.command _ .reset)) => true
  | _ => false

/-- The banner is removed. -/
def dismisses : Happening → Bool
  | .errand (.act (.command _ .dismiss)) => true
  | _ => false

/-- The conversation is unmounted. -/
def unmounts : Happening → Bool
  | .errand (.act (.command _ (.unmount .pipeline))) => true
  | .errand (.act (.command _ .shutdown)) => true
  | _ => false

/-- The conversation is handed the signal to load another. -/
def selects? : Happening → Option Int
  | .errand (.deliver ⟨_, _, .pipeline⟩ ⟨_, .conversationSelected id⟩) => some id
  | _ => none

theorem selects?_eq_some {x : Happening} {id : Int} : x.selects? = some id ↔
    ∃ l source, l.listener = .pipeline ∧
      x = .errand (.deliver l ⟨source, .conversationSelected id⟩) := by
  constructor
  · intro h
    unfold selects? at h
    split at h
    · cases h
      exact ⟨_, _, rfl, rfl⟩
    · cases h
  · rintro ⟨⟨_, _, listener⟩, source, rfl, rfl⟩
    rfl

/-- One thing happens at a time. -/
theorem unmounts_eq_false {x : Happening} (h : x.resets = true ∨ x.dismisses = true) :
    x.unmounts = false := by
  rcases h with h | h
  · unfold resets at h
    split at h <;> first | rfl | cases h
  · unfold dismisses at h
    split at h <;> first | rfl | cases h

end Happening

namespace Moment

/-- The task whose turn it is, with its stage before and after. -/
def passage? (m : Moment) : Option (Nat × Option Stage × Option Stage) :=
  (m.happening.turn?.bind Turn.task?).map fun n => (n, m.before.stage? n, m.after.stage? n)

/-- A question is accepted, under the task that asks it: to be sent, or to be sent again. -/
def accepted? (m : Moment) : Option (Nat × Question) :=
  match m.passage? with
  | some (n, some (.start _), some (.posing q _)) => some (n, q)
  | _ => none

/-- A message is accepted, under the task that sends it. -/
def sent? (m : Moment) : Option (Nat × String) :=
  match m.passage? with
  | some (n, some (.start (.send text)), some (.posing _ _)) => some (n, text)
  | _ => none

/-- A question is put to the server: the task, the number of the call and the question. -/
def posed? (m : Moment) : Option (Nat × Nat × Question) :=
  match m.passage? with
  | some (n, some (.posing _ _), some (.awaitReply call q _)) => some (n, call, q)
  | _ => none

/-- A conversation starts to load: a task comes to wait for its entries. -/
def loads (m : Moment) : Bool :=
  match m.passage? with
  | some (_, some s, some (.awaitEntries _ _ _ _)) => !s.isLoading
  | _ => false

/-- A question fails: the task that waited for the reply has ended, and so it says. -/
def failed? (m : Moment) : Option Nat :=
  match m.passage?, m.after.trace.head? with
  | some (n, some (.awaitReply _ _ _), none), some (.ended k (.sent (.failed _))) =>
    if k = n then some n else none
  | _, _ => none

/-- The reply to a question is taken in, and is being published. -/
def replied? (m : Moment) : Option (Nat × Question) :=
  match m.passage? with
  | some (n, some (.awaitReply _ q _), some .publishing) => some (n, q)
  | _ => none

/-- A load succeeds: the entries of the conversation have come, and its number is to be saved. -/
def arrives (m : Moment) : Bool :=
  match m.passage? with
  | some (_, some (.awaitEntries _ _ _ _), some (.wantSave _ _ _)) => true
  | _ => false

variable {m : Moment} {n : Nat} {q : Question} {s s' : Option Stage} {w : Work Listener Act}

theorem passage?_eq_some : m.passage? = some (n, s, s') ↔
    (∃ t, m.happening = .turn t ∧ t.task? = some n) ∧ m.before.stage? n = s ∧
      m.after.stage? n = s' := by
  obtain ⟨before, happening, after⟩ := m
  cases happening with
  | errand w => simp [passage?, Happening.turn?]
  | turn t =>
    simp only [passage?, Happening.turn?, Option.bind_some, Option.map_eq_some_iff, Prod.mk.injEq,
      Happening.turn.injEq, exists_eq_left']
    constructor
    · rintro ⟨k, hk, rfl, rfl, rfl⟩
      exact ⟨hk, rfl, rfl⟩
    · rintro ⟨hn, rfl, rfl⟩
      exact ⟨n, hn, rfl, rfl, rfl⟩

/-- The turn of a task. -/
theorem passage?_turn {a b : App} {t : Turn} (ht : t.task? = some n) (hs : a.stage? n = s)
    (hs' : b.stage? n = s') : passage? ⟨a, .turn t, b⟩ = some (n, s, s') := by
  simp [passage?, Happening.turn?, ht, hs, hs']

/-- What is done without a task is nobody's turn. -/
theorem passage?_errand (h : m.happening = .errand w) : m.passage? = none := by
  rw [passage?, h]
  rfl

theorem accepted?_eq_some : m.accepted? = some (n, q) ↔
    ∃ o g, m.passage? = some (n, some (.start o), some (.posing q g)) := by
  unfold accepted?
  split
  · rename_i h
    simp [h]
  · rename_i h
    simpa using fun o g => h n o q g

theorem sent?_eq_some {text : String} : m.sent? = some (n, text) ↔
    ∃ q g, m.passage? = some (n, some (.start (.send text)), some (.posing q g)) := by
  unfold sent?
  split
  · rename_i h
    simp [h]
  · rename_i h
    simpa using fun q g => h n text q g

theorem posed?_eq_some {call : Nat} : m.posed? = some (n, call, q) ↔ ∃ q' g g',
    m.passage? = some (n, some (.posing q' g'), some (.awaitReply call q g)) := by
  unfold posed?
  split
  · rename_i h
    simp [h]
  · rename_i h
    simpa using fun q' g g' => h n q' g' call q g

theorem loads_eq_true : m.loads = true ↔ ∃ n s call id g errand,
    m.passage? = some (n, some s, some (.awaitEntries call id g errand)) ∧
      s.isLoading = false := by
  unfold loads
  split
  · rename_i h
    simp [h]
  · rename_i h
    refine ⟨nofun, ?_⟩
    rintro ⟨n, s, call, id, g, errand, hpassage, -⟩
    exact absurd hpassage (h n s call id g errand)

theorem failed?_eq_some : m.failed? = some n ↔
    ∃ call q g k, m.passage? = some (n, some (.awaitReply call q g), none) ∧
      m.after.trace.head? = some (.ended n (.sent (.failed k))) := by
  unfold failed?
  split
  · rename_i k call q g l kind hpassage htrace
    rw [hpassage, htrace]
    split
    · rename_i h
      subst h
      constructor
      · intro h
        cases h
        exact ⟨_, _, _, _, rfl, rfl⟩
      · rintro ⟨_, _, _, _, h, -⟩
        cases h
        rfl
    · rename_i hne
      refine ⟨nofun, ?_⟩
      rintro ⟨_, _, _, _, h, h'⟩
      cases h
      cases h'
      exact absurd rfl hne
  · rename_i h
    refine ⟨nofun, ?_⟩
    rintro ⟨call, q, g, k, hpassage, htrace⟩
    exact absurd htrace (h n call q g n k hpassage)

theorem replied?_eq_some : m.replied? = some (n, q) ↔
    ∃ call g, m.passage? = some (n, some (.awaitReply call q g), some .publishing) := by
  unfold replied?
  split
  · rename_i h
    simp [h]
  · rename_i h
    simpa using fun call g => h n call q g

theorem arrives_eq_true : m.arrives = true ↔ ∃ n call id g errand g' s o,
    m.passage? = some (n, some (.awaitEntries call id g errand), some (.wantSave g' s o)) := by
  unfold arrives
  split
  · rename_i h
    simp [h]
  · rename_i h
    simpa using h

end Moment

/-- A question that is put to the server moves nothing but the phase. -/
theorem Pipeline.pose_eq (p : Pipeline) (g : Nat) :
    p.pose g = { p with phase := (p.pose g).phase } := by
  unfold pose
  split <;> rfl

/-- A message that a reply brings is the assistant's. -/
theorem Pipeline.role_of_interpret {r : Reply} {s s' : Supply} {arrival : Arrival}
    (h : interpret r s = (.ok arrival, s')) : arrival.message.role = .agent := by
  unfold interpret at h
  split at h
  · cases h
    rfl
  · split at h <;> cases h

namespace App

variable {a b : App} {n g : Nat} {ws vs : Errands}

/-- The question that a message puts. -/
def questionOf (a : App) (x : Message) : Question :=
  ⟨x.content, a.pipeline.conversation, a.profile.persona⟩

/-- A task that is put into a stage is found there. -/
theorem stage?_of_eq_setStage {s : Stage} (h : b = a.setStage n s) (hn : (a.stage? n).isSome) :
    b.stage? n = some s := by
  rw [h]
  exact Affairs.stage?_put_self (A := a.affairs []) hn

/-- A task that asks the server is found waiting. -/
theorem stage?_of_eq_ask {c : Call} {stage : Nat → Stage} (h : b = a.ask n c stage)
    (hn : (a.stage? n).isSome) : b.stage? n = some (stage a.calls) := by
  rw [h]
  exact Affairs.stage?_put_self (A := a.affairs []) hn

/-- A task that starts to load a conversation is found waiting for its entries. -/
theorem stage?_startLoad (hn : (a.stage? n).isSome) (id : Int) (errand : Errand) :
    (a.startLoad n id errand).stage? n =
      some (.awaitEntries a.calls id (a.pipeline.generation + 1) errand) := by
  unfold startLoad
  exact stage?_of_eq_ask rfl hn

/-- A task that has ended is not found. -/
theorem stage?_of_eq_endTask {o : Outcome} (h : b = a.endTask n o) : b.stage? n = none := by
  have hdrop := congrArg (Affairs.stage? · n) (a.affairs_endTask [] n o)
  rw [h]
  exact hdrop.trans Affairs.stage?_drop_self

/-! ### What is done without a task -/

/-- **What is done without a task comes to for a conversation**, unless it concludes a reply: it
starts anew, loses its banner, is unmounted or is to load another, or nothing has happened. -/
theorem affairs_doing (a : App) (ws : Errands) {w : Work Listener Act} (hw : closing? w = none) :
    (a.doing w).1.affairs ws =
      if (Happening.errand w).resets then
        { a.affairs ws with pipeline := a.pipeline.reset }.spawn
          (.wantSave (a.pipeline.generation + 1) {} .quiet)
      else if (Happening.errand w).dismisses then
        { a.affairs ws with pipeline := a.pipeline.dismiss }
      else if (Happening.errand w).unmounts then
        { a.affairs ws with pipeline := a.pipeline.unmount }
      else match (Happening.errand w).selects? with
        | some id => (a.affairs ws).spawn (.startLoad id .select)
        | none => a.affairs ws := by
  cases w with
  | publish e => rfl
  | deliver l e =>
    obtain ⟨id, topic, listener⟩ := l
    obtain ⟨source, signal⟩ := e
    cases listener with
    | store =>
      cases signal with
      | artifactsReceived batch => exact affairs_ingest a ws batch
      | newConversation => exact affairs_clearStore a ws
      | _ => rfl
    | canvas =>
      cases signal with
      | artifactsReceived batch =>
        have hreveal : (a.react .canvas ⟨source, .artifactsReceived batch⟩).1.affairs ws =
            a.affairs ws := by
          simp only [react]
          split
          · rfl
          · exact affairs_changeCanvas a ws _
        exact hreveal
      | toggleCanvas => exact affairs_changeCanvas a ws _
      | newConversation => exact affairs_changeCanvas a ws _
      | _ => rfl
    | pipeline =>
      cases signal with
      | newConversation => exact affairs_reset a ws
      | conversationSelected id => exact affairs_spawnLoad a ws id
      | _ => rfl
    | observer n =>
      have hhears : (a.react (.observer n) ⟨source, signal⟩).1.affairs ws = a.affairs ws := by
        simp only [react]
        split <;> rfl
      exact hhears
  | act w =>
    cases w with
    | command who c =>
      cases c with
      | reset => exact affairs_reset a ws
      | unmount part =>
        cases part with
        | pipeline => exact affairs_unmount a ws .pipeline
        | canvas => exact affairs_unmount a ws .canvas
        | store => exact affairs_unmount a ws .store
      | shutdown =>
        have hshutdown : (((a.unmount .pipeline).unmount .canvas).unmount .store).affairs ws =
            { a.affairs ws with pipeline := a.pipeline.unmount } := by
          simp only [affairs_unmount, reduceCtorEq, if_false, if_true]
        exact hshutdown
      | toggle | cycle | hide | deselect => exact affairs_changeCanvas a ws _
      | openId | openAt => exact affairs_openArtifact a ws _
      | ingest batch => exact affairs_ingest _ ws _
      | clearStore => exact affairs_clearStore a ws
      | picture =>
        have hshown : (a.command .picture).1.affairs ws = a.affairs ws := by
          simp only [command]
          split
          · simp only [affairs_notes]
          · rfl
        exact hshown
      | _ => rfl
    | give | note => rfl
    | conclude n g adopted => cases hw

/-- **What becomes of the conversation itself** then. -/
theorem pipeline_doing (a : App) (w : Work Listener Act) : (a.doing w).1.pipeline =
    if (Happening.errand w).resets then a.pipeline.reset
    else if (Happening.errand w).dismisses then a.pipeline.dismiss
    else if (Happening.errand w).unmounts then a.pipeline.unmount
    else a.pipeline := by
  cases hw : closing? w with
  | none =>
    have h := congrArg Affairs.pipeline (a.affairs_doing [] hw)
    simp only [apply_ite Affairs.pipeline, Affairs.pipeline_spawn] at h
    refine h.trans ?_
    split
    · rfl
    · split
      · rfl
      · split
        · rfl
        · split
          · exact Affairs.pipeline_spawn _ _
          · rfl
  | some c =>
    -- a reply is concluded
    cases w with
    | act w =>
      cases w with
      | conclude n g adopted => cases adopted <;> rfl
      | _ => cases hw
    | _ => cases hw

/-! ### Asking -/

/-- **What comes of a message that is to be sent**: it is dropped, or it becomes the last of the
transcript and is asked. -/
theorem advance_send {text : String} (hn : a.stage? n = some (.start (.send text))) :
    (Text.isBlankText text = true ∨ a.pipeline.phase ≠ .idle) ∧
        a.advance n = (a.note (a.pipeline.ignoreNote text)).endTask n (.sent .ignored) ∨
      (Text.isBlankText text = false ∧ a.pipeline.phase = .idle) ∧ ∃ x supply,
        x.role = .user ∧ x.content = text ∧
        a.advance n = { a with
            pipeline := { a.pipeline with
              phase := .sending, banner := none, resendable := false
              transcript := a.pipeline.transcript.push x }
            supply }.setStage n (.posing (a.questionOf x) a.pipeline.generation) := by
  simp only [advance, hn, begin, Pipeline.send?]
  by_cases h : (Text.isBlankText text || a.pipeline.phase ≠ .idle) = true
  · rw [if_pos h]
    exact .inl ⟨by simpa using h, rfl⟩
  · rw [if_neg h]
    simp only [Bool.or_eq_true, decide_eq_true_eq, not_or, Bool.not_eq_true,
      Decidable.not_not] at h
    exact .inr ⟨h, _, _, rfl, rfl, rfl⟩

/-- **What comes of a question that is to be asked again**: nothing, or it is asked, and the
transcript is as it was. -/
theorem advance_retry (hn : a.stage? n = some (.start .retry)) :
    (a.pipeline.phase ≠ .idle ∨ a.pipeline.resendable = false ∨
          a.pipeline.transcript.takeUser? = none) ∧
        a.advance n = (a.note ⟨.debug, "Nothing to retry"⟩).endTask n (.sent .ignored) ∨
      (a.pipeline.phase = .idle ∧ a.pipeline.resendable = true) ∧ ∃ x,
        x.role = .user ∧ a.pipeline.transcript.last? = some x ∧
        a.advance n = ({ a with
            pipeline := { a.pipeline with
              phase := .sending, banner := none, resendable := false } }.note
            ⟨.info, "Retrying last message"⟩).setStage n
          (.posing (a.questionOf x) a.pipeline.generation) := by
  simp only [advance, hn, begin, Pipeline.retry?]
  by_cases h : (a.pipeline.phase = .idle && a.pipeline.resendable) = true
  · rw [if_pos h]
    simp only [Bool.and_eq_true, decide_eq_true_eq] at h
    cases htake : a.pipeline.transcript.takeUser? with
    | none => exact .inl ⟨.inr (.inr rfl), rfl⟩
    | some taken =>
      obtain ⟨x, t⟩ := taken
      -- what was taken back is put again
      have hpush := Transcript.push_of_takeUser? htake
      have hlast : a.pipeline.transcript.last? = some x := by
        rw [← hpush]
        exact List.getLast?_concat
      refine .inr ⟨h, x, Transcript.role_of_takeUser? htake, hlast, ?_⟩
      simp only [Option.map_some, Pipeline.ask, hpush]
      rfl
  · rw [if_neg h]
    simp only [Bool.and_eq_true, decide_eq_true_eq, not_and_or, Bool.not_eq_true] at h
    exact .inl ⟨h.imp_right .inl, rfl⟩

/-- **What comes of a question that is to be put to the server**: it is, and the messages are left
alone. -/
theorem advance_posing {q : Question} (hn : a.stage? n = some (.posing q g)) :
    (a.advance n).stage? n = some (.awaitReply a.calls q g) ∧
      (a.advance n).trace = .asked a.calls (.send q) :: a.trace ∧
      (a.advance n).calls = a.calls + 1 ∧
      (a.advance n).pipeline.conversation = a.pipeline.conversation ∧
      (a.advance n).pipeline.transcript = a.pipeline.transcript := by
  have hadvance : a.advance n = a.pose n q g := by simp only [advance, hn]
  refine ⟨stage?_of_eq_ask hadvance (hn ▸ rfl), by rw [hadvance]; rfl, by rw [hadvance]; rfl, ?_⟩
  have hpose := a.pipeline.pose_eq g
  rw [hadvance]
  exact ⟨congrArg (·.conversation) hpose, congrArg (·.transcript) hpose⟩

/-! ### Answers -/

/-- What a reply that is taken in leaves to do: its message is published, then its artifacts if it
has any, and then it is concluded. -/
def arrivalErrands (n g : Nat) (arrival : Arrival) (adopted : Option Int) : Errands :=
  .publish ⟨chatSource, .messageReceived arrival.message⟩ ::
    ((if arrival.artifacts.isEmpty then []
      else [.act (.note ⟨.info, "Reply produced " ++
          Pipeline.numberText arrival.artifacts.length ++ " artifact(s)"⟩),
        .publish ⟨chatSource, .artifactsReceived arrival.artifacts⟩]) ++
      [.act (.conclude n g adopted)])

/-- **What comes of the answer to a question**: it is dropped if it is stale, it fails, or its
message is appended and published with what it brought. -/
theorem enter_reply {call : Nat} {q : Question} (hn : a.stage? n = some (.awaitReply call q g))
    (r : Except Failure Reply) :
    a.pipeline.isStale g = true ∧ a.enter (.answer n (.reply r)) =
        ((a.note ⟨.debug, "Discarding stale reply"⟩).endTask n (.sent .discarded), []) ∨
      a.pipeline.isStale g = false ∧ (∃ (b : Banner) (x : Note) (supply : Supply),
        a.enter (.answer n (.reply r)) =
          (({ a with
              pipeline := { a.pipeline with
                phase := .idle, banner := some b, resendable := true }
              supply }.note x).endTask n (.sent (.failed b.kind)), [])) ∨
      a.pipeline.isStale g = false ∧ ∃ reply arrival adopted supply,
        r = .ok reply ∧ Pipeline.interpret reply a.supply = (.ok arrival, supply) ∧
        arrival.message.role = .agent ∧
        adopted = arrival.conversation.filter (some · ≠ a.pipeline.conversation) ∧
        a.enter (.answer n (.reply r)) =
          ({ a with
              pipeline := { a.pipeline with
                phase := .idle
                transcript := a.pipeline.transcript.push arrival.message
                conversation := adopted.or a.pipeline.conversation }
              supply }.setStage n .publishing, arrivalErrands n g arrival adopted) := by
  simp only [enter, takeAnswer, hn, takeReply, Pipeline.receive]
  cases hstale : a.pipeline.isStale g with
  | true => exact .inl ⟨rfl, rfl⟩
  | false =>
    refine .inr ?_
    cases r with
    | error f => exact .inl ⟨rfl, Banner.ofSend f, _, _, rfl⟩
    | ok reply =>
      obtain ⟨result, supply, hresult⟩ :
          ∃ result supply, Pipeline.interpret reply a.supply = (result, supply) := ⟨_, _, rfl⟩
      cases result with
      | error f =>
        simp only [hresult]
        exact .inl ⟨trivial, Banner.ofSend f, _, _, rfl⟩
      | ok arrival =>
        refine .inr ⟨rfl, reply, arrival, _, supply, rfl, hresult,
          Pipeline.role_of_interpret hresult, rfl, ?_⟩
        simp only [hresult]
        cases arrival.conversation.filter (some · ≠ a.pipeline.conversation) <;> rfl

/-- **What comes of the entries of a conversation**: they are dropped if they are stale, the load
fails, or the conversation is what they say, and its number is to be saved. -/
theorem enter_entries {call : Nat} {id : Int} {errand : Errand}
    (hn : a.stage? n = some (.awaitEntries call id g errand))
    (r : Except Failure (List HistoryEntry)) :
    a.pipeline.isStale g = true ∧ a.enter (.answer n (.entries r)) =
        ((a.note ⟨.debug, "Discarding stale history for " ++ Pipeline.numberText id⟩).endTask n
          (loadOutcome id (.ok ()) errand), []) ∨
      a.pipeline.isStale g = false ∧ (∃ f xs, r = .error f ∧ a.enter (.answer n (.entries r)) =
        (({ a with pipeline := { a.pipeline with
            phase := .idle, banner := some (Banner.ofLoad f) } }.notes xs).endTask n
          (loadOutcome id (.error f) errand), [])) ∨
      a.pipeline.isStale g = false ∧ ∃ entries x, r = .ok entries ∧
        a.enter (.answer n (.entries r)) =
          (({ a with
              pipeline := { a.pipeline with
                phase := .idle, conversation := some id
                transcript := ⟨(HistoryEntry.toMessages entries a.supply).1⟩ }
              supply := (HistoryEntry.toMessages entries a.supply).2 }.note x).setStage n
            (.wantSave g ⟨some id⟩ (loadOutcome id (.ok ()) errand)), []) := by
  simp only [enter, takeAnswer, hn, takeEntries, Pipeline.receiveEntries]
  cases a.pipeline.isStale g with
  | true => exact .inl ⟨rfl, rfl⟩
  | false =>
    refine .inr ?_
    cases r with
    | error f =>
      -- who loads in the background is told of it by a note
      by_cases herrand : errand = .select
      · exact .inl ⟨rfl, f, [_], rfl, by rw [herrand]; rfl⟩
      · refine .inl ⟨rfl, f, [], rfl, ?_⟩
        simp only [Bool.false_eq_true, if_false, herrand]
    | ok entries => exact .inr ⟨rfl, entries, _, rfl, rfl⟩

end App

end Parley
