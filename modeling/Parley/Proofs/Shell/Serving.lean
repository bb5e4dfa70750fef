import Parley.Proofs.Chat.Happening
import Parley.Proofs.Shell.Desk
import Parley.Proofs.Shell.Record

/-!
# An operation from its start to its end

At the prompt an operation is the only task there is. It goes on by itself or asks the world, and
the world answers at once (`Parley.Ports.IsPrompt`), so it is followed from stage to stage until
nothing is left of it. Nothing comes in between: no generation is begun but its own, so no answer is
stale, and when it is over the conversation is idle again, whatever was answered
(`Parley.Shell.makes_send` and the lemmas after it).
-/

namespace Parley

variable {σ : Type}

/-- An answer is one to the question. -/
def Answer.Fits : Call → Answer → Prop
  | .send _, .reply _ | .entries _, .entries _ | .summaries _ _, .summaries _ => True
  | _, _ => False

/-- Every question to the server is answered at once. -/
def Ports.IsPrompt (ports : Ports (StateM σ)) : Prop :=
  ∀ c s, ∃ r : Answer, ((ports.ask c).run s).1.1 = some r ∧ r.Fits c

/-- **An exchange is over before anything else happens**, whatever the server and the disk do. -/
theorem World.isPrompt_ports (w : World (StateM σ)) : w.ports.IsPrompt := by
  intro c s
  cases c with
  | send q => exact ⟨_, rfl, trivial⟩
  | entries id => exact ⟨_, rfl, trivial⟩
  | summaries userId limit => exact ⟨_, rfl, trivial⟩

/-- What is asked is written down, and answered. -/
theorem Ports.IsPrompt.makes_ask {ports : Ports (StateM σ)} (h : ports.IsPrompt) (c : Call) :
    Makes (ports.recorded.ask c) fun v made => made = [c] ∧ ∃ r : Answer, v.1 = some r ∧ r.Fits c :=
  .writing fun s => ⟨rfl, h c s⟩

namespace Shell

open App

variable {ports : Ports (StateM σ)} {p : Profile} {a b c : App} {n g : Nat} {st : Stage}
  {o : Outcome} {lines : List String}

/-! ### One task -/

/-- An operation is under way, and it is the only task. -/
structure Engaged (p : Profile) (a : App) (n : Nat) (st : Stage) : Prop extends IsStaffed p a where
  saving : a.saving = none
  tasks : a.tasks = [⟨n, st⟩]

/-- Nothing is under way. -/
structure Rested (p : Profile) (a : App) : Prop extends IsStaffed p a where
  saving : a.saving = none
  tasks : a.tasks = []
  phase : a.pipeline.phase = .idle

theorem stage?_of_tasks (h : a.tasks = [⟨n, st⟩]) : a.stage? n = some st := by
  simp [stage?, task?, h]

theorem stage?_of_tasks_eq_nil (h : a.tasks = []) (n : Nat) : a.stage? n = none := by
  simp [stage?, task?, h]

theorem tasks_setStage (h : a.tasks = [⟨n, st⟩]) (st' : Stage) :
    (a.setStage n st').tasks = [⟨n, st'⟩] := by
  simp [setStage, h]

theorem tasks_endTask (h : a.tasks = [⟨n, st⟩]) (o : Outcome) : (a.endTask n o).tasks = [] := by
  simp [endTask, observe, h]

@[simp] theorem spoken_setStage (a : App) (n : Nat) (st : Stage) :
    spoken (a.setStage n st) = spoken a := rfl

@[simp] theorem spoken_endTask (a : App) (n : Nat) (o : Outcome) :
    spoken (a.endTask n o) = spoken a :=
  (spoken_observe _ _).trans (List.append_nil _)

@[simp] theorem spoken_ask (a : App) (n : Nat) (c : Call) (stage : Nat → Stage) :
    spoken (a.ask n c stage) = spoken a :=
  (spoken_observe _ _).trans (List.append_nil _)

theorem outcomeOf?_endTask (a : App) (n : Nat) (o : Outcome) :
    outcomeOf? (a.endTask n o) n = some o := by
  simp [outcomeOf?, endTask, observe]

theorem Shows.engaged (hb : Shows a b lines) (h : Engaged p a n st) : Engaged p b n st :=
  ⟨hb.isStaffed h.toIsStaffed, hb.saving.trans h.saving, hb.tasks.trans h.tasks⟩

theorem Engaged.note (h : Engaged p a n st) (x : Note) : Engaged p (a.note x) n st :=
  ((Shows.refl a).notes [x]).engaged h

theorem Engaged.setStage (h : Engaged p a n st) (st' : Stage) :
    Engaged p (a.setStage n st') n st' :=
  ⟨⟨h.profile, h.registry, h.observers, h.alive⟩, h.saving, tasks_setStage h.tasks st'⟩

/-! ### Going on -/

section

variable {m : Type → Type} [Monad m] (ports : Ports m)

/-- A task that has ended does not go on. -/
theorem pumpStages_of_none (h : a.stage? n = none) (k : Nat) :
    pumpStages ports n k a = pure a := by
  cases k with
  | zero => rw [pumpStages]
  | succ k => rw [pumpStages, h]

/-- A task that is ready goes on. -/
theorem pumpStages_of_isReady (h : a.stage? n = some st) (hst : st.isReady = true) (k : Nat) :
    pumpStages ports n (k + 1) a = pumpStages ports n k (a.advance n) := by
  rw [pumpStages, h]
  cases st <;> first | rfl | cases hst

theorem pumpStages_awaitSaved {x : SavedSession}
    (h : a.stage? n = some (.awaitSaved g x o)) (k : Nat) :
    pumpStages ports n (k + 1) a = ports.save x >>= fun v =>
      pumpStages ports n k ((a.notes v.2).giveSaved n v.1) := by
  rw [pumpStages, h]

theorem pumpStages_awaitSession (h : a.stage? n = some .awaitSession) (k : Nat) :
    pumpStages ports n (k + 1) a = ports.load >>= fun v =>
      pumpStages ports n k ((a.notes v.2).giveSession n v.1) := by
  rw [pumpStages, h]

end

/-- The server answers at once. -/
theorem makes_putCall (hports : ports.IsPrompt) {c : Call} {k : Nat} {P : App → List Call → Prop}
    (h : ∀ (r : Answer) xs, r.Fits c → Makes (pumpStages ports.recorded n k
      ((a.notes xs).answer n r)) fun b made => P b (c :: made)) :
    Makes (pumpStages.putCall ports.recorded n k a c) P := by
  rw [pumpStages.putCall]
  refine (hports.makes_ask c).bind fun v made hv => ?_
  obtain ⟨r, xs⟩ := v
  obtain ⟨rfl, r, rfl, hfits⟩ := hv
  exact h r xs hfits

/-! ### Saving -/

/-- An operation has ended, and the conversation is as it was. -/
structure Ended (p : Profile) (a b : App) (n : Nat) (o : Outcome) : Prop extends IsStaffed p b where
  saving : b.saving = none
  tasks : b.tasks = []
  pipeline : b.pipeline = a.pipeline
  outcome : outcomeOf? b n = some o
  spoken : spoken b = spoken a

theorem Engaged.ended (h : Engaged p a n st) (o : Outcome) : Ended p a (a.endTask n o) n o :=
  ⟨⟨h.profile, h.registry, h.observers, h.alive⟩, h.saving, tasks_endTask h.tasks o, rfl,
    outcomeOf?_endTask a n o, spoken_endTask a n o⟩

theorem Ended.trans (h : Ended p b c n o) (hpipeline : b.pipeline = a.pipeline)
    (hspoken : Shell.spoken b = Shell.spoken a) : Ended p a c n o :=
  ⟨h.toIsStaffed, h.saving, h.tasks, h.pipeline.trans hpipeline, h.outcome,
    h.spoken.trans hspoken⟩

/-- Nothing more is done for an operation that has ended. -/
theorem makes_of_tasks_eq_nil {P : App → List Call → Prop} (h : a.tasks = []) (hP : P a [])
    (k : Nat) : Makes (pumpStages ports.recorded n k a) P := by
  rw [pumpStages_of_none _ (stage?_of_tasks_eq_nil h n)]
  exact .pure hP

/-- A session that was handed over is saved, or is not, and the operation ends. -/
theorem makes_awaitSaved {x : SavedSession} (h : IsStaffed p a)
    (htasks : a.tasks = [⟨n, .awaitSaved g x o⟩]) (k : Nat) :
    Makes (pumpStages ports.recorded n (k + 1) a) fun b made => made = [] ∧ Ended p a b n o := by
  rw [pumpStages_awaitSaved _ (stage?_of_tasks htasks)]
  refine Makes.bind_of_quiet (P := fun _ => True) (.writing fun _ => ⟨rfl, trivial⟩) fun v _ => ?_
  obtain ⟨r, xs⟩ := v
  obtain ⟨ys, hys⟩ : ∃ ys, (a.notes xs).giveSaved n r =
      ({ (a.notes xs).notes ys with saving := none, savedGeneration := g } : App).endTask n o := by
    have hn : (a.notes xs).stage? n = some (.awaitSaved g x o) :=
      stage?_of_tasks ((((Shows.refl a).notes xs).tasks).trans htasks)
    simp only [giveSaved, hn]
    cases r with
    | ok => exact ⟨[], rfl⟩
    | error f => exact ⟨[_], rfl⟩
  have hnotes : Shows a ((a.notes xs).notes ys) [] := ((Shows.refl a).notes xs).notes ys
  have hstaffed := hnotes.isStaffed h
  have hended := Engaged.ended (a := { (a.notes xs).notes ys with
    saving := none, savedGeneration := g }) ⟨⟨hstaffed.profile, hstaffed.registry,
      hstaffed.observers, hstaffed.alive⟩, rfl, hnotes.tasks.trans htasks⟩ o
  simp only [hys]
  refine makes_of_tasks_eq_nil hended.tasks ⟨rfl, hended.trans hnotes.pipeline ?_⟩ k
  exact hnotes.spoken.trans (List.append_nil _)

/-- **A session is saved**, or need not be, and the operation ends. -/
theorem makes_wantSave {x : SavedSession} (h : Engaged p a n (.wantSave g x o))
    (k : Nat) :
    Makes (pumpStages ports.recorded n (k + 2) a) fun b made => made = [] ∧ Ended p a b n o := by
  rw [pumpStages_of_isReady _ (stage?_of_tasks h.tasks) rfl]
  simp only [advance, stage?_of_tasks h.tasks, startSave, h.saving, Option.isSome_none,
    Bool.false_eq_true, if_false]
  split
  · -- one of a later generation was saved already
    have hended := fun y => (h.note y).ended o
    exact makes_of_tasks_eq_nil (hended _).tasks
      ⟨rfl, (hended _).trans rfl (spoken_note a _)⟩ _
  · refine (makes_awaitSaved (p := p) (g := g) (x := x) (o := o) ?_ ?_ k).mono
      fun b made hb => ⟨hb.1, hb.2.trans rfl ?_⟩
    · exact ⟨h.profile, h.registry, h.observers, h.alive⟩
    · exact tasks_setStage h.tasks _
    · exact (spoken_observe _ _).trans (List.append_nil _)

/-! ### Asking -/

/-- **What comes of a question** at the end of a transcript: the assistant's message is appended and
printed, or the question fails and can be asked again. -/
inductive Answered (t : Transcript) (before : List String) (b : App) (o : Option Outcome) : Prop
  | delivered (y : Message) (shown : List String) : y.role = .agent → AboutCanvas shown →
      b.pipeline.transcript = t.push y → o = some (.sent .delivered) →
      spoken b = before ++ (messageLines y ++ shown) → Answered t before b o
  | failed (k : BannerKind) (x : Banner) : b.pipeline.transcript = t →
      b.pipeline.banner = some x → b.pipeline.resendable = true →
      o = some (.sent (.failed k)) → spoken b = before → Answered t before b o

/-- What is published is noted and handed to those who listen. -/
theorem settle_publish (a : App) (e : Event) : a.settle [.publish e] =
    (a.note (a.registry.publishNote e)).settle
      ((a.registry.listening e.topic).map (.deliver · e)) := by
  rw [settle_cons, step_cons, doing_publish, List.append_nil]

theorem settle_deliver (a : App) (l : Subscription Listener) (e : Event) :
    a.settle [.deliver l e] = (a.react l.listener e).1.settle (a.react l.listener e).2 := by
  rw [settle_cons, step_cons, doing_deliver, List.append_nil]

theorem settle_act (a : App) (w : Act) :
    a.settle [.act w] = (a.perform w).1.settle (a.perform w).2 := by
  rw [settle_cons, step_cons, doing_act, List.append_nil]

/-- **A message that is published is printed.** -/
theorem shows_message (h : IsStaffed p a) (source : String) (m : Message) :
    Shows a (a.settle [.publish ⟨source, .messageReceived m⟩]) (messageLines m) := by
  have hlistening : a.registry.listening .messageReceived =
      [⟨8, .messageReceived, .observer messageObserver⟩] := by
    rw [h.registry]
    rfl
  have htopic : (⟨source, .messageReceived m⟩ : Event).topic = .messageReceived := rfl
  rw [settle_publish, htopic, hlistening, List.map_singleton, settle_deliver,
    react_observer (a := a.note _) h.observers, settle_nil]
  exact ((Shows.refl a).notes [_]).trans ⟨rfl, rfl, rfl, spoken_observe _ _⟩

/-- **A reply is published**: its message is printed, and nothing that its artifacts bring about
concerns the conversation. Then it is concluded. -/
theorem settle_arrivalErrands (h : IsStaffed p a) (n g : Nat) (arrival : Pipeline.Arrival)
    (adopted : Option Int) :
    ∃ b shown, AboutCanvas shown ∧ Shows a b (messageLines arrival.message ++ shown) ∧
      a.settle (arrivalErrands n g arrival adopted) =
        b.settle [.act (.conclude n g adopted)] := by
  have hmessage := shows_message h chatSource arrival.message
  have hcalm : ∀ w ∈ (if arrival.artifacts.isEmpty then ([] : Errands) else
      [.act (.note ⟨.info, "Reply produced " ++ Pipeline.numberText arrival.artifacts.length ++
          " artifact(s)"⟩),
        .publish ⟨chatSource, .artifactsReceived arrival.artifacts⟩]), isCalm w = true := by
    split
    · exact List.forall_mem_nil _
    · exact List.forall_mem_cons.mpr ⟨rfl, List.forall_mem_singleton.mpr rfl⟩
  obtain ⟨shown, hshown, hartifacts⟩ := shows_settle (hmessage.isStaffed h).observers hcalm
  refine ⟨_, shown, hshown, hmessage.trans hartifacts, ?_⟩
  rw [arrivalErrands, ← List.singleton_append, settle_append, settle_append]

/-- A reply is concluded: the operation ends, once the number of a new conversation is saved. -/
theorem makes_conclude (h : Engaged p a n st) (adopted : Option Int) (k : Nat) :
    Makes (pumpStages ports.recorded n (k + 2) (a.settle [.act (.conclude n g adopted)]))
      fun b made => made = [] ∧ Ended p a b n (.sent .delivered) := by
  rw [settle_act]
  cases adopted with
  | none =>
    have hended := h.ended (.sent .delivered)
    simp only [perform, settle_nil]
    exact makes_of_tasks_eq_nil hended.tasks ⟨rfl, hended⟩ _
  | some id =>
    simp only [perform, settle_nil]
    have hsaving := fun y => (h.note y).setStage (.wantSave g ⟨some id⟩ (.sent .delivered))
    refine Makes.mono (makes_wantSave (hsaving _) k) fun b made hb => ?_
    exact ⟨hb.1, hb.2.trans rfl (spoken_note a _)⟩

/-- **A reply that is taken in** is published and printed, and the operation ends with a delivery. -/
theorem makes_arrivalErrands {t : Transcript} (h : Engaged p a n .publishing)
    (hphase : a.pipeline.phase = .idle) (g : Nat) {arrival : Pipeline.Arrival}
    (adopted : Option Int) (hrole : arrival.message.role = .agent)
    (htranscript : a.pipeline.transcript = t.push arrival.message) (k : Nat) :
    Makes (pumpStages ports.recorded n (k + 2) (a.settle (arrivalErrands n g arrival adopted)))
      fun b made => made = [] ∧ Rested p b ∧ Answered t (spoken a) b (outcomeOf? b n) := by
  obtain ⟨c, shown, hshown, hshows, hsettle⟩ :=
    settle_arrivalErrands h.toIsStaffed n g arrival adopted
  rw [hsettle]
  refine (makes_conclude (hshows.engaged h) adopted k).mono fun d made hd => ?_
  obtain ⟨rfl, hd⟩ := hd
  have hpipeline : d.pipeline = a.pipeline := hd.pipeline.trans hshows.pipeline
  refine ⟨rfl, ⟨hd.toIsStaffed, hd.saving, hd.tasks, by rw [hpipeline, hphase]⟩,
    .delivered arrival.message shown hrole hshown ?_ hd.outcome ?_⟩
  · rw [hpipeline, htranscript]
  · rw [hd.spoken, hshows.spoken]

/-- **A question that is to be put to the server is put, once, and answered.** -/
theorem makes_posing (hports : ports.IsPrompt) {q : Question}
    (h : Engaged p a n (.posing q a.pipeline.generation)) (k : Nat) :
    Makes (pumpStages ports.recorded n (k + 4) a) fun b made =>
      made = [.send q] ∧ Rested p b ∧
        Answered a.pipeline.transcript (spoken a) b (outcomeOf? b n) := by
  -- the question is put
  obtain ⟨b, hb⟩ : ∃ b, b = a.advance n := ⟨_, rfl⟩
  have hpose : b = a.pose n q a.pipeline.generation := by
    rw [hb]
    simp only [advance, stage?_of_tasks h.tasks]
  have hpipeline : b.pipeline = { a.pipeline with phase := b.pipeline.phase } := by
    rw [hpose]
    exact a.pipeline.pose_eq _
  have hasking : Engaged p b n (.awaitReply a.calls q a.pipeline.generation) := by
    rw [hpose]
    refine ⟨⟨h.profile, h.registry, h.observers, ?_⟩, h.saving, tasks_setStage h.tasks _⟩
    rw [← hpose, hpipeline]
    exact h.alive
  have hspoken : spoken b = spoken a := by
    rw [hpose]
    exact spoken_ask _ _ _ _
  rw [pumpStages_of_isReady _ (stage?_of_tasks h.tasks) rfl, ← hb]
  rw [pumpStages, stage?_of_tasks hasking.tasks]
  refine makes_putCall hports fun r xs hfits => ?_
  -- the answer comes
  obtain ⟨r, rfl⟩ : ∃ r', r = .reply r' := by
    cases r with
    | reply r => exact ⟨r, rfl⟩
    | entries | summaries => exact hfits.elim
  have hnotes := (Shows.refl b).notes xs
  have hwaiting := hnotes.engaged hasking
  have hgeneration : (b.notes xs).pipeline.generation = a.pipeline.generation := by
    rw [hnotes.pipeline, hpipeline]
  have htranscript : (b.notes xs).pipeline.transcript = a.pipeline.transcript := by
    rw [hnotes.pipeline, hpipeline]
  rw [← turn_answer, turn]
  obtain ⟨hstale, -⟩ | ⟨-, x, y, supply, hfailed⟩ |
    ⟨-, reply, arrival, adopted, supply, -, -, hrole, -, harrived⟩ :=
      enter_reply (stage?_of_tasks hwaiting.tasks) r
  · rw [Pipeline.isStale_eq_false.mpr ⟨hwaiting.alive, hgeneration⟩] at hstale
    cases hstale
  · rw [hfailed, settle_nil]
    refine makes_of_tasks_eq_nil ?_ ⟨rfl, ?_, ?_⟩ _
    · exact tasks_endTask hwaiting.tasks (.sent (.failed x.kind))
    · exact ⟨⟨hwaiting.profile, hwaiting.registry, hwaiting.observers, hwaiting.alive⟩,
        hwaiting.saving, tasks_endTask hwaiting.tasks (.sent (.failed x.kind)), rfl⟩
    · refine .failed x.kind x htranscript rfl rfl (outcomeOf?_endTask _ _ _) ?_
      rw [spoken_endTask, spoken_note, ← hspoken]
      exact hnotes.spoken.trans (List.append_nil _)
  · rw [harrived]
    obtain ⟨z, hz⟩ : ∃ z : App, z = ({ b.notes xs with
        pipeline := { (b.notes xs).pipeline with
          phase := .idle
          transcript := (b.notes xs).pipeline.transcript.push arrival.message
          conversation := adopted.or (b.notes xs).pipeline.conversation }
        supply } : App).setStage n .publishing := ⟨_, rfl⟩
    have hengaged : Engaged p z n .publishing := by
      rw [hz]
      exact ⟨⟨hwaiting.profile, hwaiting.registry, hwaiting.observers, hwaiting.alive⟩,
        hwaiting.saving, tasks_setStage hwaiting.tasks _⟩
    have hz' : spoken z = spoken a := by
      rw [hz, spoken_setStage, ← hspoken]
      exact hnotes.spoken.trans (List.append_nil _)
    rw [← hz]
    refine (makes_arrivalErrands hengaged (hz ▸ rfl) _ adopted hrole (t := a.pipeline.transcript)
      (by rw [hz, ← htranscript]; rfl) k).mono fun d made hd => ?_
    obtain ⟨rfl, hrested, hanswered⟩ := hd
    exact ⟨rfl, hrested, hz' ▸ hanswered⟩

/-! ### Operations -/

/-- An operation is a task, and it runs to its end. -/
theorem makes_operate {P : App × Option Outcome → List Call → Prop} {x : Operation}
    (h : Makes (pumpStages ports.recorded a.nextTask 6 (a.addTask (.start x))) fun b made =>
      P (b, outcomeOf? b a.nextTask) made) : Makes (operate ports.recorded a x) P := by
  have hcall : Makes (a.call ports.recorded x) fun v made => P (v.1, outcomeOf? v.1 v.2) made := by
    refine h.bind fun b made hb => .pure ?_
    rwa [List.append_nil]
  refine hcall.bind fun v made hv => .pure ?_
  rwa [List.append_nil]

/-- An operation is called where nothing is under way. -/
theorem Rested.engaged (h : Rested p a) (x : Operation) :
    Engaged p (a.addTask (.start x)) a.nextTask (.start x) :=
  ⟨⟨h.profile, h.registry, h.observers, h.alive⟩, h.saving, congrArg (· ++ _) h.tasks⟩

/-- **A message that is sent is asked, and answered.** -/
theorem makes_send (hports : ports.IsPrompt) (h : Rested p a) {text : String}
    (htext : Text.isBlankText text = false) :
    Makes (operate ports.recorded a (.send text)) fun v made => ∃ x : Message, x.role = .user ∧
      x.content = text ∧ made = [.send (a.questionOf x)] ∧ Rested p v.1 ∧
        Answered (a.pipeline.transcript.push x) (spoken a) v.1 v.2 := by
  have hstart := h.engaged (.send text)
  refine makes_operate ?_
  rw [pumpStages_of_isReady _ (stage?_of_tasks hstart.tasks) rfl]
  obtain ⟨hrefused, -⟩ | ⟨-, x, supply, hrole, hcontent, hadvance⟩ :=
    advance_send (stage?_of_tasks hstart.tasks)
  · rcases hrefused with hblank | hbusy
    · rw [htext] at hblank
      cases hblank
    · exact absurd h.phase hbusy
  · have hposing : Engaged p ((a.addTask (.start (.send text))).advance a.nextTask) a.nextTask
        (.posing (a.questionOf x) a.pipeline.generation) := by
      rw [hadvance]
      exact ⟨⟨h.profile, h.registry, h.observers, h.alive⟩, h.saving, tasks_setStage hstart.tasks _⟩
    rw [hadvance] at hposing ⊢
    refine Makes.mono (makes_posing hports hposing 1) fun b made hb => ?_
    exact ⟨x, hrole, hcontent, hb⟩

/-- **A question that failed is asked again, and answered**; if there is none nothing happens. -/
theorem makes_retry (hports : ports.IsPrompt) (h : Rested p a) :
    Makes (operate ports.recorded a .retry) fun v made => Rested p v.1 ∧ (made = [] ∨
      ∃ x : Message, x.role = .user ∧ a.pipeline.transcript.last? = some x ∧
        made = [.send (a.questionOf x)] ∧
        Answered a.pipeline.transcript (spoken a) v.1 v.2) := by
  have hstart := h.engaged .retry
  refine makes_operate ?_
  rw [pumpStages_of_isReady _ (stage?_of_tasks hstart.tasks) rfl]
  obtain ⟨-, hadvance⟩ | ⟨-, x, hrole, hlast, hadvance⟩ :=
    advance_retry (stage?_of_tasks hstart.tasks)
  · have hended := fun y => (hstart.note y).ended (.sent .ignored)
    rw [hadvance]
    refine makes_of_tasks_eq_nil (hended _).tasks ⟨?_, .inl rfl⟩ _
    exact ⟨(hended _).toIsStaffed, (hended _).saving, (hended _).tasks, h.phase⟩
  · have hposing : Engaged p ((a.addTask (.start .retry)).advance a.nextTask) a.nextTask
        (.posing (a.questionOf x) a.pipeline.generation) := by
      rw [hadvance]
      exact ⟨⟨h.profile, h.registry, h.observers, h.alive⟩, h.saving, tasks_setStage hstart.tasks _⟩
    rw [hadvance] at hposing ⊢
    refine Makes.mono (makes_posing hports hposing 1) fun b made hb => ?_
    obtain ⟨hmade, hrested, hanswered⟩ := hb
    refine ⟨hrested, .inr ⟨x, hrole, hlast, hmade, ?_⟩⟩
    rwa [spoken_setStage, spoken_note] at hanswered

/-- **A conversation is loaded**: its entries are asked for, and whatever comes, nothing is under way
after it. -/
theorem makes_startLoad (hports : ports.IsPrompt) (h : Engaged p a n st) (id : Int)
    (errand : Errand) (k : Nat) :
    Makes (pumpStages ports.recorded n (k + 3) (a.startLoad n id errand)) fun b made =>
      made = [.entries id] ∧ Rested p b := by
  obtain ⟨b, hb⟩ : ∃ b, b = a.startLoad n id errand := ⟨_, rfl⟩
  have hasking : Engaged p b n (.awaitEntries a.calls id b.pipeline.generation errand) := by
    rw [hb]
    exact ⟨⟨h.profile, h.registry, h.observers, h.alive⟩, h.saving, tasks_setStage h.tasks _⟩
  rw [← hb, pumpStages, stage?_of_tasks hasking.tasks]
  refine makes_putCall hports fun r xs hfits => ?_
  obtain ⟨r, rfl⟩ : ∃ r', r = .entries r' := by
    cases r with
    | entries r => exact ⟨r, rfl⟩
    | reply | summaries => exact hfits.elim
  have hnotes := (Shows.refl b).notes xs
  have hwaiting := hnotes.engaged hasking
  rw [← turn_answer, turn]
  obtain ⟨hstale, -⟩ | ⟨-, f, ys, -, hfailed⟩ | ⟨-, entries, y, -, harrived⟩ :=
    enter_entries (stage?_of_tasks hwaiting.tasks) r
  · rw [Pipeline.isStale_eq_false.mpr
      ⟨hwaiting.alive, congrArg Pipeline.generation hnotes.pipeline⟩] at hstale
    cases hstale
  · rw [hfailed, settle_nil]
    obtain ⟨z, hz⟩ : ∃ z : App, z = { b.notes xs with pipeline := { (b.notes xs).pipeline with
        phase := .idle, banner := some (Banner.ofLoad f) } } := ⟨_, rfl⟩
    have hengaged : Engaged p z n (.awaitEntries a.calls id b.pipeline.generation errand) := by
      rw [hz]
      exact ⟨⟨hwaiting.profile, hwaiting.registry, hwaiting.observers, hwaiting.alive⟩,
        hwaiting.saving, hwaiting.tasks⟩
    have hnoted := (Shows.refl z).notes ys
    have hended := (hnoted.engaged hengaged).ended (loadOutcome id (.error f) errand)
    rw [← hz]
    refine makes_of_tasks_eq_nil hended.tasks
      ⟨rfl, hended.toIsStaffed, hended.saving, hended.tasks, ?_⟩ _
    rw [hended.pipeline, hnoted.pipeline, hz]
  · rw [harrived, settle_nil]
    refine Makes.mono (makes_wantSave (p := p) (g := b.pipeline.generation) (x := ⟨some id⟩)
      (o := loadOutcome id (.ok ()) errand) ?_ k) fun c made hc => ?_
    · exact ⟨⟨hwaiting.profile, hwaiting.registry, hwaiting.observers, hwaiting.alive⟩,
        hwaiting.saving, tasks_setStage hwaiting.tasks _⟩
    · obtain ⟨rfl, hended⟩ := hc
      exact ⟨rfl, hended.toIsStaffed, hended.saving, hended.tasks, by rw [hended.pipeline]; rfl⟩

theorem makes_load (hports : ports.IsPrompt) (h : Rested p a) (id : Int) :
    Makes (operate ports.recorded a (.load id)) fun v made =>
      made = [.entries id] ∧ Rested p v.1 := by
  have hstart := h.engaged (.load id)
  refine makes_operate ?_
  rw [pumpStages_of_isReady _ (stage?_of_tasks hstart.tasks) rfl]
  have hadvance : (a.addTask (.start (.load id))).advance a.nextTask =
      (a.addTask (.start (.load id))).startLoad a.nextTask id .load := by
    simp only [advance, stage?_of_tasks hstart.tasks, begin]
  rw [hadvance]
  exact makes_startLoad hports hstart id .load 2

/-- **The conversation of the last session is loaded**, if one was saved. -/
theorem makes_restore (hports : ports.IsPrompt) (h : Rested p a) :
    Makes (operate ports.recorded a .restore) fun v made =>
      (made = [] ∨ ∃ id, made = [.entries id]) ∧ Rested p v.1 := by
  have hstart := h.engaged .restore
  have hadvance : (a.addTask (.start .restore)).advance a.nextTask =
      (a.addTask (.start .restore)).setStage a.nextTask .awaitSession := by
    simp only [advance, stage?_of_tasks hstart.tasks, begin]
  have hreading := hstart.setStage .awaitSession
  refine makes_operate ?_
  rw [pumpStages_of_isReady _ (stage?_of_tasks hstart.tasks) rfl, hadvance,
    pumpStages_awaitSession _ (stage?_of_tasks hreading.tasks)]
  refine Makes.bind_of_quiet (P := fun _ => True) (.writing fun _ => ⟨rfl, trivial⟩) fun v _ => ?_
  obtain ⟨r, xs⟩ := v
  have hnotes := (Shows.refl ((a.addTask (.start .restore)).setStage a.nextTask
    .awaitSession)).notes xs
  have hgiven := hnotes.engaged hreading
  simp only [giveSession, stage?_of_tasks hgiven.tasks]
  have hover : ∀ b o, Engaged p b a.nextTask .awaitSession → b.pipeline.phase = .idle →
      Rested p (b.endTask a.nextTask o) := by
    intro b o hb hphase
    have hended := hb.ended o
    exact ⟨hended.toIsStaffed, hended.saving, hended.tasks, hphase⟩
  have hphase := (congrArg Pipeline.phase hnotes.pipeline).trans h.phase
  cases r with
  | error f =>
    exact makes_of_tasks_eq_nil (tasks_endTask (hgiven.note _).tasks _)
      ⟨.inl rfl, hover _ _ (hgiven.note _) hphase⟩ _
  | ok saved =>
    obtain ⟨_ | id⟩ := saved
    · exact makes_of_tasks_eq_nil (tasks_endTask hgiven.tasks _) ⟨.inl rfl, hover _ _ hgiven hphase⟩ _
    · refine Makes.mono (makes_startLoad hports hgiven id .restore 1) fun b made hb => ?_
      exact ⟨.inr ⟨id, hb.1⟩, hb.2⟩

/-- **The conversations are listed.** -/
theorem makes_list (hports : ports.IsPrompt) (h : Rested p a) :
    Makes (operate ports.recorded a .list) fun v made =>
      made = [.summaries p.userId p.historyLimit] ∧ Rested p v.1 := by
  have hstart := h.engaged .list
  obtain ⟨b, hb⟩ : ∃ b, b = (a.addTask (.start .list)).advance a.nextTask := ⟨_, rfl⟩
  have hask : b = (a.addTask (.start .list)).ask a.nextTask
      (.summaries a.profile.userId a.profile.historyLimit) .awaitSummaries := by
    rw [hb]
    simp only [advance, stage?_of_tasks hstart.tasks, begin]
    rfl
  have hasking : Engaged p b a.nextTask (.awaitSummaries a.calls) := by
    rw [hask]
    exact ⟨⟨h.profile, h.registry, h.observers, h.alive⟩, h.saving, tasks_setStage hstart.tasks _⟩
  have hphase : b.pipeline.phase = .idle := by
    rw [hask]
    exact h.phase
  refine makes_operate ?_
  rw [pumpStages_of_isReady _ (stage?_of_tasks hstart.tasks) rfl, ← hb, pumpStages,
    stage?_of_tasks hasking.tasks]
  refine makes_putCall hports fun r xs hfits => ?_
  obtain ⟨r, rfl⟩ : ∃ r', r = .summaries r' := by
    cases r with
    | summaries r => exact ⟨r, rfl⟩
    | reply | entries => exact hfits.elim
  have hnotes := (Shows.refl b).notes xs
  have hended := (hnotes.engaged hasking).ended (.listed r)
  simp only [answer, takeAnswer, stage?_of_tasks (hnotes.engaged hasking).tasks, settle_nil]
  refine makes_of_tasks_eq_nil hended.tasks ⟨by rw [hasking.profile],
    hended.toIsStaffed, hended.saving, hended.tasks, ?_⟩ _
  exact (congrArg Pipeline.phase hnotes.pipeline).trans hphase

end Shell

end Parley
