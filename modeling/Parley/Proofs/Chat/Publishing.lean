import Parley.Proofs.Chat.Ending

/-!
# Every reply is published once

A task takes in one reply at most (`Parley.App.Leads.nodup_replied`), and what it publishes it
publishes in the turn in which it takes the reply in: the reply's message, which is the last of the
transcript by then, and when everything is done that the message leads to, the reply's artifacts
(`Parley.App.publishes_arrivalErrands`). All its other turns are silent, and so are the tasks that
never take in a reply (`Parley.App.voice_of_not_replied`). So along a run, which takes one turn
after the other and does all that a turn leads to before the next, the messages that are published
are those that were appended for replies, in the same order (`Parley.App.run_publishes`).

What listeners do is left open. They may publish on their own account, and start everything anew
while a message is on its way; what the tasks publish is the same.
-/

namespace Parley

open Json (Value)

/-! ### The artifacts of a reply -/

/-- A value is an object, with whatever fields. -/
def Json.Value.isObject : Value → Bool
  | .object _ => true
  | _ => false

/-- The entries of a reply's artifacts that are objects. -/
def Reply.objects (r : Reply) : List Value :=
  match r.artifacts with
  | some (.array entries) => entries.filter Value.isObject
  | _ => []

namespace Artifact

/-- An artifact draws at most its tag. -/
theorem supply_ofWire? (v : Value) (s : Supply) :
    ∃ k, (ofWire? v s).2 = { s with tag := k } := by
  unfold ofWire?
  split
  · dsimp only
    split
    · exact ⟨s.tag, rfl⟩
    · exact ⟨s.tag + 1, rfl⟩
  · exact ⟨s.tag, rfl⟩

/-- An entry brings an artifact exactly if it is an object. -/
theorem isSome_ofWire? (v : Value) (s : Supply) : (ofWire? v s).1.isSome = v.isObject := by
  cases v <;> rfl

/-- **There is one artifact for every object**, in their order: the object's own, of the time the
clock shows, but for the name that one without an identifier is given. -/
theorem forall₂_ofWireAll (vs : List Value) (s : Supply) :
    List.Forall₂ (fun v x => ∃ s', s'.now = s.now ∧ (ofWire? v s').1 = some x)
      (vs.filter Value.isObject) (ofWireAll vs s).1 := by
  suffices h : ∀ s', s'.now = s.now →
      List.Forall₂ (fun v x => ∃ s', s'.now = s.now ∧ (ofWire? v s').1 = some x)
        (vs.filter Value.isObject) (ofWireAll vs s').1 from h s rfl
  induction vs with
  | nil => exact fun _ _ => .nil
  | cons v vs ih =>
    intro s' hs'
    obtain ⟨k, hk⟩ := supply_ofWire? v s'
    have hrest := ih (ofWire? v s').2 (hk ▸ hs')
    have hall : (ofWireAll (v :: vs) s').1 =
        (ofWire? v s').1.toList ++ (ofWireAll vs (ofWire? v s').2).1 := rfl
    have hobject := isSome_ofWire? v s'
    rw [hall]
    cases hx : (ofWire? v s').1 with
    | none =>
      rw [hx] at hobject
      rw [List.filter_cons_of_neg (by simp [← hobject])]
      exact hrest
    | some x =>
      rw [hx] at hobject
      rw [List.filter_cons_of_pos hobject.symm]
      exact .cons ⟨s', hs', hx⟩ hrest

end Artifact

theorem Reply.forall₂_artifactList (r : Reply) (s : Supply) :
    List.Forall₂ (fun v x => ∃ s', s'.now = s.now ∧ (Artifact.ofWire? v s').1 = some x)
      r.objects (r.artifactList s).1 := by
  unfold artifactList objects
  cases r.artifacts with
  | none => exact .nil
  | some v =>
    cases v with
    | array entries => exact Artifact.forall₂_ofWireAll entries s
    | _ => exact .nil

/-- The artifacts that a reply brings are those of its objects. -/
theorem Pipeline.artifacts_of_interpret {r : Reply} {s s' : Supply} {arrival : Arrival}
    (h : interpret r s = (.ok arrival, s')) :
    List.Forall₂ (fun v x => ∃ s', s'.now = s.now ∧ (Artifact.ofWire? v s').1 = some x)
      r.objects arrival.artifacts := by
  unfold interpret at h
  split at h
  · have hartifacts : arrival.artifacts =
        (r.artifactList { s with serial := s.serial + 1 }).1 := by
      cases h
      rfl
    rw [hartifacts]
    exact r.forall₂_artifactList { s with serial := s.serial + 1 }
  · split at h <;> cases h

namespace App

/-! ### What is published -/

/-- What is published while things are done one after the other, each event with the app that
publishes it. -/
def publishes (a : App) : Errands → List (App × Event)
  | [] => []
  | w :: ws =>
    match w with
    | .publish e => (a, e) :: publishes (a.settle [w]) ws
    | _ => publishes (a.settle [w]) ws

/-- The moments at which turns are taken, one after the other. -/
def moments (a : App) : List Turn → List Moment
  | [] => []
  | t :: ts => ⟨a, .turn t, (a.enter t).1⟩ :: (a.turn t).moments ts

end App

/-- What is published when a task has its turn, by nobody else than the task. -/
def Moment.voice (m : Moment) : List (App × Event) :=
  match m.happening with
  | .turn t => if t.task?.isSome then m.after.publishes (m.before.enter t).2 else []
  | .errand _ => []

/-- A reply is taken in: its message is appended, and published; once everything is done that the
message leads to its artifacts are published, if it has any. -/
structure Moment.Announces (m : Moment) (n : Nat) (reply : Reply) (z : Message)
    (as : List Artifact) : Prop where
  answered : m.happening = .turn (.answer n (.reply (.ok reply)))
  role : z.role = .agent
  idle : m.after.pipeline.phase = .idle
  appended : m.after.pipeline.transcript = m.before.pipeline.transcript.push z
  artifacts : List.Forall₂ (fun v x => ∃ s, s.now = m.before.supply.now ∧
    (Artifact.ofWire? v s).1 = some x) reply.objects as
  voice : ∃ note : Note, m.voice = (m.after, ⟨App.chatSource, .messageReceived z⟩) ::
    if as = [] then []
    else [((m.after.settle [.publish ⟨App.chatSource, .messageReceived z⟩]).note note,
      ⟨App.chatSource, .artifactsReceived as⟩)]

/-- The message that is appended when a reply is taken in. -/
def Moment.reply? (m : Moment) : Option Message :=
  m.replied?.bind fun _ => m.after.pipeline.transcript.last?

/-- The message that is published. -/
def Event.message? (e : Event) : Option Message :=
  match e.signal with
  | .messageReceived z => some z
  | _ => none

namespace Moment

variable {m : Moment} {n : Nat} {q : Question} {reply : Reply} {z : Message} {as : List Artifact}

/-- The message is the last one when it is published. -/
theorem Announces.last? (ha : m.Announces n reply z as) :
    m.after.pipeline.transcript.last? = some z := by
  rw [ha.appended]
  exact List.getLast?_concat

/-- It is the only one that is published. -/
theorem Announces.filterMap_voice (ha : m.Announces n reply z as) :
    m.voice.filterMap (·.2.message?) = [z] := by
  obtain ⟨note, hvoice⟩ := ha.voice
  rw [hvoice]
  split <;> rfl

/-- A reply is taken in by a turn. -/
theorem isSome_turn?_of_replied (h : m.replied? = some (n, q)) :
    m.happening.turn?.isSome = true := by
  obtain ⟨call, g, hpassage⟩ := replied?_eq_some.mp h
  cases hx : m.happening with
  | turn t => rfl
  | errand w => cases (passage?_errand hx).symm.trans hpassage

end Moment

namespace App

variable {a₀ a b : App} {n : Nat} {q : Question} {us vs ws : Errands} {d d' : App × Errands}
  {ms during : Course} {m : Moment} {ts : List Turn}

/-! ### What a turn publishes -/

/-- **What a reply that is taken in publishes**: its message, and once everything is done that the
message leads to, its artifacts, if it has any. -/
theorem publishes_arrivalErrands (b : App) (n g : Nat) (arrival : Pipeline.Arrival)
    (adopted : Option Int) : ∃ note : Note, b.publishes (arrivalErrands n g arrival adopted) =
      (b, ⟨chatSource, .messageReceived arrival.message⟩) ::
        if arrival.artifacts = [] then []
        else [((b.settle [.publish ⟨chatSource, .messageReceived arrival.message⟩]).note note,
          ⟨chatSource, .artifactsReceived arrival.artifacts⟩)] := by
  refine ⟨⟨.info, "Reply produced " ++ Pipeline.numberText arrival.artifacts.length ++
    " artifact(s)"⟩, ?_⟩
  by_cases hnil : arrival.artifacts = []
  · rw [arrivalErrands, hnil]
    rfl
  · rw [arrivalErrands, if_neg hnil, if_neg (by simpa using hnil)]
    simp only [List.cons_append, List.nil_append, publishes, settle_note]

/-- **A task that takes in no reply publishes nothing.** -/
theorem voice_of_not_replied (a : App) (t : Turn)
    (h : Moment.replied? ⟨a, .turn t, (a.enter t).1⟩ = none) :
    Moment.voice ⟨a, .turn t, (a.enter t).1⟩ = [] := by
  cases htask : t.task? with
  | none => simp [Moment.voice, htask]
  | some n =>
    rcases enter_errands (a := a) htask with hnothing | ⟨call, q, g, hs, hs'⟩
    · simp [Moment.voice, hnothing, publishes]
    · cases h.symm.trans (Moment.replied?_eq_some.mpr
        ⟨call, g, Moment.passage?_turn htask hs hs'⟩)

/-- **A task that takes in a reply announces it.** -/
theorem announces_of_replied (hO : (a.affairs ws).Orderly) {t : Turn}
    (hreplied : Moment.replied? ⟨a, .turn t, (a.enter t).1⟩ = some (n, q)) :
    ∃ reply z as, Moment.Announces ⟨a, .turn t, (a.enter t).1⟩ n reply z as := by
  obtain ⟨call, g, hpassage⟩ := Moment.replied?_eq_some.mp hreplied
  obtain ⟨-, hs, hs'⟩ := Moment.passage?_eq_some.mp hpassage
  dsimp only at hs hs'
  have hx : Happens (.turn t) (a, ws) ((a.enter t).1, (a.enter t).2 ++ ws) := .turn t
  obtain ⟨r, ht, -⟩ := hx.answered_reply hO hs (hs' ▸ nofun)
  cases ht
  obtain ⟨-, h⟩ | ⟨-, banner, y, supply, h⟩ |
    ⟨-, reply, arrival, adopted, supply, rfl, hinterpret, hrole, -, h⟩ := enter_reply hs r
  · cases hs'.symm.trans (stage?_of_eq_endTask (congrArg Prod.fst h))
  · cases hs'.symm.trans (stage?_of_eq_endTask (congrArg Prod.fst h))
  · have hvoice : Moment.voice ⟨a, .turn (.answer n (.reply (.ok reply))),
        (a.enter (.answer n (.reply (.ok reply)))).1⟩ =
        (a.enter (.answer n (.reply (.ok reply)))).1.publishes
          (arrivalErrands n g arrival adopted) := by
      simp [Moment.voice, Turn.task?, h]
    refine ⟨reply, arrival.message, arrival.artifacts, rfl, hrole, ?_, ?_,
      Pipeline.artifacts_of_interpret hinterpret, ?_⟩
    · rw [h]
      rfl
    · rw [h]
      rfl
    · rw [hvoice]
      exact publishes_arrivalErrands _ n g arrival adopted

/-- **While nothing but deliveries happen**, the phase stays idle, and the messages stay unless
everything starts anew. -/
theorem Leads.delivering (hduring : Leads d during d')
    (hturns : ∀ m ∈ during, m.happening.turn? = none) (hidle : d.1.pipeline.phase = .idle) :
    d'.1.pipeline.phase = .idle ∧ (d'.1.pipeline.transcript = d.1.pipeline.transcript ∨
      ∃ m ∈ during, m.happening.resets = true) := by
  induction hduring with
  | start => exact ⟨hidle, .inl rfl⟩
  | @step during b c us vs x hl hx ih =>
    obtain ⟨hphase, hmessages⟩ := ih fun m hm => hturns m (List.mem_cons_of_mem _ hm)
    have hmessages : b.pipeline.transcript = d.1.pipeline.transcript ∨
        ∃ m ∈ (⟨b, x, c⟩ :: during : Course), m.happening.resets = true :=
      hmessages.imp_right fun ⟨m, hm, h⟩ => ⟨m, List.mem_cons_of_mem _ hm, h⟩
    cases hx with
    | turn t => cases hturns _ List.mem_cons_self
    | errand w =>
      dsimp only at hphase ⊢
      rw [pipeline_doing]
      split
      · rename_i hresets
        exact ⟨rfl, .inr ⟨_, List.mem_cons_self, hresets⟩⟩
      · split
        · exact ⟨hphase, hmessages⟩
        · split <;> exact ⟨hphase, hmessages⟩

/-- **What is published without a turn**: what a command publishes, and that the canvas was opened
or hidden. -/
theorem publish_of_doing {w : Work Listener Act} {e : Event} (h : .publish e ∈ (a.doing w).2) :
    (∃ who c, w = .act (.command who c)) ∨
      ∃ isOpen, e = ⟨canvasSource, .canvasStateChanged isOpen⟩ := by
  cases w with
  | publish e' =>
    rw [doing_publish] at h
    simp at h
  | deliver l e' =>
    rw [doing_deliver] at h
    obtain hnext | ⟨isOpen, hnext⟩ | ⟨n, cs, hnext⟩ := react_errands a l.listener e'
    · rw [hnext] at h
      cases h
    · rw [hnext] at h
      cases List.mem_singleton.mp h
      exact .inr ⟨isOpen, rfl⟩
    · rw [hnext] at h
      simp at h
  | act w =>
    cases w with
    | command who c => exact .inl ⟨who, c, rfl⟩
    | give | note => cases h
    | conclude n g adopted => cases adopted <;> cases h

/-! ### Runs -/

/-- A turn that is taken finds what the turns before have led to. -/
theorem mem_moments (hm : m ∈ a.moments ts) : ∃ us t vs, ts = us ++ t :: vs ∧
    m = ⟨a.run us, .turn t, ((a.run us).enter t).1⟩ := by
  induction ts generalizing a with
  | nil => cases hm
  | cons t ts ih =>
    rcases List.mem_cons.mp hm with rfl | hm
    · exact ⟨[], t, ts, rfl, rfl⟩
    · obtain ⟨us, t', vs, rfl, rfl⟩ := ih hm
      exact ⟨t :: us, t', vs, rfl, rfl⟩

/-- What is to be done later stays behind what is done before. -/
theorem Leads.behind (hl : Leads (a, us) ms (b, vs)) (ws : Errands) :
    Leads (a, us ++ ws) ms (b, vs ++ ws) := by
  generalize hd : (b, vs) = d at hl
  induction hl generalizing b vs with
  | start =>
    cases hd
    exact .start
  | step _ hx ih =>
    cases hd
    cases hx with
    | turn t =>
      rw [List.append_assoc]
      exact (ih rfl).step (.turn t)
    | errand w =>
      have hbefore := ih rfl
      rw [List.append_assoc, List.cons_append] at hbefore
      rw [List.append_assoc, List.append_assoc]
      exact hbefore.step (.errand w)

/-- **What is published while things are done is published in their course**, by the same app. -/
theorem exists_leads_publishes (a : App) (ws : Errands) : ∃ during,
    Leads (a, ws) during (a.settle ws, []) ∧ (∀ m ∈ during, m.happening.turn? = none) ∧
      ∀ y ∈ a.publishes ws,
        ∃ m ∈ during, m.before = y.1 ∧ m.happening = .errand (.publish y.2) := by
  induction ws generalizing a with
  | nil =>
    rw [settle_nil]
    exact ⟨[], .start, List.forall_mem_nil _, List.forall_mem_nil _⟩
  | cons w ws ih =>
    obtain ⟨later, hlater, hquiet', hpublishes⟩ := ih (a.settle [w])
    obtain ⟨during, hduring, hquiet⟩ := exists_leads_settle (a.doing w).1 (a.doing w).2
    have hfirst : a.settle [w] = (a.doing w).1.settle (a.doing w).2 := by
      rw [settle_cons, step_cons, List.append_nil]
    have hall : a.settle (w :: ws) = (a.settle [w]).settle ws := settle_append a [w] ws
    rw [hall]
    have hc := (Leads.start (c := (a, w :: ws))).errand.append (hduring.behind ws)
    rw [← hfirst, List.nil_append] at hc
    refine ⟨_, hc.append hlater, fun m hm => ?_, fun y hy => ?_⟩
    · rcases List.mem_append.mp hm with hm | hm
      · exact hquiet' m hm
      · rcases List.mem_append.mp hm with hm | hm
        · exact hquiet m hm
        · obtain rfl := List.mem_singleton.mp hm
          rfl
    · have hy : (∃ e, w = .publish e ∧ y = (a, e)) ∨ y ∈ (a.settle [w]).publishes ws := by
        cases w with
        | publish e => exact (List.mem_cons.mp hy).imp_left fun h => ⟨e, rfl, h⟩
        | deliver | act => exact .inr hy
      rcases hy with ⟨e, rfl, rfl⟩ | hy
      · exact ⟨⟨a, .errand (.publish e), (a.doing (.publish e)).1⟩, by simp, rfl, rfl⟩
      · obtain ⟨m, hm, h⟩ := hpublishes y hy
        exact ⟨m, List.mem_append_left _ hm, h⟩

/-- **A run has a course**, in which the turns are taken one after the other, and what is published
in a turn of a task is published right after it. -/
theorem exists_leads_run (a : App) (ts : List Turn) : ∃ ms, Leads (a, []) ms (a.run ts, []) ∧
    ms.filter (·.happening.turn?.isSome) = (a.moments ts).reverse ∧
    ∀ m ∈ a.moments ts, ∀ y ∈ m.voice,
      ∃ m' ∈ ms, m'.before = y.1 ∧ m'.happening = .errand (.publish y.2) := by
  induction ts generalizing a with
  | nil => exact ⟨[], .start, rfl, List.forall_mem_nil _⟩
  | cons t ts ih =>
    obtain ⟨later, hlater, hturns, hvoice⟩ := ih (a.turn t)
    obtain ⟨during, hduring, herrands, hpublishes⟩ :=
      exists_leads_publishes (a.enter t).1 (a.enter t).2
    have hx : Happens (.turn t) (a, []) ((a.enter t).1, (a.enter t).2 ++ []) := .turn t
    rw [List.append_nil] at hx
    refine ⟨later ++ (during ++ [⟨a, .turn t, (a.enter t).1⟩]),
      ((Leads.start.step hx).append hduring).append hlater, ?_, fun m hm y hy => ?_⟩
    · have hnone : during.filter (·.happening.turn?.isSome) = [] :=
        List.filter_eq_nil_iff.mpr fun m hm => by rw [herrands m hm]; simp
      rw [List.filter_append, List.filter_append, hturns, hnone, moments, List.reverse_cons]
      rfl
    · rcases List.mem_cons.mp hm with rfl | hm
      · have hy : y ∈ (a.enter t).1.publishes (a.enter t).2 := by
          simp only [Moment.voice] at hy
          split at hy
          · exact hy
          · cases hy
        obtain ⟨m, hm, h⟩ := hpublishes y hy
        exact ⟨m, by simp [hm], h⟩
      · obtain ⟨m', hm', h⟩ := hvoice m hm y hy
        exact ⟨m', List.mem_append_left _ hm', h⟩

/-- **A task takes in one reply at most.** -/
theorem Leads.nodup_replied (hfresh : a₀.IsFresh) (hc : Leads (a₀, []) ms d) :
    (ms.filterMap fun m => m.replied?.map (·.1)).Nodup := by
  induction hc with
  | start => exact .nil
  | @step ms a b ws vs x hc hx ih =>
    cases hreplied : Moment.replied? ⟨a, x, b⟩ with
    | none => simpa [List.filterMap_cons, hreplied] using ih
    | some y =>
      obtain ⟨n, q⟩ := y
      obtain ⟨call, g, hpassage⟩ := Moment.replied?_eq_some.mp hreplied
      obtain ⟨-, hs, -⟩ := Moment.passage?_eq_some.mp hpassage
      have hs : a.stage? n = some (.awaitReply call q g) := hs
      have hfirst : n ∉ ms.filterMap fun m => m.replied?.map (·.1) := by
        intro hmem
        obtain ⟨m, hm, hn⟩ := List.mem_filterMap.mp hmem
        obtain ⟨⟨n', q'⟩, hreplied', rfl⟩ := Option.map_eq_some_iff.mp hn
        cases (hc.delivered_iff hfresh hs).mpr ⟨m, hm, q', hreplied'⟩
      rw [List.filterMap_cons]
      simp only [hreplied, Option.map_some]
      exact List.nodup_cons.mpr ⟨hfirst, ih⟩

/-- **Every reply is published once.** Turns are taken one after the other, each with all that it
leads to; who listens to what, and what the listeners do, is left open.

* The messages that tasks publish are the messages that were appended for replies, in order. They
  are published in the course of the run, as is all that is published in a task's turn.
* A turn in which no reply is taken in publishes nothing. One that takes in a reply publishes its
  message, and once everything is done that the message leads to, the artifacts of the reply's
  objects, in order, all at once, exactly if there are any. Whoever is handed the message finds the
  phase idle, and the message the last one unless everything has started anew by then.
* No task takes in two replies, and those that take in one are those that end with a delivery.
* Whatever else is published comes from a command, or is that the canvas was opened or hidden. -/
theorem run_publishes (hfresh : a₀.IsFresh) (ts : List Turn) :
    ((a₀.moments ts).flatMap Moment.voice).filterMap (·.2.message?) =
        (a₀.moments ts).filterMap Moment.reply? ∧
      (∀ m ∈ a₀.moments ts,
        (m.replied? = none → m.voice = []) ∧
        ∀ n q, m.replied? = some (n, q) → ∃ reply z as, m.Announces n reply z as ∧
          (as = [] ↔ reply.objects = []) ∧
          ∀ during d, Leads (m.after, [.publish ⟨chatSource, .messageReceived z⟩]) during d →
            (∀ m' ∈ during, m'.happening.turn? = none) →
            d.1.pipeline.phase = .idle ∧ (d.1.pipeline.transcript.last? = some z ∨
              ∃ m' ∈ during, m'.happening.resets = true)) ∧
      ((a₀.moments ts).filterMap fun m => m.replied?.map (·.1)).Nodup ∧
      ∃ ms, Leads (a₀, []) ms (a₀.run ts, []) ∧
        ms.filter (·.happening.turn?.isSome) = (a₀.moments ts).reverse ∧
        (∀ m ∈ a₀.moments ts, ∀ y ∈ m.voice,
          ∃ m' ∈ ms, m'.before = y.1 ∧ m'.happening = .errand (.publish y.2)) ∧
        ∀ m ∈ ms,
          (∀ n o, m.Ends n o →
            (o = .sent .delivered ↔ ∃ m' ∈ a₀.moments ts, ∃ q, m'.replied? = some (n, q))) ∧
          ∀ w e, m.happening = .errand w → .publish e ∈ (m.before.doing w).2 →
            (∃ who c, w = .act (.command who c)) ∨
              ∃ isOpen, e = ⟨canvasSource, .canvasStateChanged isOpen⟩ := by
  have hmoments : ∀ m ∈ a₀.moments ts,
      (m.replied? = none → m.voice = []) ∧
      ∀ n q, m.replied? = some (n, q) → ∃ reply z as, m.Announces n reply z as := by
    intro m hm
    obtain ⟨us, t, vs, -, rfl⟩ := mem_moments hm
    refine ⟨voice_of_not_replied _ t, fun n q hreplied => ?_⟩
    exact announces_of_replied ((reached_run a₀ us).orderly hfresh) hreplied
  obtain ⟨ms, hc, hturns, hpublished⟩ := exists_leads_run a₀ ts
  refine ⟨?_, fun m hm => ⟨(hmoments m hm).1, fun n q hreplied => ?_⟩, ?_,
    ms, hc, hturns, hpublished, fun m hm => ⟨fun n o hends => ?_, ?_⟩⟩
  · rw [List.filterMap_flatMap, List.filterMap_eq_flatMap_toList]
    refine List.flatMap_congr fun m hm => ?_
    cases hreplied : m.replied? with
    | none => simp [(hmoments m hm).1 hreplied, Moment.reply?, hreplied]
    | some y =>
      obtain ⟨reply, z, as, ha⟩ := (hmoments m hm).2 y.1 y.2 hreplied
      rw [ha.filterMap_voice, Moment.reply?, hreplied, Option.bind_some, ha.last?]
      rfl
  · obtain ⟨reply, z, as, ha⟩ := (hmoments m hm).2 n q hreplied
    refine ⟨reply, z, as, ha, ?_, fun during d hduring herrands => ?_⟩
    · rw [← List.length_eq_zero_iff, ← List.length_eq_zero_iff, ha.artifacts.length_eq]
    · obtain ⟨hphase, hmessages⟩ := hduring.delivering herrands ha.idle
      exact ⟨hphase, hmessages.imp_left fun h => (congrArg _ h).trans ha.last?⟩
  · have hnodup := (hc.nodup_replied hfresh).sublist
      (List.Sublist.filterMap _ (List.filter_sublist (p := (·.happening.turn?.isSome))))
    rw [hturns, List.filterMap_reverse] at hnodup
    exact List.nodup_reverse.mp hnodup
  · refine (hc.ends_delivered_iff hfresh hm hends).trans
      ⟨fun ⟨m', hm', q, hreplied⟩ => ⟨m', ?_, q, hreplied⟩,
        fun ⟨m', hm', q, hreplied⟩ => ⟨m', ?_, q, hreplied⟩⟩
    · rw [← List.mem_reverse, ← hturns]
      exact List.mem_filter.mpr ⟨hm', Moment.isSome_turn?_of_replied hreplied⟩
    · rw [← List.mem_reverse, ← hturns] at hm'
      exact List.mem_of_mem_filter hm'
  · rintro w e - he
    exact publish_of_doing he

/-- A reply with a message and two entries, of which one is an artifact: what its run publishes is
the message and the artifact. -/
theorem run_publishes_of_reply :
    let reply : Reply := {
      message := some (.string "x")
      artifacts := some (.array [.string "none", .object [("id", .string "a")]]) }
    let ts : List Turn :=
      [.call (.send "hi"), .advance 0, .advance 0, .answer 0 (.reply (.ok reply))]
    ∃ z x, (((blank.mount "").moments ts).flatMap Moment.voice).map (·.2) =
      [⟨chatSource, .messageReceived z⟩, ⟨chatSource, .artifactsReceived [x]⟩] := by
  intro reply ts
  obtain ⟨-, hmoments, -⟩ := run_publishes (isFresh_blank.mount "") ts
  let a := (blank.mount "").run [.call (.send "hi"), .advance 0, .advance 0]
  let m : Moment := ⟨a, .turn (.answer 0 (.reply (.ok reply))),
    (a.enter (.answer 0 (.reply (.ok reply)))).1⟩
  have hlast : ((blank.mount "").moments ts).flatMap Moment.voice = [] ++ (m.voice ++ []) := rfl
  have hm : m ∈ (blank.mount "").moments ts := by
    simp only [ts, moments, List.mem_cons]
    exact .inr (.inr (.inr (.inl rfl)))
  obtain ⟨reply', z, as, ha, -⟩ := (hmoments m hm).2 0 ⟨"hi", none, none⟩ rfl
  obtain ⟨note, hvoice⟩ := ha.voice
  cases ha.answered
  have hlength : 1 = as.length := ha.artifacts.length_eq
  obtain ⟨x, rfl⟩ := List.length_eq_one_iff.mp hlength.symm
  refine ⟨z, x, ?_⟩
  rw [hlast, List.nil_append, List.append_nil, hvoice]
  rfl

end App

end Parley
