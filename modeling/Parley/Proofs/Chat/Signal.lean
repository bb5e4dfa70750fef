import Parley.Proofs.App.Orderly

/-!
# Signals reach a conversation once

Publishing a signal hands it to everyone who listens, and among them to the conversation, which
starts anew or has another conversation loaded. This file says that nothing else comes of it for the
conversation: if the bus is *silent*, that is, observers listen but never command anything
(`Parley.App.Silent`), and the conversation listens to the two signals once each
(`Parley.App.IsMounted`), then a turn that publishes one of them does to the affairs of the
conversation what the conversation does with it, once (`Parley.App.turn_publish`).

What is still to be delivered is worked off in the affairs as well (`Parley.Affairs.heed`), and the
result of that is the same after every step of a delivery.
-/

namespace Parley

/-- What one of the things to do comes to in the affairs of a conversation, on a silent bus. -/
def Affairs.heed (A : Affairs) : Work Listener Act → Affairs
  | .deliver ⟨_, _, .pipeline⟩ ⟨_, .newConversation⟩ =>
    { A with pipeline := A.pipeline.reset }.spawn (.wantSave (A.pipeline.generation + 1) {} .quiet)
  | .deliver ⟨_, _, .pipeline⟩ ⟨_, .conversationSelected id⟩ => A.spawn (.startLoad id .select)
  | _ => A

/-- Only the conversation itself heeds a signal. -/
theorem Affairs.heed_of_ne {A : Affairs} {l : Subscription Listener} {e : Event}
    (hl : l.listener ≠ .pipeline) : A.heed (.deliver l e) = A := by
  obtain ⟨id, topic, listener⟩ := l
  cases listener with
  | pipeline => exact absurd rfl hl
  | _ => rfl

namespace App

/-- Whoever else is on the bus listens and commands nothing. -/
def Silent (a : App) : Prop := ∀ o ∈ a.observers, o.scripts = []

/-- How often the conversation listens to a topic. -/
def pipelineCount (a : App) (t : Topic) : Nat :=
  (a.registry.listening t).countP (·.listener = .pipeline)

/-- The conversation listens to what concerns it, once. -/
structure IsMounted (a : App) : Prop where
  newConversation : a.pipelineCount .newConversation = 1
  conversationSelected : a.pipelineCount .conversationSelected = 1

/-- What is done while a signal is delivered on a silent bus: it is handed on, and the canvas may
announce itself. -/
inductive Delivers : Work Listener Act → Prop
  | deliver (l : Subscription Listener) (e : Event) : Delivers (.deliver l e)
  | announce (b : Bool) : Delivers (.publish ⟨canvasSource, .canvasStateChanged b⟩)

variable {a : App}

/-- A state of a delivery on a silent bus, of which in the end `A` will have come. -/
structure Delivering (r : Registry Listener) (A : Affairs) (c : App × Errands) : Prop where
  silent : c.1.Silent
  registry : c.1.registry = r
  delivers : ∀ w ∈ c.2, Delivers w
  heeds : c.2.foldl Affairs.heed (c.1.affairs []) = A

/-- Handing an event on leaves a silent bus silent, and does to the conversation what it does to
its affairs. -/
theorem react_of_silent (ha : a.Silent) (l : Subscription Listener) (e : Event) :
    (a.react l.listener e).1.observers = a.observers ∧
      (a.react l.listener e).1.registry = a.registry ∧
      (∀ w ∈ (a.react l.listener e).2, ∃ b, w = .publish ⟨canvasSource, .canvasStateChanged b⟩) ∧
      (a.react l.listener e).1.affairs [] = (a.affairs []).heed (.deliver l e) := by
  -- the canvas is the only one that has something to say of its own
  have hcanvas : ∀ f, (a.changeCanvas f).1.observers = a.observers ∧
      (a.changeCanvas f).1.registry = a.registry ∧
      (∀ w ∈ (a.changeCanvas f).2, ∃ b, w = .publish ⟨canvasSource, .canvasStateChanged b⟩) ∧
      (a.changeCanvas f).1.affairs [] = a.affairs [] := by
    intro f
    refine ⟨observers_changeCanvas a f, registry_changeCanvas a f, fun w hw => ?_,
      affairs_changeCanvas a [] f⟩
    rcases changeCanvas_errands a f with h | ⟨b, h⟩
    · rw [h] at hw
      cases hw
    · rw [h] at hw
      exact ⟨b, List.mem_singleton.mp hw⟩
  have hnone : ∀ w ∈ ([] : Errands), ∃ b, w = .publish ⟨canvasSource, .canvasStateChanged b⟩ :=
    List.forall_mem_nil _
  obtain ⟨id, topic, listener⟩ := l
  obtain ⟨source, signal⟩ := e
  cases listener with
  | store =>
    rw [Affairs.heed_of_ne (by simp)]
    cases signal with
    | artifactsReceived batch =>
      exact ⟨observers_ingest a batch, registry_ingest a batch, hnone, affairs_ingest a [] batch⟩
    | newConversation =>
      exact ⟨observers_clearStore a, registry_clearStore a, hnone, affairs_clearStore a []⟩
    | _ => exact ⟨rfl, rfl, hnone, rfl⟩
  | canvas =>
    rw [Affairs.heed_of_ne (by simp)]
    cases signal with
    | artifactsReceived batch =>
      simp only [react]
      split
      · exact ⟨rfl, rfl, hnone, rfl⟩
      · exact hcanvas _
    | toggleCanvas => exact hcanvas _
    | newConversation => exact hcanvas _
    | _ => exact ⟨rfl, rfl, hnone, rfl⟩
  | pipeline =>
    cases signal with
    | newConversation => exact ⟨observers_reset a, registry_reset a, hnone, affairs_reset a []⟩
    | conversationSelected id =>
      exact ⟨observers_spawnLoad a id, registry_spawnLoad a id, hnone, affairs_spawnLoad a [] id⟩
    | _ => exact ⟨rfl, rfl, hnone, rfl⟩
  | observer n =>
    rw [Affairs.heed_of_ne (by simp)]
    simp only [react]
    split
    · -- an observer with a script would command something
      rename_i script more hn
      have hscripts := ha _ (List.mem_of_getElem? hn)
      cases hscripts
    · exact ⟨rfl, rfl, hnone, rfl⟩

/-- Nobody tells the conversation that the canvas was opened. -/
theorem heed_canvasStateChanged (ls : List (Subscription Listener)) (b : Bool) (A : Affairs) :
    (ls.map (.deliver · ⟨canvasSource, .canvasStateChanged b⟩)).foldl Affairs.heed A = A := by
  induction ls generalizing A with
  | nil => rfl
  | cons l ls ih =>
    obtain ⟨id, topic, listener⟩ := l
    cases listener <;> exact ih A

/-- The conversation does nothing about what the canvas announces. -/
theorem foldl_heed_announce {us : Errands}
    (hus : ∀ w ∈ us, ∃ b, w = .publish ⟨canvasSource, .canvasStateChanged b⟩) (A : Affairs) :
    us.foldl Affairs.heed A = A := by
  induction us with
  | nil => rfl
  | cons u us ih =>
    obtain ⟨b, rfl⟩ := hus u List.mem_cons_self
    exact ih fun w hw => hus w (List.mem_cons_of_mem _ hw)

/-- What is left to do on a silent bus comes to the same after one thing is done. -/
theorem Delivering.doing {r : Registry Listener} {A : Affairs} {w : Work Listener Act}
    {ws : Errands} (h : Delivering r A (a, w :: ws)) :
    Delivering r A ((a.doing w).1, (a.doing w).2 ++ ws) := by
  obtain ⟨hsilent, hregistry, hdelivers, hheeds⟩ := h
  have hrest : ∀ w' ∈ ws, Delivers w' := fun w' hw' => hdelivers w' (List.mem_cons_of_mem _ hw')
  cases hdelivers w List.mem_cons_self with
  | deliver l e =>
    obtain ⟨hobservers, hregistry', herrands, haffairs⟩ := react_of_silent hsilent l e
    rw [doing_deliver]
    refine ⟨?_, hregistry'.trans hregistry, fun w' hw' => ?_, ?_⟩
    · rw [Silent, hobservers]
      exact hsilent
    · rcases List.mem_append.mp hw' with hw' | hw'
      · obtain ⟨b, rfl⟩ := herrands w' hw'
        exact .announce b
      · exact hrest w' hw'
    · rw [List.foldl_append, foldl_heed_announce herrands, haffairs]
      exact hheeds
  | announce b =>
    have hdoing : a.doing (.publish ⟨canvasSource, .canvasStateChanged b⟩) =
        (a.note (a.registry.publishNote ⟨canvasSource, .canvasStateChanged b⟩),
          (a.registry.listening .canvasStateChanged).map
            (.deliver · ⟨canvasSource, .canvasStateChanged b⟩)) := doing_publish a _
    rw [hdoing]
    refine ⟨hsilent, hregistry, fun w' hw' => ?_, ?_⟩
    · rcases List.mem_append.mp hw' with hw' | hw'
      · obtain ⟨l, -, rfl⟩ := List.mem_map.mp hw'
        exact .deliver l _
      · exact hrest w' hw'
    · rw [List.foldl_append, heed_canvasStateChanged]
      exact hheeds

/-- An event for the conversation comes to the same under every subscription. -/
theorem heed_pipeline {l : Subscription Listener} (hl : l.listener = .pipeline) (e : Event)
    (A : Affairs) : A.heed (.deliver l e) = A.heed (.deliver ⟨0, e.topic, .pipeline⟩ e) := by
  obtain ⟨id, topic, listener⟩ := l
  obtain rfl : listener = .pipeline := hl
  obtain ⟨source, signal⟩ := e
  cases signal <;> rfl

/-- Where the conversation does not listen it hears nothing. -/
theorem foldl_heed_of_countP_eq_zero {ls : List (Subscription Listener)} (e : Event)
    (h : ls.countP (·.listener = .pipeline) = 0) (A : Affairs) :
    (ls.map (.deliver · e)).foldl Affairs.heed A = A := by
  induction ls with
  | nil => rfl
  | cons l ls ih =>
    have hl : l.listener ≠ .pipeline := by
      intro hl
      rw [List.countP_cons_of_pos (by simpa using hl)] at h
      cases h
    rw [List.countP_cons_of_neg (by simpa using hl)] at h
    rw [List.map_cons, List.foldl_cons, Affairs.heed_of_ne hl]
    exact ih h

/-- Those who listen to an event hand it to the conversation as often as it listens: if that is
once, once. -/
theorem foldl_heed_deliver (ls : List (Subscription Listener)) (e : Event)
    (h : ls.countP (·.listener = .pipeline) = 1) (A : Affairs) :
    (ls.map (.deliver · e)).foldl Affairs.heed A = A.heed (.deliver ⟨0, e.topic, .pipeline⟩ e) := by
  induction ls with
  | nil => cases h
  | cons l ls ih =>
    rw [List.map_cons, List.foldl_cons]
    by_cases hl : l.listener = .pipeline
    · rw [List.countP_cons_of_pos (by simpa using hl)] at h
      rw [foldl_heed_of_countP_eq_zero e (Nat.succ.inj h), heed_pipeline hl]
    · rw [List.countP_cons_of_neg (by simpa using hl)] at h
      rw [Affairs.heed_of_ne hl]
      exact ih h

/-- **What publishing an event does to the affairs of a conversation** that listens to it once, on
a silent bus: what the conversation does with it. The bus is as it was. -/
theorem turn_publish (ha : a.Silent) {e : Event} (hcount : a.pipelineCount e.topic = 1) :
    (a.turn (.publish e)).Silent ∧ (a.turn (.publish e)).registry = a.registry ∧
      (a.turn (.publish e)).affairs [] =
        (a.affairs []).heed (.deliver ⟨0, e.topic, .pipeline⟩ e) := by
  have hturn : a.turn (.publish e) =
      (a.note (a.registry.publishNote e)).settle
        ((a.registry.listening e.topic).map (.deliver · e)) := by
    rw [turn, enter, settle_cons, Delivery.step_publish, List.append_nil]
    rfl
  have hstart : Delivering a.registry ((a.affairs []).heed (.deliver ⟨0, e.topic, .pipeline⟩ e))
      (a.note (a.registry.publishNote e), (a.registry.listening e.topic).map (.deliver · e)) := by
    refine ⟨ha, rfl, fun w hw => ?_, foldl_heed_deliver _ e hcount _⟩
    obtain ⟨l, -, rfl⟩ := List.mem_map.mp hw
    exact .deliver l e
  obtain ⟨hsilent, hregistry, -, hheeds⟩ :=
    settle_induction (P := Delivering a.registry _) (fun _ _ _ h => h.doing) hstart
  rw [hturn]
  exact ⟨hsilent, hregistry, hheeds⟩

/-! ### Who is on the bus -/

/-- Nothing that a task does changes who is on the bus. -/
theorem bus_enter (a : App) (t : Turn) :
    (a.enter t).1.observers = a.observers ∧ (a.enter t).1.registry = a.registry := by
  have hload : ∀ n id e, (a.startLoad n id e).observers = a.observers ∧
      (a.startLoad n id e).registry = a.registry := fun _ _ _ => ⟨rfl, rfl⟩
  cases t with
  | advance n =>
    simp only [enter, advance]
    split
    · rename_i o hstage
      cases o with
      | send text =>
        simp only [begin]
        split <;> exact ⟨rfl, rfl⟩
      | retry =>
        simp only [begin]
        split <;> exact ⟨rfl, rfl⟩
      | _ => exact ⟨rfl, rfl⟩
    · exact hload _ _ _
    · exact ⟨rfl, rfl⟩
    · unfold startSave
      split
      · exact ⟨rfl, rfl⟩
      · split <;> exact ⟨rfl, rfl⟩
    · exact ⟨rfl, rfl⟩
  | answer n r =>
    simp only [enter, takeAnswer]
    split
    · simp only [takeReply]
      split <;> exact ⟨observers_notes _ _, registry_notes _ _⟩
    · simp only [takeEntries]
      split
      · exact ⟨observers_notes _ _, registry_notes _ _⟩
      · split <;> exact ⟨observers_notes _ _, registry_notes _ _⟩
      · exact ⟨observers_notes _ _, registry_notes _ _⟩
    · exact ⟨rfl, rfl⟩
    · exact ⟨rfl, rfl⟩
  | giveSession n r =>
    simp only [enter, giveSession]
    split
    · split <;> exact ⟨rfl, rfl⟩
    · exact ⟨rfl, rfl⟩
  | giveSaved n r =>
    simp only [enter, giveSaved]
    split
    · cases r <;> exact ⟨rfl, rfl⟩
    · exact ⟨rfl, rfl⟩
  | _ => exact ⟨rfl, rfl⟩

/-- The conversation listens once to what concerns it when it is put on a bus where it did not
listen. -/
theorem isMounted_mount (address : String)
    (ha : ∀ s ∈ a.registry.subscriptions, s.listener ≠ .pipeline) :
    (a.mount address).IsMounted := by
  have hnobody : ∀ t, (a.registry.subscriptions.filter (·.topic == t)).countP
      (·.listener = .pipeline) = 0 := by
    intro t
    refine List.countP_eq_zero.mpr fun s hs => ?_
    simpa using ha s (List.mem_filter.mp hs).1
  constructor
  · simp [pipelineCount, Registry.listening, mount, seats, enlist, subscribe, Registry.subscribe,
      note, observe, hnobody]
  · simp [pipelineCount, Registry.listening, mount, seats, enlist, subscribe, Registry.subscribe,
      note, observe, hnobody]

end App

end Parley
