import Parley.Proofs.App.Course

/-!
# What an app is assembled of

An app is given a profile, and its parts are put on the bus. From then on the profile stays as it is
(`Parley.App.Happens.profile`), and the bus changes only when a part leaves it
(`Parley.App.fittings_doing`). Turns change nothing of the bus, and nothing of the artifacts and of
what is shown of them (`Parley.App.surroundings_enter`).

What leaves the bus is gone for good. A part is on the bus under the numbers it was enlisted with
(`Parley.App.Enrolled`), so that once it left nobody finds it there any more.
-/

namespace Parley

/-- A part is taken off the bus. -/
def Command.dismantles : Command → Bool
  | .unmount _ | .shutdown => true
  | _ => false

namespace App

/-- The profile of an app, who is on its bus, and for which part. -/
def assembly (a : App) : Profile × Registry Listener × List (Part × Nat) :=
  (a.profile, a.registry, a.memberships)

/-- What an app is given, and how often it has called the server. -/
def outfit (a : App) : Profile × Option Plotter × Bool × Nat :=
  (a.profile, a.plotter, a.canSpawn, a.calls)

/-- Who is on the bus of an app, and all that it is given. -/
def fittings (a : App) :
    (Profile × Registry Listener × List (Part × Nat)) × Profile × Option Plotter × Bool × Nat :=
  (a.assembly, a.outfit)

/-- All of an app but its conversation, its tasks, and what they draw and write. -/
def surroundings (a : App) : App :=
  { a with
    pipeline := {}
    supply := default
    tasks := []
    nextTask := 0
    calls := 0
    savedGeneration := 0
    saving := none
    trace := [] }

variable {a b : App}

/-! ### What is left alone -/

@[simp] theorem fittings_notes (a : App) (ns : List Note) :
    (a.notes ns).fittings = a.fittings := by
  induction ns generalizing a with
  | nil => rfl
  | cons n ns ih => exact ih (a.note n)

theorem fittings_changeCanvas (a : App) (f : Canvas → Canvas) :
    (a.changeCanvas f).1.fittings = a.fittings :=
  fittings_notes _ _

theorem fittings_openArtifact (a : App) (id : String) :
    (a.openArtifact id).1.fittings = a.fittings := by
  unfold openArtifact
  split
  · exact fittings_changeCanvas a (·.select _)
  · rfl

theorem fittings_ingest (a : App) (batch : List Artifact) :
    (a.ingest batch).1.fittings = a.fittings :=
  fittings_notes _ _

theorem fittings_clearStore (a : App) : a.clearStore.fittings = a.fittings :=
  fittings_notes _ _

theorem fittings_reset (a : App) : a.reset.fittings = a.fittings :=
  (apply_ite fittings (a.canSpawn = true) _ _).trans (ite_self _)

theorem fittings_spawnLoad (a : App) (id : Int) : (a.spawnLoad id).fittings = a.fittings :=
  (apply_ite fittings (a.canSpawn = true) _ _).trans (ite_self _)

theorem fittings_react (a : App) (l : Listener) (e : Event) :
    (a.react l e).1.fittings = a.fittings := by
  obtain ⟨source, signal⟩ := e
  cases l with
  | store =>
    cases signal with
    | artifactsReceived batch => exact fittings_ingest a batch
    | newConversation => exact fittings_clearStore a
    | _ => rfl
  | canvas =>
    cases signal with
    | artifactsReceived batch =>
      simp only [react]
      split
      · rfl
      · exact fittings_changeCanvas a _
    | toggleCanvas => exact fittings_changeCanvas a _
    | newConversation => exact fittings_changeCanvas a _
    | _ => rfl
  | pipeline =>
    cases signal with
    | newConversation => exact fittings_reset a
    | conversationSelected id => exact fittings_spawnLoad a id
    | _ => rfl
  | observer n =>
    simp only [react]
    split <;> rfl

theorem fittings_command (a : App) {c : Command} (hc : c.dismantles = false) :
    (a.command c).1.fittings = a.fittings := by
  cases c with
  | unmount | shutdown => cases hc
  | toggle | cycle | hide | deselect => exact fittings_changeCanvas a _
  | openId | openAt => exact fittings_openArtifact a _
  | reset => exact fittings_reset a
  | ingest batch => exact fittings_ingest _ _
  | clearStore => exact fittings_clearStore a
  | picture =>
    simp only [command]
    split
    · simp only [fittings_notes]
    · rfl
  | _ => rfl

/-- **What is done on a bus leaves it alone**, unless a part is taken off it, and calls nobody. -/
theorem fittings_doing (a : App) {w : Work Listener Act}
    (hw : ∀ who c, w = .act (.command who c) → c.dismantles = false) :
    (a.doing w).1.fittings = a.fittings := by
  cases w with
  | publish e => rfl
  | deliver l e => exact fittings_react a l.listener e
  | act w =>
    cases w with
    | command who c => exact fittings_command a (hw who c rfl)
    | give | note => rfl
    | conclude n g adopted => cases adopted <;> rfl

@[simp] theorem surroundings_notes (a : App) (ns : List Note) :
    (a.notes ns).surroundings = a.surroundings := by
  induction ns generalizing a with
  | nil => rfl
  | cons n ns ih => exact ih (a.note n)

/-- **Turns are about the conversation and its tasks.** They leave the bus and everybody on it
alone, the artifacts that are stored, and what is shown. -/
theorem surroundings_enter (a : App) (t : Turn) :
    (a.enter t).1.surroundings = a.surroundings := by
  cases t with
  | advance n =>
    simp only [enter, advance]
    split
    · rename_i o hstage
      cases o with
      | send text =>
        simp only [begin]
        split <;> rfl
      | retry =>
        simp only [begin]
        split <;> rfl
      | _ => rfl
    · rfl
    · rfl
    · unfold startSave
      split
      · rfl
      · split <;> rfl
    · rfl
  | answer n r =>
    simp only [enter, takeAnswer]
    split
    · simp only [takeReply]
      split <;> exact surroundings_notes _ _
    · simp only [takeEntries]
      split
      · exact surroundings_notes _ _
      · split <;> exact surroundings_notes _ _
      · exact surroundings_notes _ _
    · rfl
    · rfl
  | giveSession n r =>
    simp only [enter, giveSession]
    split
    · split <;> rfl
    · rfl
  | giveSaved n r =>
    simp only [enter, giveSaved]
    split
    · cases r <;> rfl
    · rfl
  | _ => rfl

/-- They store no artifact, and show none. -/
theorem store_enter (a : App) (t : Turn) :
    (a.enter t).1.store = a.store ∧ (a.enter t).1.canvas = a.canvas := by
  have hstore := congrArg store (surroundings_enter a t)
  have hcanvas := congrArg canvas (surroundings_enter a t)
  exact ⟨hstore, hcanvas⟩

theorem assembly_enter (a : App) (t : Turn) : (a.enter t).1.assembly = a.assembly := by
  have h := congrArg assembly (surroundings_enter a t)
  exact h

/-! ### Being handed a signal -/

/-- **What a listener leaves to do**: the canvas publishes at most that it was opened or hidden, and
an observer commands what its script says. -/
theorem react_errands (a : App) (l : Listener) (e : Event) :
    (a.react l e).2 = [] ∨
      (∃ b, (a.react l e).2 = [.publish ⟨canvasSource, .canvasStateChanged b⟩]) ∨
      ∃ (n : Nat) (cs : List Command),
        (a.react l e).2 = cs.map fun c => .act (.command (some n) c) := by
  obtain ⟨source, signal⟩ := e
  cases l with
  | store => cases signal <;> exact .inl rfl
  | canvas =>
    cases signal with
    | artifactsReceived batch =>
      simp only [react]
      split
      · exact .inl rfl
      · exact (changeCanvas_errands a _).imp_right .inl
    | toggleCanvas | newConversation => exact (changeCanvas_errands a _).imp_right .inl
    | _ => exact .inl rfl
  | pipeline => cases signal <;> exact .inl rfl
  | observer n =>
    simp only [react]
    split
    · exact .inr (.inr ⟨n, _, rfl⟩)
    · exact .inl rfl

/-- **Only publishing hands a signal to somebody.** -/
theorem deliver_notMem_doing {w : Work Listener Act} (hw : ∀ e, w ≠ .publish e)
    (s : Subscription Listener) (e : Event) : .deliver s e ∉ (a.doing w).2 := by
  intro h
  cases w with
  | publish e' => exact hw e' rfl
  | deliver l e' =>
    rw [doing_deliver] at h
    obtain hnext | ⟨e'', hnext⟩ | ⟨n, cs, hnext⟩ := react_errands a l.listener e'
    all_goals
      rw [hnext] at h
      simp at h
  | act w =>
    rw [doing_act] at h
    cases w with
    | command who c =>
      have h : .deliver s e ∈ (a.command c).2.1 ++ [.act (.give who (a.command c).2.2)] := h
      rcases command_errands a c with hnext | ⟨e'', hnext⟩ <;> rw [hnext] at h <;> simp at h
    | give who r => cases h
    | note x => cases h
    | conclude n g adopted => cases adopted <;> cases h

/-- **Whoever is handed a signal listens when it is published.** -/
theorem mem_subscriptions_of_doing {w : Work Listener Act} {s : Subscription Listener} {e : Event}
    (h : .deliver s e ∈ (a.doing w).2) : s ∈ a.registry.subscriptions := by
  cases w with
  | publish e' =>
    rw [doing_publish, List.mem_map] at h
    obtain ⟨s', hs', heq⟩ := h
    cases heq
    exact List.mem_of_mem_filter hs'
  | deliver | act =>
    refine absurd h (deliver_notMem_doing ?_ s e)
    simp

/-! ### Leaving the bus -/

theorem outfit_unsubscribe (a : App) (id : Nat) : (a.unsubscribe id).outfit = a.outfit := by
  unfold unsubscribe
  split <;> rfl

theorem memberships_unsubscribe (a : App) (id : Nat) :
    (a.unsubscribe id).memberships = a.memberships := by
  unfold unsubscribe
  split <;> rfl

/-- Nobody is on the bus under a number that was given up, and everybody else was there before. -/
theorem mem_subscriptions_unsubscribe (a : App) (id : Nat) {s : Subscription Listener} :
    s ∈ (a.unsubscribe id).registry.subscriptions ↔
      s ∈ a.registry.subscriptions ∧ s.id ≠ id := by
  unfold unsubscribe
  split
  · simp [Registry.unsubscribe, note, observe]
  · rename_i hnone
    have hnobody : ∀ s ∈ a.registry.subscriptions, s.id ≠ id := by
      simpa [Registry.topicOf?] using hnone
    exact ⟨fun hs => ⟨hs, hnobody s hs⟩, And.left⟩

theorem foldl_unsubscribe (a : App) (ids : List Nat) :
    (ids.foldl unsubscribe a).outfit = a.outfit ∧
      (ids.foldl unsubscribe a).memberships = a.memberships ∧
      ∀ s, s ∈ (ids.foldl unsubscribe a).registry.subscriptions ↔
        s ∈ a.registry.subscriptions ∧ s.id ∉ ids := by
  induction ids generalizing a with
  | nil => simp
  | cons id ids ih =>
    obtain ⟨houtfit, hmemberships, hsubscriptions⟩ := ih (a.unsubscribe id)
    refine ⟨houtfit.trans (outfit_unsubscribe a id),
      hmemberships.trans (memberships_unsubscribe a id), fun s => ?_⟩
    rw [List.foldl_cons, hsubscriptions, mem_subscriptions_unsubscribe, List.mem_cons, not_or,
      and_assoc]

/-- A part leaves: it gives up the numbers it was enlisted with. -/
theorem bus_dismissPart (a : App) (part : Part) :
    (a.dismissPart part).outfit = a.outfit ∧
      (∀ m, m ∈ (a.dismissPart part).memberships ↔ m ∈ a.memberships ∧ m.1 ≠ part) ∧
      ∀ s, s ∈ (a.dismissPart part).registry.subscriptions ↔
        s ∈ a.registry.subscriptions ∧ (part, s.id) ∉ a.memberships := by
  obtain ⟨houtfit, hmemberships, hsubscriptions⟩ := foldl_unsubscribe
    { a with memberships := a.memberships.filter (·.1 ≠ part) }
    ((a.memberships.filter (·.1 = part)).map (·.2))
  refine ⟨houtfit, fun m => ?_, fun s => ?_⟩
  · rw [dismissPart, hmemberships]
    simp
  · rw [dismissPart, hsubscriptions]
    simp

theorem bus_unmount (a : App) (part : Part) :
    (a.unmount part).outfit = a.outfit ∧
      (∀ m, m ∈ (a.unmount part).memberships ↔ m ∈ a.memberships ∧ m.1 ≠ part) ∧
      ∀ s, s ∈ (a.unmount part).registry.subscriptions ↔
        s ∈ a.registry.subscriptions ∧ (part, s.id) ∉ a.memberships := by
  cases part with
  | pipeline => exact bus_dismissPart { a with pipeline := a.pipeline.unmount } .pipeline
  | canvas => exact bus_dismissPart a .canvas
  | store => exact bus_dismissPart a .store

/-- **Whoever leaves the bus, an app keeps what it is given**, and calls nobody. -/
theorem outfit_doing (a : App) (w : Work Listener Act) : (a.doing w).1.outfit = a.outfit := by
  by_cases hw : ∀ who c, w = .act (.command who c) → c.dismantles = false
  · exact congrArg Prod.snd (fittings_doing a hw)
  · simp only [not_forall, Bool.not_eq_false] at hw
    obtain ⟨who, c, rfl, hc⟩ := hw
    cases c with
    | unmount part => exact (bus_unmount a part).1
    | shutdown =>
      exact (bus_unmount ((a.unmount .pipeline).unmount .canvas) .store).1.trans
        ((bus_unmount (a.unmount .pipeline) .canvas).1.trans (bus_unmount a .pipeline).1)
    | _ => cases hc

/-- **The profile of an app stays as it is.** -/
theorem Happens.profile {x : Happening} {ws vs : Errands} (hx : Happens x (a, ws) (b, vs)) :
    b.profile = a.profile := by
  cases hx with
  | turn t => exact congrArg Prod.fst (assembly_enter a t)
  | errand w => exact congrArg Prod.fst (outfit_doing a w)

/-! ### The conversation on the bus -/

/-- A conversation is on the bus only while it is mounted, and under the numbers it was enlisted
with. -/
def Enrolled (a : App) : Prop :=
  ∀ s ∈ a.registry.subscriptions, s.listener = .pipeline →
    a.pipeline.alive = true ∧ (Part.pipeline, s.id) ∈ a.memberships

/-- Whoever is on the bus stays there as long as nothing happens to bus and conversation. -/
theorem Enrolled.congr (ha : a.Enrolled) (hbus : b.assembly = a.assembly)
    (halive : b.pipeline.alive = a.pipeline.alive) : b.Enrolled := by
  simp only [assembly, Prod.mk.injEq] at hbus
  obtain ⟨-, hregistry, hmemberships⟩ := hbus
  intro s hs hl
  rw [hregistry] at hs
  rw [halive, hmemberships]
  exact ha s hs hl

theorem Enrolled.unmount (ha : a.Enrolled) (part : Part) : (a.unmount part).Enrolled := by
  obtain ⟨-, hmemberships, hsubscriptions⟩ := bus_unmount a part
  intro s hs hl
  obtain ⟨hs, hgone⟩ := (hsubscriptions s).mp hs
  obtain ⟨halive, hmember⟩ := ha s hs hl
  have hother : part ≠ .pipeline := by
    rintro rfl
    exact hgone hmember
  have hsame : (a.unmount part).pipeline = a.pipeline := by
    have haffairs := a.affairs_unmount [] part
    rw [if_neg hother] at haffairs
    exact congrArg Affairs.pipeline haffairs
  exact ⟨hsame ▸ halive, (hmemberships _).mpr ⟨hmember, hother.symm⟩⟩

theorem Enrolled.enlist (ha : a.Enrolled) (halive : a.pipeline.alive = true) {part : Part}
    {l : Listener} (hl : l = .pipeline → part = .pipeline) (topic : Topic) :
    (a.enlist part l topic).Enrolled := by
  intro s hs hpipeline
  refine ⟨halive, ?_⟩
  rcases List.mem_append.mp (hs : s ∈ a.registry.subscriptions ++ [⟨a.registry.next, topic, l⟩])
    with hs | hs
  · exact List.mem_append_left _ (ha s hs hpipeline).2
  · obtain rfl := List.mem_singleton.mp hs
    rw [← hl hpipeline]
    exact List.mem_append_right _ List.mem_cons_self

/-- **The conversation is enrolled once the parts are on the bus.** -/
theorem Enrolled.mount (ha : a.Enrolled) (halive : a.pipeline.alive = true) (address : String) :
    (a.mount address).Enrolled := by
  suffices h : ∀ (seats : List (Part × Listener × Topic)) (b : App), b.Enrolled →
      b.pipeline.alive = true → (∀ seat ∈ seats, seat.2.1 = .pipeline → seat.1 = .pipeline) →
      (seats.foldl (fun b seat => b.enlist seat.1 seat.2.1 seat.2.2) b).Enrolled from
    h seats a ha halive (by decide)
  intro seats
  induction seats with
  | nil => exact fun b hb _ _ => hb
  | cons seat seats ih =>
    intro b hb halive hseats
    exact ih _ (hb.enlist halive (hseats seat List.mem_cons_self) seat.2.2) halive
      fun s hs => hseats s (List.mem_cons_of_mem _ hs)

end App

end Parley
