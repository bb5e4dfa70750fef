import Parley.Proofs.App.Control
import Parley.Proofs.App.Mirror
import Parley.Proofs.Chat.Loading
import Parley.Proofs.Chat.Unmounted

/-!
# A new conversation is a new app

When a new conversation is announced the store, the canvas and the conversation start anew, each by
itself. This file says that together they come to an app as it was built: the same is seen of the
app from then on as of one that was assembled and never used
(`Parley.App.Leads.newConversation`), whatever is still under way.

There are two halves to it. Announcing a new conversation leaves nothing of the old one to be seen
(`Parley.App.yields_newConversation`); this is followed through the delivery, in which the canvas
announces itself if it was open. What is still under way cannot be seen either: the app *mirrors*
the one that was built (`Parley.App.Mirrors`), from the moment at which the delivery is over.

Two things have to be granted. Nothing may be in the middle of being delivered: the artifacts of a
reply are published after its message, so a new conversation that is announced in between is handed
them (`Parley.App.stored_of_newConversation`). And those who listen to a new conversation must not
use the occasion to command anything.
-/

namespace Parley

/-- An operation was called and has not begun. -/
def Stage.isCalled : Stage → Bool
  | .start _ => true
  | _ => false

/-- A task has begun and is still to load a conversation, in a generation of its own: one in the
background, or the one of the last session. -/
def Stage.isPostponed : Stage → Bool
  | .startLoad _ _ | .awaitSession => true
  | _ => false

/-- What a task does belongs to the time of the generation it has under way, or is to save. -/
theorem Stage.isSpent_of_dated {s : Stage} {k : Nat} (hcalled : s.isCalled = false)
    (hprompt : s.isPostponed = false) (hdated : ∀ g, s.dated? = some g → g ≤ k) :
    s.IsSpent (k + 1) := by
  cases s with
  | start => cases hcalled
  | startLoad | awaitSession => cases hprompt
  | publishing | awaitSummaries => trivial
  | posing | awaitReply | awaitEntries => exact Nat.lt_succ_of_le (hdated _ rfl)
  | wantSave | awaitSaved => exact Nat.le_succ_of_le (hdated _ rfl)

namespace App

variable {a b c : App} {us vs ws : Errands} {es es' : List Event} {w : Work Listener Act}

/-! ### What is published -/

/-- Everything there is to do is done, one thing after the other, and some events are published. -/
inductive Settles : App → Errands → List Event → App → Prop
  | nil (a : App) : Settles a [] [] a
  | cons {a b : App} {w : Work Listener Act} {ws : Errands} {es : List Event}
      (hrest : Settles (a.doing w).1 ((a.doing w).2 ++ ws) es b) :
      Settles a (w :: ws) ((published? w).toList ++ es) b

theorem Settles.append (hus : Settles a us es b) (hvs : Settles b vs es' c) :
    Settles a (us ++ vs) (es ++ es') c := by
  induction hus with
  | nil => exact hvs
  | cons _ ih =>
    have hrest := ih hvs
    rw [List.append_assoc] at hrest ⊢
    exact .cons hrest

theorem Settles.settle_eq (h : Settles a ws es b) : a.settle ws = b := by
  induction h with
  | nil a => exact settle_nil a
  | cons _ ih =>
    rw [settle_cons, step_cons]
    exact ih

/-- Everything is done, and makes one app of another, whatever was noticed before. What is noticed
itself is left out. -/
def Yields (a : App) (ws : Errands) (es : List Event) (b : App) : Prop :=
  ∀ tr, ∃ tr', Settles { a with trace := tr } ws es { b with trace := tr' }

namespace Yields

theorem append (hus : Yields a us es b) (hvs : Yields b vs es' c) :
    Yields a (us ++ vs) (es ++ es') c := by
  intro tr
  obtain ⟨tr', h⟩ := hus tr
  obtain ⟨tr'', h'⟩ := hvs tr'
  exact ⟨tr'', h.append h'⟩

/-- One thing that leaves nothing to do. -/
theorem of_doing (hw : published? w = none)
    (h : ∀ tr, ∃ tr', App.doing { a with trace := tr } w = ({ b with trace := tr' }, [])) :
    Yields a [w] [] b := by
  intro tr
  obtain ⟨tr', h⟩ := h tr
  refine ⟨tr', ?_⟩
  have hdone : Settles ({ a with trace := tr } : App) [w] ((published? w).toList ++ [])
      { b with trace := tr' } := by
    refine .cons ?_
    rw [h]
    exact .nil _
  rwa [hw] at hdone

/-- An event is published, and handed to those who listen. -/
theorem publish {e : Event}
    (h : Yields a ((a.registry.listening e.topic).map (.deliver · e)) es b) :
    Yields a [.publish e] (e :: es) b := by
  intro tr
  obtain ⟨tr', h⟩ := h (.note (a.registry.publishNote e) :: tr)
  refine ⟨tr', ?_⟩
  have hpublish : Settles ({ a with trace := tr } : App) [.publish e]
      ((published? (.publish e)).toList ++ es) { b with trace := tr' } := by
    refine .cons ?_
    rw [doing_publish, List.append_nil]
    exact h
  exact hpublish

end Yields

/-! ### Those who only listen -/

/-- A listener commands nothing, whatever it is handed. -/
def isPassive (a : App) : Listener → Bool
  | .observer n => (a.observers[n]?).all (·.scripts.isEmpty)
  | _ => true

theorem isPassive_congr {l : Listener} (hobservers : b.observers = a.observers) :
    b.isPassive l = a.isPassive l := by
  cases l <;> simp only [isPassive, hobservers]

theorem react_of_isPassive {n : Nat} (h : a.isPassive (.observer n) = true) (e : Event) :
    a.react (.observer n) e = (a.observe (.heard n e), []) := by
  simp only [react]
  split
  · rename_i hn
    have hn : a.observers[n]? = some _ := hn
    rw [isPassive, hn] at h
    cases h
  · rfl

/-- Observers who command nothing are handed an event. -/
theorem yields_heard {ls : List (Subscription Listener)}
    (hls : ∀ l ∈ ls, (∃ n, l.listener = .observer n) ∧ a.isPassive l.listener = true) (e : Event) :
    Yields a (ls.map (.deliver · e)) [] a := by
  induction ls with
  | nil => exact fun tr => ⟨tr, .nil _⟩
  | cons l ls ih =>
    obtain ⟨⟨⟨n, hn⟩, hpassive⟩, hls⟩ := List.forall_mem_cons.mp hls
    have hone : Yields a [.deliver l e] [] a := by
      refine .of_doing rfl fun tr => ⟨.heard n e :: tr, ?_⟩
      rw [doing_deliver, hn]
      rw [hn] at hpassive
      exact react_of_isPassive (a := { a with trace := tr }) hpassive e
    exact hone.append (ih hls)

/-! ### A new conversation -/

/-- What is noted is noticed, and that is all. -/
theorem notes_eq (a : App) (ns : List Note) :
    a.notes ns = { a with trace := (a.notes ns).trace } := by
  induction ns generalizing a with
  | nil => rfl
  | cons n ns ih => exact ih (a.note n)

variable {l : Subscription Listener} (source : String)

/-- The store starts anew. -/
theorem yields_store (hl : l.listener = .store) :
    Yields a [.deliver l ⟨source, .newConversation⟩] [] { a with store := .empty } := by
  refine .of_doing rfl fun tr => ?_
  have hcleared := notes_eq { a with store := .empty, trace := tr } a.store.clearNotes
  rw [doing_deliver, hl]
  exact ⟨_, congrArg (·, []) hcleared⟩

/-- The canvas is hidden, and announces it if it was open. -/
theorem yields_canvas (hl : l.listener = .canvas)
    (hheard : ∀ s ∈ a.registry.listening .canvasStateChanged,
      (∃ n, s.listener = .observer n) ∧ a.isPassive s.listener = true) :
    Yields a [.deliver l ⟨source, .newConversation⟩]
      (if a.canvas.isOpen then [⟨canvasSource, .canvasStateChanged false⟩] else [])
      { a with canvas := .initial } := by
  intro tr
  have hhidden := notes_eq { a with canvas := .initial, trace := tr }
    (Canvas.changeNotes a.canvas .initial)
  obtain ⟨tr', h⟩ : ∃ tr', Settles
      (({ a with canvas := .initial, trace := tr } : App).notes
        (Canvas.changeNotes a.canvas .initial))
      (App.changeCanvas { a with trace := tr } Canvas.hide).2
      (if a.canvas.isOpen then [⟨canvasSource, .canvasStateChanged false⟩] else [])
      { a with canvas := .initial, trace := tr' } := by
    rw [hhidden]
    simp only [changeCanvas, Canvas.crossing?]
    cases hopen : a.canvas.isOpen with
    | false => exact ⟨_, .nil _⟩
    | true =>
      exact (yields_heard (a := { a with canvas := .initial }) hheard
        ⟨canvasSource, .canvasStateChanged false⟩).publish _
  refine ⟨tr', .cons (w := .deliver l _) ?_⟩
  rw [doing_deliver, hl, List.append_nil]
  exact h

/-- The conversation starts anew. -/
theorem yields_pipeline (hl : l.listener = .pipeline) :
    Yields a [.deliver l ⟨source, .newConversation⟩] [] a.reset := by
  refine .of_doing rfl fun tr => ?_
  rw [doing_deliver, hl]
  cases hspawn : a.canSpawn with
  | true =>
    simp only [react, reset, note, observe, hspawn, if_true]
    exact ⟨_, rfl⟩
  | false =>
    simp only [react, reset, note, observe, hspawn]
    exact ⟨_, rfl⟩

/-- A signal is announced, and everything is done that comes of it. -/
theorem Yields.announce {signal : Signal} (who : Option Nat)
    (h : Yields a [.publish ⟨appSource, signal⟩] es b) :
    Yields a [.act (.command who (.announce signal))] es b := by
  have hgive : Yields b [.act (.give who .done)] [] b :=
    .of_doing rfl fun tr => ⟨.gave who .done :: tr, by rw [doing_act]; rfl⟩
  intro tr
  obtain ⟨tr', hall⟩ := h.append hgive tr
  rw [List.append_nil] at hall
  refine ⟨tr', .cons (w := .act (.command who (.announce signal))) ?_⟩
  rw [doing_act, List.append_nil]
  exact hall

variable {a₀ : App} {ms : Course}

/-- **The store, the canvas and the conversation of an assembled app start anew together**, and the
canvas announces itself if it was open. -/
theorem IsAssembled.yields_newConversation (ha : a₀.IsAssembled)
    (hbus : a.assembly = a₀.assembly) (hpassive : ∀ s ∈ a.registry.subscriptions,
      s.topic = .newConversation ∨ s.topic = .canvasStateChanged → a.isPassive s.listener = true) :
    Yields a [.publish ⟨source, .newConversation⟩]
      (⟨source, .newConversation⟩ ::
        if a.canvas.isOpen then [⟨canvasSource, .canvasStateChanged false⟩] else [])
      (reset { a with store := .empty, canvas := .initial }) := by
  have hregistry : a.registry = a₀.registry := congrArg (·.2.1) hbus
  have hlistening : ∀ topic, topic = .newConversation ∨ topic = .canvasStateChanged →
      ∀ l ∈ a.registry.listening topic, a.isPassive l.listener = true := by
    intro topic htopic l hl
    obtain ⟨hmem, hl⟩ := List.mem_filter.mp hl
    exact hpassive l hmem (by rwa [eq_of_beq hl])
  -- nobody but observers listens to what the canvas announces
  have hheard : ∀ l ∈ a.registry.listening .canvasStateChanged,
      (∃ n, l.listener = .observer n) ∧ a.isPassive l.listener = true := by
    intro l hl
    refine ⟨?_, hlistening _ (.inr rfl) l hl⟩
    obtain ⟨early, late, hobservers, hls⟩ := ha.listening .canvasStateChanged
    refine hobservers _ ?_
    rw [← hregistry] at hls
    have hmem : l.listener ∈ (a.registry.listening .canvasStateChanged).map (·.listener) :=
      List.mem_map_of_mem hl
    rw [hls] at hmem
    exact hmem
  obtain ⟨early, late, hobservers, hls⟩ := ha.listening .newConversation
  have hseats : ((seats.map (·.2)).filter (·.2 == .newConversation)).map (·.1) =
      [.store, .canvas, .pipeline] := rfl
  rw [← hregistry, hseats] at hls
  obtain ⟨ls₁, rest, heq, rfl, hrest⟩ := List.map_eq_append_iff.mp hls
  obtain ⟨s, rest, rfl, hs, hrest⟩ := List.map_eq_cons_iff.mp hrest
  obtain ⟨c, rest, rfl, hc, hrest⟩ := List.map_eq_cons_iff.mp hrest
  obtain ⟨p, ls₂, rfl, hp, rfl⟩ := List.map_eq_cons_iff.mp hrest
  have hpassive := hlistening _ (.inl rfl)
  rw [heq] at hpassive
  have hearly : ∀ l ∈ ls₁, (∃ n, l.listener = .observer n) ∧ a.isPassive l.listener = true :=
    fun l hl => ⟨hobservers _ (List.mem_append_left _ (List.mem_map_of_mem hl)),
      hpassive l (List.mem_append_left _ hl)⟩
  have hlate : ∀ l ∈ ls₂, (∃ n, l.listener = .observer n) ∧
      (reset { a with store := .empty, canvas := .initial }).isPassive l.listener = true :=
    fun l hl => ⟨hobservers _ (List.mem_append_right _ (List.mem_map_of_mem hl)),
      (isPassive_congr (observers_reset _)).trans (hpassive l (by simp [hl]))⟩
  have hall := (yields_heard hearly ⟨source, .newConversation⟩).append
    ((yields_store source hs).append
      ((yields_canvas (a := { a with store := .empty }) source hc hheard).append
        ((yields_pipeline (a := { a with store := .empty, canvas := .initial }) source hp).append
          (yields_heard hlate ⟨source, .newConversation⟩))))
  simp only [List.nil_append, List.append_nil] at hall
  refine .publish ?_
  have htopic : (a.registry.listening (Event.topic ⟨source, .newConversation⟩)) =
      ls₁ ++ s :: c :: p :: ls₂ := heq
  rw [htopic, List.map_append]
  exact hall

/-! ### What is left over -/

/-- The tasks that have begun. -/
def begun (a : App) : List Nat := (a.tasks.filter fun t => !t.stage.isCalled).map (·.name)

/-- An app as it was built, in the place of another: among the same observers, at the same time, and
called upon for what the other one was called upon for and has not begun. -/
def inPlaceOf (a b : App) : App :=
  { a with
    observers := b.observers
    supply := b.supply
    tasks := b.tasks.filter (·.stage.isCalled)
    nextTask := b.nextTask
    trace := b.trace }

/-- The tasks that have not begun are those of the app that was built. -/
theorem matches_inPlaceOf (a : App) {k : Nat} (hnamed : (b.affairs []).Named)
    (hspent : ∀ t ∈ b.tasks, t.stage.isCalled = false → t.stage.IsSpent k) :
    ((a.inPlaceOf b).affairs []).Matches b.begun k (b.affairs []) := by
  have hnamed' : ((a.inPlaceOf b).affairs []).Named :=
    ⟨hnamed.nodup.sublist (List.filter_sublist.map _),
      fun t ht => hnamed.lt t (List.mem_of_mem_filter ht)⟩
  have hstage : ∀ n s, ((a.inPlaceOf b).affairs []).stage? n = some s ↔
      (b.affairs []).stage? n = some s ∧ s.isCalled = true := by
    intro n s
    have hb := hnamed.mem_tasks_iff (t := ⟨n, s⟩)
    have ha := hnamed'.mem_tasks_iff (t := ⟨n, s⟩)
    rw [← hb, ← ha]
    exact List.mem_filter
  have hbegun : ∀ n, n ∈ b.begun ↔
      ∃ s, (b.affairs []).stage? n = some s ∧ s.isCalled = false := by
    intro n
    simp only [begun, List.mem_map, List.mem_filter, Bool.not_eq_true']
    constructor
    · rintro ⟨t, ⟨ht, hcalled⟩, rfl⟩
      exact ⟨t.stage, hnamed.mem_tasks_iff.mp ht, hcalled⟩
    · rintro ⟨s, hs, hcalled⟩
      obtain ⟨t, ht, rfl, rfl⟩ := Affairs.exists_of_stage? hs
      exact ⟨t, ⟨ht, hcalled⟩, rfl⟩
  refine ⟨fun n hn => ?_, fun n hn => ?_, fun n hn s hs => ?_⟩
  · cases hb : (b.affairs []).stage? n with
    | none =>
      have ha : ((a.inPlaceOf b).affairs []).stage? n = none := by
        refine Option.eq_none_iff_forall_ne_some.mpr fun s hs => ?_
        cases ((hstage n s).mp hs).1.symm.trans hb
      rw [ha]
      exact .none
    | some s =>
      have hcalled : s.isCalled = true := by
        by_contra h
        exact hn ((hbegun n).mpr ⟨s, hb, Bool.not_eq_true _ ▸ h⟩)
      rw [(hstage n s).mpr ⟨hb, hcalled⟩]
      cases s with
      | start o => exact .some (.start o)
      | _ => cases hcalled
  · obtain ⟨s, hs, hcalled⟩ := (hbegun n).mp hn
    refine Option.eq_none_iff_forall_ne_some.mpr fun s' hs' => ?_
    obtain ⟨hs', hcalled'⟩ := (hstage n s').mp hs'
    cases hs.symm.trans hs'
    cases hcalled.symm.trans hcalled'
  · obtain ⟨s', hs', hcalled⟩ := (hbegun n).mp hn
    cases hs.symm.trans hs'
    obtain ⟨t, ht, -, rfl⟩ := Affairs.exists_of_stage? hs
    exact hspent t ht hcalled

/-! ### What stays as it was built -/

/-- What a conversation that starts anew leaves alone, and what it leaves to do. -/
theorem reset_cases (a : App) : a.reset.store = a.store ∧ a.reset.canvas = a.canvas ∧
    a.reset.assembly = a.assembly ∧ a.reset.pipeline = a.pipeline.reset ∧
    ∀ t ∈ a.reset.tasks, t ∈ a.tasks ∨
      t.stage = .wantSave (a.pipeline.generation + 1) {} .quiet := by
  cases hspawn : a.canSpawn with
  | true =>
    simp only [reset, note, observe, hspawn, if_true]
    refine ⟨rfl, rfl, rfl, rfl, fun t ht => ?_⟩
    refine (List.mem_append.mp ht).imp_right fun ht => ?_
    rw [List.mem_singleton.mp ht]
    rfl
  | false =>
    simp only [reset, note, observe, hspawn]
    exact ⟨rfl, rfl, rfl, rfl, fun t ht => .inl ht⟩

/-- What plots, and whether there is something to run tasks in the background, is given once. -/
theorem Leads.gear {e : App × Errands} (hc : Leads (a₀, []) ms e) :
    e.1.plotter = a₀.plotter ∧ e.1.canSpawn = a₀.canSpawn := by
  induction hc with
  | start => exact ⟨rfl, rfl⟩
  | @step ms a b ws vs x hc hx ih =>
    obtain ⟨hplotter, hspawn⟩ := ih
    cases hx with
    | turn t =>
      have h := congrArg (fun c => (c.plotter, c.canSpawn)) (surroundings_enter a t)
      obtain ⟨hplotter', hspawn'⟩ := Prod.mk.inj h
      exact ⟨hplotter'.trans hplotter, hspawn'.trans hspawn⟩
    | errand w =>
      have h := congrArg (fun o => (o.2.1, o.2.2.1)) (outfit_doing a w)
      obtain ⟨hplotter', hspawn'⟩ := Prod.mk.inj h
      exact ⟨hplotter'.trans hplotter, hspawn'.trans hspawn⟩

theorem Leads.writes {e : App × Errands} (hfresh : a₀.IsFresh) (hc : Leads (a₀, []) ms e) :
    (e.1.affairs e.2).Writes := by
  induction hc with
  | start => exact Affairs.writes_of_isFresh hfresh
  | step hc hx ih => exact hx.change.writes (hc.orderly hfresh) ih

/-- While all parts are on the bus the conversation is mounted. -/
theorem IsAssembled.alive (ha : a₀.IsAssembled) (hc : Leads (a₀, []) ms (a, ws))
    (hbus : a.assembly = a₀.assembly) : a.pipeline.alive = true := by
  have henrolled : a₀.Enrolled := by
    intro s hs hl
    rw [ha.fresh.pipeline]
    exact ⟨rfl, ha.enrolled s hs .pipeline hl⟩
  obtain ⟨early, late, -, hls⟩ := ha.listening .newConversation
  have hregistry : a.registry = a₀.registry := congrArg (·.2.1) hbus
  have hmem : Listener.pipeline ∈ (a₀.registry.listening .newConversation).map (·.listener) := by
    rw [hls]
    exact List.mem_append_right _ (List.mem_append_left _ (by decide))
  obtain ⟨s, hs, hl⟩ := List.mem_map.mp hmem
  have hs : s ∈ a.registry.subscriptions := hregistry ▸ List.mem_of_mem_filter hs
  exact (hc.enrolled henrolled s hs hl).1

/-- **An app in which everything has started anew mirrors the one that was built.** -/
theorem IsAssembled.mirrors (ha : a₀.IsAssembled) (hc : Leads (a₀, []) ms (b, []))
    (hbus : b.assembly = a₀.assembly) (hstore : b.store = .empty) (hcanvas : b.canvas = .initial)
    {k : Nat} (hpipeline : b.pipeline = ({} : Pipeline).ahead k)
    (hspent : ∀ t ∈ b.tasks, t.stage.isCalled = false → t.stage.IsSpent k) :
    Mirrors b.begun k (a₀.inPlaceOf b) b := by
  have hnamed : (b.affairs []).Named := (hc.orderly ha.fresh).named
  have hsaved : b.savedGeneration ≤ k := by
    have hle : b.savedGeneration ≤ b.pipeline.generation := (hc.dated ha.fresh).saved
    rw [hpipeline] at hle
    exact Nat.le_trans hle (Nat.le_of_eq (Nat.zero_add k))
  have hwrites := hc.writes ha.fresh
  have hbegun : ∀ n s, (b.affairs []).stage? n = some s → s.isWriting = true → n ∈ b.begun := by
    intro n s hs hw
    obtain ⟨t, ht, rfl, rfl⟩ := Affairs.exists_of_stage? hs
    refine List.mem_map_of_mem (List.mem_filter.mpr ⟨ht, ?_⟩)
    cases hstage : t.stage <;> rw [hstage] at hw <;> first | rfl | cases hw
  refine ⟨?_, ⟨hpipeline.trans ?_, matches_inPlaceOf a₀ hnamed hspent, rfl, fun n hn => ?_, ?_,
    fun n s hs hw => ?_, Nat.le_trans hsaved (Nat.le_add_left _ _), .inl ha.fresh.savedGeneration,
    fun _ _ _ => ha.fresh.savedGeneration⟩, rfl⟩
  · obtain ⟨hplotter, hspawn⟩ := hc.gear
    simp only [assembly, Prod.mk.injEq] at hbus
    obtain ⟨hprofile, hregistry, hmemberships⟩ := hbus
    simp only [hosting, inPlaceOf, ha.store, ha.canvas, ← hstore, ← hcanvas, ← hprofile, ← hplotter,
      ← hspawn, ← hregistry, ← hmemberships]
  · rw [← ha.fresh.pipeline]
    rfl
  · obtain ⟨t, ht, rfl⟩ := List.mem_map.mp hn
    exact hnamed.lt t (List.mem_of_mem_filter ht)
  · have hnone : ((a₀.inPlaceOf b).affairs []).saving = none := ha.fresh.saving
    rw [hnone]
    cases hsaving : (b.affairs []).saving with
    | none => rfl
    | some n =>
      obtain ⟨s, hs, hw⟩ := (Option.any_eq_true ..).mp ((hwrites n).mp hsaving)
      have hn : n ∈ b.begun := hbegun n s hs hw
      exact (if_neg (by simpa using hn)).symm
  · refine (hwrites n).mpr ?_
    rw [Affairs.IsWriting, hs]
    exact hw

/-! ### A new conversation is a new app -/

/-- **What a new conversation makes of an assembled app.** Nothing of the old one is left but its
tasks, and one that is to clear the saved session. -/
theorem IsAssembled.turn_newConversation (ha : a₀.IsAssembled) (hc : Leads (a₀, []) ms (a, []))
    (hbus : a.assembly = a₀.assembly) (hpassive : ∀ s ∈ a.registry.subscriptions,
      s.topic = .newConversation ∨ s.topic = .canvasStateChanged → a.isPassive s.listener = true) :
    let b := a.turn (.tell (.announce .newConversation))
    let k := a.pipeline.generation + 1
    Settles a [.act (.command none (.announce .newConversation))]
        (⟨appSource, .newConversation⟩ ::
          if a.canvas.isOpen then [⟨canvasSource, .canvasStateChanged false⟩] else []) b ∧
      (b.store = .empty ∧ b.canvas = .initial ∧ b.assembly = a.assembly ∧
        b.pipeline = ({} : Pipeline).ahead k) ∧
      ∀ t ∈ b.tasks, t ∈ a.tasks ∨ t.stage = .wantSave k {} .quiet := by
  intro b k
  have hyields := (ha.yields_newConversation appSource hbus hpassive).announce none
  obtain ⟨tr, hsettles⟩ := hyields a.trace
  have hb : b = { reset { a with store := .empty, canvas := .initial } with trace := tr } :=
    hsettles.settle_eq
  obtain ⟨hstore, hcanvas, hassembly, hpipeline, htasks⟩ :=
    reset_cases { a with store := .empty, canvas := .initial }
  have hreset : a.pipeline.reset = ({} : Pipeline).ahead k := by
    simp only [Pipeline.reset, Pipeline.ahead, ha.alive hc hbus, Nat.zero_add, k]
  rw [hb]
  exact ⟨hsettles, ⟨hstore, hcanvas, hassembly, hpipeline.trans hreset⟩, htasks⟩

/-- **A new conversation is a new app.** A new conversation is announced in an app with all its
parts on the bus, while nothing is being delivered and no task is still to load a conversation in a
generation of its own. Questions and loads may be under way, sessions may be being saved, and others
may listen, as long as they command nothing when a new conversation or the canvas is announced.

* The store is empty then, the canvas is hidden, and the conversation is as it was in the beginning,
  some generations ahead. What is published is the new conversation and, if the canvas was open,
  that it is not any more.
* From then on whatever happens happens as in the app that was built: those who listen and those who
  give commands are told the same, and every operation that had not begun comes to the same outcome.
  The two have the same in the store, on the canvas and in the transcript, and their tasks are at
  the same stages, whatever comes of those that are left over. Only a turn in which a task finds
  that one of these is still saving its session is not counted. -/
theorem Leads.newConversation (ha : a₀.IsAssembled) (hc : Leads (a₀, []) ms (a, []))
    (hbus : a.assembly = a₀.assembly) (hprompt : ∀ t ∈ a.tasks, t.stage.isPostponed = false)
    (hpassive : ∀ s ∈ a.registry.subscriptions,
      s.topic = .newConversation ∨ s.topic = .canvasStateChanged → a.isPassive s.listener = true) :
    let b := a.turn (.tell (.announce .newConversation))
    let k := a.pipeline.generation + 1
    (b.store = .empty ∧ b.canvas = .initial ∧ b.pipeline = ({} : Pipeline).ahead k) ∧
      Settles a [.act (.command none (.announce .newConversation))]
        (⟨appSource, .newConversation⟩ ::
          if a.canvas.isOpen then [⟨canvasSource, .canvasStateChanged false⟩] else []) b ∧
      (∀ n ∈ b.begun, n < b.nextTask) ∧
      ∀ us, b.run (b.heeded us) = b.run us ∧
        let c := (a₀.inPlaceOf b).run (b.heeded us)
        (b.run us).told b.begun = c.told b.begun ∧ (b.run us).store = c.store ∧
          (b.run us).canvas = c.canvas ∧ (b.run us).pipeline = c.pipeline.ahead k ∧
          ∀ n ∉ b.begun, Option.Rel (Stage.Mirrors k) (c.stage? n) ((b.run us).stage? n) := by
  intro b k
  obtain ⟨hsettles, ⟨hstore, hcanvas, hassembly, hpipeline⟩, htasks⟩ :=
    ha.turn_newConversation hc hbus hpassive
  have hspent : ∀ t ∈ b.tasks, t.stage.isCalled = false → t.stage.IsSpent k := by
    intro t ht hcalled
    rcases htasks t ht with hold | hnew
    · refine Stage.isSpent_of_dated hcalled (hprompt t hold) fun g hg => ?_
      refine (hc.dated ha.fresh).tasks t.name g ?_
      have hs := (hc.orderly ha.fresh).named.mem_tasks_iff.mp hold
      rw [Affairs.see, hs]
      exact hg
    · rw [hnew]
      exact Nat.le_refl k
  obtain ⟨during, hduring, -⟩ :=
    exists_leads_settle a [.act (.command none (.announce .newConversation))]
  have hcb := (hc.turn (.tell (.announce .newConversation))).append hduring
  have hmirrors := ha.mirrors hcb (hassembly.trans hbus) hstore hcanvas hpipeline hspent
  refine ⟨⟨hstore, hcanvas, hpipeline⟩, hsettles, hmirrors.affairs.earlier, fun us => ?_⟩
  have h := hmirrors.run us
  exact ⟨b.run_heeded us, h.told, h.field App.store fun _ _ => rfl,
    h.field App.canvas fun _ _ => rfl, h.pipeline, h.affairs.tasks.stages⟩

/-- A question is under way, and an artifact is shown, when a new conversation begins. The reply to
the question comes after that, and one with another artifact to a new question; somebody who listens
toggles the canvas. The app has in its store what the app that was built has there, and shows it. -/
theorem newConversation_of_question :
    let reply (id : String) : Answer := .reply (.ok {
      message := some (.string "x")
      artifacts := some (.array [.object [("id", .string id)]]) })
    let a₀ := blank.assemble [(.canvasStateChanged, [])] [(.messageReceived, [[.toggle]])] ""
    let a := a₀.run [.publish ⟨"test", .artifactsReceived [⟨"a", "", "", .null, none, default⟩]⟩,
      .call (.send "hi"), .advance 0, .advance 0]
    let b := a.turn (.tell (.announce .newConversation))
    let us : List Turn := [.answer 0 (reply "b"), .call (.send "ho"), .advance 2, .advance 2,
      .answer 2 (reply "c")]
    let c := (a₀.inPlaceOf b).run (b.heeded us)
    (a₀.IsAssembled ∧ (∃ ms, Leads (a₀, []) ms (a, [])) ∧ a.assembly = a₀.assembly ∧
        (∀ t ∈ a.tasks, t.stage.isPostponed = false) ∧ ∀ s ∈ a.registry.subscriptions,
          s.topic = .newConversation ∨ s.topic = .canvasStateChanged →
            a.isPassive s.listener = true) ∧
      (a.store.ids = ["a"] ∧ a.canvas.isOpen = true) ∧ (b.store = .empty ∧ b.canvas = .initial) ∧
      ((b.run us).store = c.store ∧ (b.run us).canvas = c.canvas) ∧
        c.store.ids = ["c"] ∧ c.canvas.isOpen = true := by
  intro reply a₀ a b us c
  have ha : a₀.IsAssembled := isAssembled_assemble isBare_blank _ _ ""
  obtain ⟨ms, hc⟩ : ∃ ms, Leads (a₀, []) ms (a, []) := (reached_run a₀ _).exists_leads
  have hbus : a.assembly = a₀.assembly := by decide +kernel
  have hprompt : ∀ t ∈ a.tasks, t.stage.isPostponed = false := by decide +kernel
  have hpassive : ∀ s ∈ a.registry.subscriptions,
      s.topic = .newConversation ∨ s.topic = .canvasStateChanged →
        a.isPassive s.listener = true := by
    decide +kernel
  have hbefore : a.store.ids = ["a"] ∧ a.canvas.isOpen = true := by decide +kernel
  have hbuilt : c.store.ids = ["c"] ∧ c.canvas.isOpen = true := by decide +kernel
  obtain ⟨⟨hstore, hcanvas, -⟩, -, -, hruns⟩ := hc.newConversation ha hbus hprompt hpassive
  obtain ⟨-, -, hstores, hcanvases, -⟩ := hruns us
  exact ⟨⟨ha, ⟨ms, hc⟩, hbus, hprompt, hpassive⟩, hbefore, ⟨hstore, hcanvas⟩,
    ⟨hstores, hcanvases⟩, hbuilt⟩

/-- **A new conversation is handed what an old one brings.** The message of a reply has just been
handed to somebody who listens when a new conversation is announced. Nothing of the old one is left
then, and the app that was built has nothing in its store; but the rest of the delivery brings the
artifact of the reply, and opens the canvas. -/
theorem stored_of_newConversation :
    let reply : Reply := {
      message := some (.string "x")
      artifacts := some (.array [.object [("id", .string "a")]]) }
    let a₀ := blank.assemble [] [(.messageReceived, [])] ""
    let a₁ := a₀.run [.call (.send "hi"), .advance 0, .advance 0]
    let y := stroll 2 (.answer 0 (.reply (.ok reply))) ([], a₁, [])
    let b := y.2.1.turn (.tell (.announce .newConversation))
    ((∃ ms, Walks (a₀, []) ms y.2) ∧ Outside y.2.2) ∧
      (a₀.IsAssembled ∧ y.2.1.assembly = a₀.assembly ∧
        (∀ t ∈ y.2.1.tasks, t.stage.isPostponed = false) ∧
        ∀ s ∈ y.2.1.registry.subscriptions, y.2.1.isPassive s.listener = true) ∧
      (b.store.ids = [] ∧ b.canvas = .initial ∧ b.pipeline.transcript = .empty) ∧
      ((a₀.inPlaceOf b).store.ids = [] ∧ (a₀.inPlaceOf b).canvas = .initial) ∧
      (b.settle y.2.2).store.ids = ["a"] ∧ (b.settle y.2.2).canvas.isOpen = true := by
  intro reply a₀ a₁ y b
  have ha : a₀.IsAssembled := isAssembled_assemble isBare_blank _ _ ""
  obtain ⟨ms, hwalks⟩ : ∃ ms, Walks (a₀, []) ms (a₁, []) := exists_walks_run a₀ _
  have hhanded : Walks (a₁, []) y.1 y.2 := Walks.start.stroll (x := ([], a₁, [])) .nil _ 2
  have hmounted : y.2.1.assembly = a₀.assembly ∧
      (∀ t ∈ y.2.1.tasks, t.stage.isPostponed = false) ∧
      ∀ s ∈ y.2.1.registry.subscriptions, y.2.1.isPassive s.listener = true := by
    decide +kernel
  have hundelivered : (y.2.2.all fun | .deliver _ _ => false | .publish _ | .act _ => true) =
      true := by
    decide +kernel
  have houtside : Outside y.2.2 := by
    clear_value y
    intro s e hnext
    cases List.all_eq_true.mp hundelivered _ (List.mem_of_head? hnext)
  refine ⟨⟨⟨_, hwalks.append hhanded⟩, houtside⟩, ⟨ha, hmounted⟩, ?_, ?_, ?_⟩
  · decide +kernel
  · decide +kernel
  · decide +kernel

end App

end Parley
