import Parley.App.Act
import Parley.Proofs.Bus.Delivery

/-!
# An app gets everything done

`Parley.App.settle` does what there is to do, and gives up after as many things as
`Parley.App.workBound` says. It never gives up: `Parley.App.run_settle` is the statement that
nothing is left to do then, whoever listens, whatever the observers command and wherever in a
delivery one starts.

Two facts carry it. A delivery publishes at most one further event, and only the canvas does,
about its own opening; that event makes nobody but observers act. And the commands of observers
are used up: what an observer is still to command is counted in the app until it is put on the
list of things to do, and never in both places. So the list can be weighed
(`Parley.App.burden`) such that everything that is done takes more weight off than it puts on.
-/

namespace Parley

namespace App

/-! ### Who listens and what they may command

Only ending subscriptions touches the registry, and only handing an event to an observer touches
the observers. -/

@[simp] theorem observers_note (a : App) (n : Note) : (a.note n).observers = a.observers := rfl

@[simp] theorem registry_note (a : App) (n : Note) : (a.note n).registry = a.registry := rfl

@[simp] theorem observers_notes (a : App) (ns : List Note) :
    (a.notes ns).observers = a.observers := by
  induction ns generalizing a with
  | nil => rfl
  | cons n ns ih => exact ih (a.note n)

@[simp] theorem registry_notes (a : App) (ns : List Note) :
    (a.notes ns).registry = a.registry := by
  induction ns generalizing a with
  | nil => rfl
  | cons n ns ih => exact ih (a.note n)

/-- The number of live subscriptions. -/
def listeners (a : App) : Nat := a.registry.subscriptions.length

theorem observers_unsubscribe (a : App) (id : Nat) :
    (a.unsubscribe id).observers = a.observers := by
  unfold unsubscribe
  split <;> rfl

theorem sublist_unsubscribe (a : App) (id : Nat) :
    (a.unsubscribe id).registry.subscriptions.Sublist a.registry.subscriptions := by
  unfold unsubscribe
  split
  · exact List.filter_sublist
  · exact .refl _

theorem observers_dismissPart (a : App) (part : Part) :
    (a.dismissPart part).observers = a.observers := by
  have h : ∀ (ids : List Nat) (b : App), (ids.foldl unsubscribe b).observers = b.observers := by
    intro ids
    induction ids with
    | nil => exact fun _ => rfl
    | cons id ids ih => exact fun b => (ih _).trans (observers_unsubscribe b id)
  exact h _ _

theorem sublist_dismissPart (a : App) (part : Part) :
    (a.dismissPart part).registry.subscriptions.Sublist a.registry.subscriptions := by
  have h : ∀ (ids : List Nat) (b : App),
      (ids.foldl unsubscribe b).registry.subscriptions.Sublist b.registry.subscriptions := by
    intro ids
    induction ids with
    | nil => exact fun _ => .refl _
    | cons id ids ih => exact fun b => (ih _).trans (sublist_unsubscribe b id)
  exact h _ _

theorem observers_unmount (a : App) (part : Part) :
    (a.unmount part).observers = a.observers := by
  cases part <;> simp [unmount, observers_dismissPart]

theorem sublist_unmount (a : App) (part : Part) :
    (a.unmount part).registry.subscriptions.Sublist a.registry.subscriptions := by
  cases part <;> exact sublist_dismissPart _ _

theorem observers_reset (a : App) : a.reset.observers = a.observers := by
  unfold reset
  dsimp only
  split <;> rfl

theorem registry_reset (a : App) : a.reset.registry = a.registry := by
  unfold reset
  dsimp only
  split <;> rfl

theorem observers_spawnLoad (a : App) (id : Int) : (a.spawnLoad id).observers = a.observers := by
  unfold spawnLoad
  split <;> rfl

theorem registry_spawnLoad (a : App) (id : Int) : (a.spawnLoad id).registry = a.registry := by
  unfold spawnLoad
  split <;> rfl

/-! ### What commands and reactions put on the list -/

/-- The canvas publishes at most that it was opened or hidden. -/
theorem changeCanvas_errands (a : App) (f : Canvas → Canvas) :
    (a.changeCanvas f).2 = [] ∨
      ∃ b, (a.changeCanvas f).2 = [.publish ⟨canvasSource, .canvasStateChanged b⟩] := by
  unfold changeCanvas
  dsimp only
  split
  · exact Or.inr ⟨_, rfl⟩
  · exact Or.inl rfl

@[simp] theorem observers_changeCanvas (a : App) (f : Canvas → Canvas) :
    (a.changeCanvas f).1.observers = a.observers := by
  simp [changeCanvas]

@[simp] theorem registry_changeCanvas (a : App) (f : Canvas → Canvas) :
    (a.changeCanvas f).1.registry = a.registry := by
  simp [changeCanvas]

theorem openArtifact_errands (a : App) (id : String) :
    (a.openArtifact id).2.1 = [] ∨ ∃ e, (a.openArtifact id).2.1 = [.publish e] := by
  unfold openArtifact
  split
  · rcases changeCanvas_errands a (·.select _) with h | ⟨b, h⟩
    · exact Or.inl h
    · exact Or.inr ⟨_, h⟩
  · exact Or.inl rfl

@[simp] theorem observers_openArtifact (a : App) (id : String) :
    (a.openArtifact id).1.observers = a.observers := by
  unfold openArtifact
  split <;> simp

@[simp] theorem registry_openArtifact (a : App) (id : String) :
    (a.openArtifact id).1.registry = a.registry := by
  unfold openArtifact
  split <;> simp

@[simp] theorem observers_ingest (a : App) (batch : List Artifact) :
    (a.ingest batch).1.observers = a.observers := by
  simp [ingest]

@[simp] theorem registry_ingest (a : App) (batch : List Artifact) :
    (a.ingest batch).1.registry = a.registry := by
  simp [ingest]

@[simp] theorem observers_clearStore (a : App) : a.clearStore.observers = a.observers := by
  simp [clearStore]

@[simp] theorem registry_clearStore (a : App) : a.clearStore.registry = a.registry := by
  simp [clearStore]

/-- **What a command puts on the list**: at most one event, to be published. -/
theorem command_errands (a : App) (c : Command) :
    (a.command c).2.1 = [] ∨ ∃ e, (a.command c).2.1 = [.publish e] := by
  have hcanvas : ∀ f, (command.change a f).2.1 = [] ∨
      ∃ e, (command.change a f).2.1 = [.publish e] := by
    intro f
    rcases changeCanvas_errands a f with h | ⟨b, h⟩
    · exact Or.inl h
    · exact Or.inr ⟨_, h⟩
  cases c
  case emit | announce => exact Or.inr ⟨_, rfl⟩
  case toggle | cycle | hide | deselect => exact hcanvas _
  case openId | openAt => exact openArtifact_errands a _
  case picture =>
    simp only [command]
    split <;> exact Or.inl rfl
  all_goals exact Or.inl rfl

theorem observers_command (a : App) (c : Command) :
    (a.command c).1.observers = a.observers := by
  cases c
  case toggle | cycle | hide | deselect => exact observers_changeCanvas a _
  case openId | openAt => exact observers_openArtifact a _
  case reset => exact observers_reset a
  case ingest batch => exact observers_ingest _ _
  case clearStore => exact observers_clearStore a
  case unmount part => exact observers_unmount a part
  case shutdown => simp [command, observers_unmount]
  case picture =>
    simp only [command]
    split <;> simp
  all_goals rfl

/-- A command makes nobody listen who did not before. -/
theorem sublist_command (a : App) (c : Command) :
    (a.command c).1.registry.subscriptions.Sublist a.registry.subscriptions := by
  cases c
  case toggle | cycle | hide | deselect => simp [command, command.change]
  case openId | openAt => simp [command]
  case reset => simp [command, registry_reset]
  case ingest => simp [command]
  case clearStore => simp [command]
  case unmount part => exact sublist_unmount a part
  case shutdown =>
    exact (sublist_unmount _ _).trans ((sublist_unmount _ _).trans (sublist_unmount _ _))
  case picture =>
    simp only [command]
    split <;> simp
  all_goals exact .refl _

/-! ### The weight of what is left to do

Weights are taken at a number `h` that the live subscriptions never exceed, so that they do not
change when a subscription ends. -/

/-- What doing a thing can come to, with at most `h` live subscriptions. -/
def weight (h : Nat) : Work Listener Act → Nat
  | .publish e => if e.topic = .canvasStateChanged then h + 1 else h * (h + 2) + 1
  | .deliver _ e => if e.topic = .canvasStateChanged then 1 else h + 2
  | .act (.command _ _) => h * (h + 2) + 3
  | .act _ => 1

/-- What everything that is left to do can come to, the commands of observers included. -/
def burden (h : Nat) (c : App × Errands) : Nat :=
  c.1.commandsLeft * (h * (h + 2) + 3) + Numeral.total (c.2.map (weight h))

theorem total_map_set {α : Type} (f : α → Nat) {xs : List α} {n : Nat} {x : α}
    (hx : xs[n]? = some x) (y : α) :
    Numeral.total ((xs.set n y).map f) + f x = Numeral.total (xs.map f) + f y := by
  induction xs generalizing n with
  | nil => simp at hx
  | cons z zs ih =>
    cases n with
    | zero =>
      obtain rfl : z = x := by simpa using hx
      simp only [List.set_cons_zero, List.map_cons, Numeral.total_cons]
      omega
    | succ n =>
      have h := ih (by simpa using hx)
      simp only [List.set_cons_succ, List.map_cons, Numeral.total_cons]
      omega

theorem commandsLeft_congr {a b : App} (h : a.observers = b.observers) :
    a.commandsLeft = b.commandsLeft := by
  rw [commandsLeft, commandsLeft, h]

theorem weight_le (h : Nat) (w : Work Listener Act) : weight h w ≤ h * (h + 2) + 3 := by
  have hmul : h ≤ h * (h + 2) := Nat.le_mul_of_pos_right h (by omega)
  unfold weight
  split
  · split <;> omega
  · split <;> omega
  · exact Nat.le_refl _
  · omega

theorem total_weight_le (h : Nat) (ws : Errands) :
    Numeral.total (ws.map (weight h)) ≤ ws.length * (h * (h + 2) + 3) := by
  induction ws with
  | nil => simp
  | cons w ws ih =>
    have hw := weight_le h w
    simp only [List.map_cons, Numeral.total_cons, List.length_cons, Nat.add_mul, Nat.one_mul]
    omega

/-- What one event that is published can come to. -/
theorem weight_publish_le (h : Nat) (e : Event) :
    weight h (.publish e) ≤ h * (h + 2) + 1 := by
  have hmul : h ≤ h * (h + 2) := Nat.le_mul_of_pos_right h (by omega)
  simp only [weight]
  split <;> omega

/-- Publishing puts on the list less than it takes off. -/
theorem total_deliver_lt {h : Nat} {ls : List (Subscription Listener)} (hls : ls.length ≤ h)
    (e : Event) :
    Numeral.total ((ls.map (Work.deliver (ω := Act) · e)).map (weight h)) <
      weight h (.publish e) := by
  have hmap : Numeral.total ((ls.map (Work.deliver (ω := Act) · e)).map (weight h)) =
      ls.length * (if e.topic = .canvasStateChanged then 1 else h + 2) := by
    rw [List.map_map, ← Numeral.total_map_const]
    rfl
  rw [hmap]
  simp only [weight]
  split
  · omega
  · have := Nat.mul_le_mul_right (h + 2) hls
    omega

theorem weight_deliver_pos (h : Nat) (l : Subscription Listener) (e : Event) :
    0 < weight h (.deliver l e) := by
  simp only [weight]
  split <;> omega

/-- The event of the canvas weighs less than handing on any other. -/
theorem weight_canvasEvent_lt {h : Nat} {e : Event} (he : e.topic ≠ .canvasStateChanged)
    (l : Subscription Listener) (b : Bool) :
    weight h (.publish ⟨canvasSource, .canvasStateChanged b⟩) < weight h (.deliver l e) := by
  have h₁ : weight h (.publish ⟨canvasSource, .canvasStateChanged b⟩) = h + 1 := rfl
  have h₂ : weight h (.deliver l e) = h + 2 := if_neg he
  omega

/-- A step that leaves subscriptions and observers alone takes weight off the list if what it
puts there weighs less than what it does. -/
theorem burden_lt_of_weight_lt {h : Nat} {a b : App} {w : Work Listener Act} {next : Errands}
    (hobs : b.observers = a.observers)
    (hnext : Numeral.total (next.map (weight h)) < weight h w) (ws : Errands) :
    burden h (b, next ++ ws) < burden h (a, w :: ws) := by
  simp only [burden, commandsLeft_congr hobs, List.map_append, Numeral.total_append,
    List.map_cons, Numeral.total_cons]
  omega

/-- A step that puts nothing on the list takes weight off it. -/
theorem burden_quiet_lt {h : Nat} {a b : App} {w : Work Listener Act}
    (hobs : b.observers = a.observers) (hw : 0 < weight h w) (ws : Errands) :
    burden h (b, [] ++ ws) < burden h (a, w :: ws) :=
  burden_lt_of_weight_lt hobs (show Numeral.total (([] : Errands).map (weight h)) < _ from hw) ws

/-- An observer takes its next script: it commands what was counted before. -/
theorem burden_script_lt {h : Nat} {a : App} {n : Nat} {script : List Command}
    {more : List (List Command)} (hn : a.observers[n]? = some ⟨script :: more⟩)
    {w : Work Listener Act} (hw : 0 < weight h w) (o : Observation) (ws : Errands) :
    burden h ({ a.observe o with observers := a.observers.set n ⟨more⟩ },
        script.map (fun c => .act (.command (some n) c)) ++ ws) <
      burden h (a, w :: ws) := by
  have hset := total_map_set (fun o : Observer => Numeral.total (o.scripts.map List.length)) hn
    ⟨more⟩
  have hcommands : Numeral.total ((script.map fun c => Work.act (Act.command (some n) c)).map
      (weight h)) = script.length * (h * (h + 2) + 3) := by
    rw [List.map_map, ← Numeral.total_map_const]
    rfl
  -- the commands of the script are counted on the list now, and no longer in the observer
  have hleft : App.commandsLeft { a.observe o with observers := a.observers.set n ⟨more⟩ } +
      script.length = a.commandsLeft := by
    simp only [List.map_cons, Numeral.total_cons] at hset
    simp only [commandsLeft]
    omega
  simp only [burden, List.map_append, Numeral.total_append, List.map_cons, Numeral.total_cons,
    hcommands, ← hleft, Nat.add_mul]
  omega

/-- **Handing an event on takes weight off the list.** -/
theorem burden_react_lt {h : Nat} (a : App) (l : Subscription Listener) (e : Event) (ws : Errands) :
    (a.react l.listener e).1.listeners = a.listeners ∧
      burden h ((a.react l.listener e).1, (a.react l.listener e).2 ++ ws) <
        burden h (a, .deliver l e :: ws) := by
  have hquiet : ∀ b : App, b.observers = a.observers → b.registry = a.registry →
      b.listeners = a.listeners ∧ burden h (b, [] ++ ws) < burden h (a, .deliver l e :: ws) :=
    fun b hobs hreg => ⟨congrArg (·.subscriptions.length) hreg,
      burden_quiet_lt hobs (weight_deliver_pos h l e) ws⟩
  have hcanvas : ∀ f, e.topic ≠ .canvasStateChanged →
      (a.changeCanvas f).1.listeners = a.listeners ∧
        burden h ((a.changeCanvas f).1, (a.changeCanvas f).2 ++ ws) <
          burden h (a, .deliver l e :: ws) := by
    intro f he
    refine ⟨congrArg (·.subscriptions.length) (registry_changeCanvas a f),
      burden_lt_of_weight_lt (observers_changeCanvas a f) ?_ ws⟩
    rcases changeCanvas_errands a f with hf | ⟨b, hf⟩
    · rw [hf]
      exact weight_deliver_pos h l e
    · rw [hf]
      exact weight_canvasEvent_lt he l b
  obtain ⟨id, topic, listener⟩ := l
  obtain ⟨source, signal⟩ := e
  cases listener with
  | store =>
    cases signal with
    | artifactsReceived batch => exact hquiet _ (observers_ingest a batch) (registry_ingest a batch)
    | newConversation => exact hquiet _ (observers_clearStore a) (registry_clearStore a)
    | _ => exact hquiet a rfl rfl
  | canvas =>
    cases signal with
    | artifactsReceived batch =>
      simp only [react]
      split
      · exact hquiet a rfl rfl
      · exact hcanvas _ (by simp [Event.topic, Signal.topic])
    | toggleCanvas => exact hcanvas _ (by simp [Event.topic, Signal.topic])
    | newConversation => exact hcanvas _ (by simp [Event.topic, Signal.topic])
    | _ => exact hquiet a rfl rfl
  | pipeline =>
    cases signal with
    | newConversation => exact hquiet _ (observers_reset a) (registry_reset a)
    | conversationSelected id => exact hquiet _ (observers_spawnLoad a id) (registry_spawnLoad a id)
    | _ => exact hquiet a rfl rfl
  | observer n =>
    simp only [react]
    split
    · rename_i script more hn
      exact ⟨rfl, burden_script_lt hn (weight_deliver_pos h _ _) (.heard n ⟨source, signal⟩) ws⟩
    · exact hquiet _ rfl rfl

/-- **A command takes weight off the list**, and so does everything else that is done. -/
theorem burden_perform_lt {h : Nat} (a : App) (w : Act) (ws : Errands) :
    (a.perform w).1.listeners ≤ a.listeners ∧
      burden h ((a.perform w).1, (a.perform w).2 ++ ws) < burden h (a, .act w :: ws) := by
  cases w with
  | command who c =>
    have hperform : (a.perform (.command who c)).2 =
        (a.command c).2.1 ++ [.act (.give who (a.command c).2.2)] := rfl
    refine ⟨(sublist_command a c).length_le, burden_lt_of_weight_lt (observers_command a c) ?_ ws⟩
    have hgive : weight h (.act (.give who (a.command c).2.2)) = 1 := rfl
    have hcommand : weight h (.act (.command who c)) = h * (h + 2) + 3 := rfl
    -- besides what it gives back, a command leaves at most one event to publish
    rcases command_errands a c with hc | ⟨e, hc⟩
    · rw [hperform, hc, hcommand]
      simp only [List.nil_append, List.map_cons, List.map_nil, Numeral.total_cons,
        Numeral.total_nil, hgive]
      omega
    · have he := weight_publish_le h e
      rw [hperform, hc, hcommand]
      simp only [List.cons_append, List.nil_append, List.map_cons, List.map_nil,
        Numeral.total_cons, Numeral.total_nil, hgive]
      omega
  | give who r =>
    have hw : 0 < weight h (.act (.give who r)) := Nat.one_pos
    exact ⟨Nat.le_refl _, burden_quiet_lt rfl hw ws⟩
  | note n =>
    have hw : 0 < weight h (.act (.note n)) := Nat.one_pos
    exact ⟨Nat.le_refl _, burden_quiet_lt rfl hw ws⟩
  | conclude task generation adopted =>
    have hw : 0 < weight h (.act (.conclude task generation adopted)) := Nat.one_pos
    cases adopted <;> exact ⟨Nat.le_refl _, burden_quiet_lt rfl hw ws⟩

/-- **Everything that is done takes weight off the list.** -/
theorem burden_step_lt {h : Nat} (a : App) (w : Work Listener Act) (ws : Errands)
    (hh : a.listeners ≤ h) :
    (delivery.step (a, w :: ws)).1.listeners ≤ h ∧
      burden h (delivery.step (a, w :: ws)) < burden h (a, w :: ws) := by
  cases w with
  | publish e =>
    refine ⟨hh, burden_lt_of_weight_lt rfl (total_deliver_lt ?_ e) ws⟩
    exact Nat.le_trans (List.length_filter_le _ _) hh
  | deliver l e =>
    obtain ⟨heq, hlt⟩ := burden_react_lt (h := h) a l e ws
    exact ⟨Nat.le_trans (Nat.le_of_eq heq) hh, hlt⟩
  | act w =>
    obtain ⟨hle, hlt⟩ := burden_perform_lt (h := h) a w ws
    exact ⟨Nat.le_trans hle hh, hlt⟩

/-! ### The bound suffices -/

theorem burden_le_workBound (a : App) (ws : Errands) :
    burden a.listeners (a, ws) ≤ a.workBound ws := by
  have hws := total_weight_le a.listeners ws
  have hsq : a.listeners * (a.listeners + 2) + 3 ≤
      (a.listeners + 2) * (a.listeners + 2) + 8 := by
    have := Nat.mul_le_mul_right (a.listeners + 2) (Nat.le_add_right a.listeners 2)
    omega
  calc burden a.listeners (a, ws)
      ≤ a.commandsLeft * (a.listeners * (a.listeners + 2) + 3) +
          ws.length * (a.listeners * (a.listeners + 2) + 3) := Nat.add_le_add_left hws _
    _ = (ws.length + a.commandsLeft) * (a.listeners * (a.listeners + 2) + 3) := by
        rw [Nat.add_comm, ← Nat.add_mul]
    _ ≤ a.workBound ws := Nat.mul_le_mul_left _ hsq

/-- **An app gets everything done**: the bound on the things that are done is never met. -/
theorem run_settle (a : App) (ws : Errands) :
    delivery.run (a.workBound ws) (a, ws) = (a.settle ws, []) :=
  Prod.ext rfl (delivery.run_snd_eq_nil (burden a.listeners)
    (fun b w ws hb => burden_step_lt b w ws hb) _ (Nat.le_refl _) (burden_le_workBound a ws))

@[simp] theorem settle_nil (a : App) : a.settle [] = a := by
  simp [settle]

/-- Doing the first thing at once or within the rest comes to the same. -/
theorem settle_cons (a : App) (w : Work Listener Act) (ws : Errands) :
    a.settle (w :: ws) =
      (delivery.step (a, w :: ws)).1.settle (delivery.step (a, w :: ws)).2 := by
  obtain ⟨b, vs, hstep⟩ : ∃ b vs, delivery.step (a, w :: ws) = (b, vs) := ⟨_, _, rfl⟩
  have hone : delivery.run (b.workBound vs + 1) (a, w :: ws) = (b.settle vs, []) := by
    rw [Delivery.run_succ_cons, hstep, run_settle]
  have hall := run_settle a (w :: ws)
  -- both bounds are long enough, so they come to what the longer of them comes to
  have hmax := Delivery.run_eq_of_snd_eq_nil delivery
    (Nat.le_max_left (a.workBound (w :: ws)) (b.workBound vs + 1)) (congrArg Prod.snd hall)
  have hmax' := Delivery.run_eq_of_snd_eq_nil delivery
    (Nat.le_max_right (a.workBound (w :: ws)) (b.workBound vs + 1)) (congrArg Prod.snd hone)
  have hrun : (a.settle (w :: ws), ([] : Errands)) = (b.settle vs, []) :=
    (hall.symm.trans (hmax.symm.trans hmax')).trans hone
  rw [hstep]
  exact (Prod.mk.inj hrun).1

/-- A note is all that comes of it. -/
theorem settle_note (a : App) (x : Note) : a.settle [.act (.note x)] = a.note x := by
  rw [settle_cons]
  exact settle_nil _

end App

end Parley
