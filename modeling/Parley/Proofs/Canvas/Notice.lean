import Parley.Proofs.App.Control
import Parley.Proofs.Canvas.Selection

/-!
# What the canvas announces

The canvas is opened and hidden in many ways, and announces it each time it goes from one to the
other. That is the next thing done after the change, so what was announced last is what the canvas
is, whenever there is nothing of the kind about to be published
(`Parley.Told`); and since the canvas can only become what it is not, the announcements
alternate (`Parley.Alternates`). This does not depend on what listeners do.

It is another matter whether the canvas still is what was announced when somebody comes to hear of it.
It is as long as listeners leave it alone (`Parley.Moment.meddles`): what is done on account of an
announcement then changes nothing while it is on its way (`Parley.Hushed`).
-/

namespace Parley

/-! ### Notices -/

/-- With this event the canvas announces whether it is open. -/
def Canvas.notice (isOpen : Bool) : Event := ⟨App.canvasSource, .canvasStateChanged isOpen⟩

/-- What the canvas announces by an event. -/
def Event.notice? (e : Event) : Option Bool :=
  match e.signal with
  | .canvasStateChanged isOpen => if e.source = App.canvasSource then some isOpen else none
  | _ => none

theorem Event.notice?_eq_some {e : Event} {v : Bool} : e.notice? = some v ↔ e = Canvas.notice v := by
  obtain ⟨source, signal⟩ := e
  cases signal <;> simp [Event.notice?, Canvas.notice, and_comm]

@[simp] theorem Canvas.notice?_notice (v : Bool) : (Canvas.notice v).notice? = some v :=
  Event.notice?_eq_some.mpr rfl

/-- What the canvas announces at a moment. -/
def Moment.notice? (m : Moment) : Option Bool :=
  match m.happening with
  | .errand (.publish e) => e.notice?
  | _ => none

/-- What the canvas announced, latest first. -/
def Course.notices (ms : Course) : List Bool := ms.filterMap Moment.notice?

/-- The canvas is open, as far as it was announced. -/
def Course.announced (ms : Course) : Bool := (Course.notices ms).head?.getD false

/-- Somebody else publishes in the name of the canvas. -/
def Moment.feigns (m : Moment) : Bool :=
  match m.happening with
  | .turn (.publish e) => e.notice?.isSome
  | .errand (.act (.command _ (.emit source signal))) =>
    (Event.notice? ⟨source, (signal m.before.supply).1⟩).isSome
  | _ => false

/-- No notice is about to be published. -/
def Unspoken (ws : Errands) : Prop := ∀ e, .publish e ∈ ws → e.notice? = none

theorem Unspoken.nil : Unspoken [] := fun _ hmem => absurd hmem List.not_mem_nil

theorem Unspoken.append {us ws : Errands} (hus : Unspoken us) (hws : Unspoken ws) :
    Unspoken (us ++ ws) :=
  fun e he => (List.mem_append.mp he).elim (hus e) (hws e)

/-- Nobody is yet to hear a notice. -/
def Heard (ws : Errands) : Prop := ∀ s e, .deliver s e ∈ ws → e.notice? = none

theorem Heard.nil : Heard [] := fun _ _ hmem => absurd hmem List.not_mem_nil

/-- Values, latest first, of which each is other than the one before, and the first is true. -/
def Alternates : List Bool → Prop
  | [] => True
  | v :: vs => v ≠ vs.head?.getD false ∧ Alternates vs

theorem Alternates.head?_getD {vs : List Bool} (h : Alternates vs) :
    vs.head?.getD false = decide (vs.length % 2 = 1) := by
  induction vs with
  | nil => rfl
  | cons v vs ih =>
    obtain ⟨hv, hvs⟩ := h
    rw [ih hvs] at hv
    have hlength := Nat.mod_two_eq_zero_or_one vs.length
    cases v <;> simp at hv ⊢ <;> omega

/-- Values that alternate are true at the even places. -/
theorem Alternates.reverse_eq {vs : List Bool} (h : Alternates vs) :
    vs.reverse = (List.range vs.length).map fun i => decide (i % 2 = 0) := by
  induction vs with
  | nil => rfl
  | cons v vs ih =>
    obtain ⟨hv, hvs⟩ := h
    rw [hvs.head?_getD] at hv
    have hlength := Nat.mod_two_eq_zero_or_one vs.length
    rw [List.reverse_cons, ih hvs, List.length_cons, List.range_succ, List.map_append]
    congr 2
    cases v <;> simp at hv ⊢ <;> omega

/-! ### What becomes of the canvas -/

/-- Whether the canvas is open after a signal that it is handed. -/
def Signal.opens (isOpen : Bool) : Signal → Bool
  | .artifactsReceived batch => isOpen || !batch.isEmpty
  | .toggleCanvas => !isOpen
  | .newConversation => false
  | _ => isOpen

theorem Event.opens_of_notice? {e : Event} {v : Bool} (h : e.notice? = some v) (isOpen : Bool) :
    e.signal.opens isOpen = isOpen := by
  rw [Event.notice?_eq_some.mp h]
  rfl

/-- Changes the canvas. -/
def Command.movesCanvas : Command → Bool
  | .toggle | .cycle | .hide | .deselect | .openId _ | .openAt _ => true
  | _ => false

/-- An operation of the canvas: a command, or that it is handed a signal. -/
def movesCanvas : Work Listener Act → Bool
  | .deliver s _ => s.listener = .canvas
  | .act (.command _ c) => c.movesCanvas
  | _ => false

namespace App

variable {a₀ a b : App} {ms : Course} {ws vs next : Errands} {w : Work Listener Act} {e : Event}

/-- What an operation of the canvas publishes, if it makes one state of another: that it was opened
or hidden, and nothing if it was neither. -/
def Announces (a b : App) (next : Errands) : Prop :=
  next = if b.canvas.isOpen = a.canvas.isOpen then []
    else [.publish (Canvas.notice b.canvas.isOpen)]

theorem canvas_changeCanvas (a : App) (f : Canvas → Canvas) :
    (a.changeCanvas f).1.canvas = f a.canvas :=
  (exhibit_notes _ _).2

theorem announces_changeCanvas (a : App) (f : Canvas → Canvas) :
    Announces a (a.changeCanvas f).1 (a.changeCanvas f).2 := by
  rw [Announces, canvas_changeCanvas]
  simp only [changeCanvas, Canvas.crossing?]
  by_cases h : a.canvas.isOpen = (f a.canvas).isOpen
  · simp [h]
  · simp [h, Ne.symm h, Canvas.notice]

theorem announces_openArtifact (a : App) (id : String) :
    Announces a (a.openArtifact id).1 (a.openArtifact id).2.1 := by
  unfold openArtifact
  split
  · exact announces_changeCanvas a (·.select _)
  · exact (if_pos rfl).symm

theorem announces_command {c : Command} (hc : c.movesCanvas = true) :
    Announces a (a.command c).1 (a.command c).2.1 := by
  cases c with
  | toggle | cycle | hide | deselect => exact announces_changeCanvas a _
  | openId | openAt => exact announces_openArtifact a _
  | _ => cases hc

theorem announces_react (a : App) (e : Event) :
    Announces a (a.react .canvas e).1 (a.react .canvas e).2 := by
  have hnone : Announces a a [] := (if_pos rfl).symm
  obtain ⟨source, signal⟩ := e
  cases signal with
  | artifactsReceived batch =>
    simp only [react]
    split
    · exact hnone
    · exact announces_changeCanvas a _
  | toggleCanvas | newConversation => exact announces_changeCanvas a _
  | _ => exact hnone

/-- A signal opens or hides the canvas according to what it is. -/
theorem isOpen_react (a : App) (e : Event) :
    (a.react .canvas e).1.canvas.isOpen = e.signal.opens a.canvas.isOpen := by
  obtain ⟨source, signal⟩ := e
  cases signal with
  | artifactsReceived batch =>
    cases hbatch : batch.isEmpty with
    | true => simp [react, hbatch, Signal.opens]
    | false =>
      simp only [react, hbatch, Bool.false_eq_true, if_false, canvas_changeCanvas, Signal.opens]
      obtain ⟨mode, active⟩ := a.canvas
      cases mode <;> rfl
  | toggleCanvas =>
    simp only [react, canvas_changeCanvas, Signal.opens]
    obtain ⟨mode, active⟩ := a.canvas
    cases mode <;> rfl
  | newConversation => exact congrArg Canvas.isOpen (canvas_changeCanvas a Canvas.hide)
  | _ => rfl

/-- Nobody but the canvas does anything about it when handed a signal. -/
theorem canvas_react {l : Listener} (hl : l ≠ .canvas) (e : Event) :
    (a.react l e).1.canvas = a.canvas := by
  obtain ⟨source, signal⟩ := e
  cases l with
  | canvas => exact absurd rfl hl
  | store =>
    cases signal with
    | artifactsReceived batch => exact (exhibit_notes _ _).2
    | newConversation => exact (exhibit_notes _ _).2
    | _ => rfl
  | pipeline =>
    cases signal with
    | newConversation =>
      simp only [react, reset]
      split <;> rfl
    | conversationSelected id =>
      simp only [react, spawnLoad]
      split <;> rfl
    | _ => rfl
  | observer n =>
    simp only [react]
    split <;> rfl

/-- Hearing a notice does nothing to the canvas. -/
theorem isOpen_react_of_notice? {v : Bool} (hv : e.notice? = some v) (l : Listener) :
    (a.react l e).1.canvas.isOpen = a.canvas.isOpen := by
  by_cases hl : l = .canvas
  · rw [hl, isOpen_react, Event.opens_of_notice? hv]
  · rw [canvas_react hl]

theorem canvas_command {c : Command} (hc : c.movesCanvas = false) :
    (a.command c).1.canvas = a.canvas := by
  cases c with
  | toggle | cycle | hide | deselect | openId | openAt => cases hc
  | reset =>
    simp only [command, reset]
    split <;> rfl
  | picture =>
    simp only [command]
    split
    · exact (exhibit_notes a _).2
    · rfl
  | ingest batch => exact (exhibit_notes _ _).2
  | clearStore => exact (exhibit_notes _ _).2
  | unmount part => exact (exhibit_unmount a part).2
  | shutdown =>
    exact (exhibit_unmount _ .store).2.trans
      ((exhibit_unmount _ .canvas).2.trans (exhibit_unmount a .pipeline).2)
  | _ => rfl

/-- What an operation of the canvas leaves to do: it is announced if it opens or hides the canvas,
and whoever gave the command is given back that it is done. -/
theorem doing_of_movesCanvas (hw : movesCanvas w = true) : ∃ next rest,
    (a.doing w).2 = next ++ rest ∧ Announces a (a.doing w).1 next ∧
      ∀ u ∈ rest, ∃ who r, u = .act (.give who r) := by
  cases w with
  | publish e => cases hw
  | deliver s e =>
    have hs : s.listener = .canvas := of_decide_eq_true hw
    rw [doing_deliver, hs]
    exact ⟨_, [], (List.append_nil _).symm, announces_react a e, List.forall_mem_nil _⟩
  | act w =>
    cases w with
    | command who c =>
      rw [doing_command]
      refine ⟨_, _, rfl, announces_command hw, fun u hu => ?_⟩
      exact ⟨_, _, List.mem_singleton.mp hu⟩
    | _ => cases hw

theorem canvas_doing (hw : movesCanvas w = false) : (a.doing w).1.canvas = a.canvas := by
  cases w with
  | publish e => rfl
  | deliver s e =>
    rw [doing_deliver]
    exact canvas_react (of_decide_eq_false hw) e
  | act w =>
    cases w with
    | command who c => exact canvas_command hw
    | conclude n g adopted => cases adopted <;> rfl
    | _ => rfl

/-- **An operation of the canvas publishes that it was opened or hidden**, and nothing if it was
neither. -/
theorem published_doing (hw : movesCanvas w = true) :
    (a.doing w).2.filterMap published? =
      if (a.doing w).1.canvas.isOpen = a.canvas.isOpen then []
      else [Canvas.notice (a.doing w).1.canvas.isOpen] := by
  obtain ⟨next, rest, hdoing, hnext, hrest⟩ := doing_of_movesCanvas (a := a) hw
  have hnone : rest.filterMap published? = [] := List.filterMap_eq_nil_iff.mpr fun u hu => by
    obtain ⟨who, r, rfl⟩ := hrest u hu
    rfl
  rw [hdoing, List.filterMap_append, hnone, List.append_nil, hnext]
  split <;> rfl

/-- Nobody but the canvas publishes anything when handed a signal. -/
theorem publish_notMem_react {l : Listener} (hl : l ≠ .canvas) (e e' : Event) :
    .publish e' ∉ (a.react l e).2 := by
  obtain ⟨source, signal⟩ := e
  cases l with
  | canvas => exact absurd rfl hl
  | store => cases signal <;> exact List.not_mem_nil
  | pipeline => cases signal <;> exact List.not_mem_nil
  | observer n =>
    simp only [react]
    split <;> simp

theorem unspoken_command {c : Command} (hc : c.movesCanvas = false) {who : Option Nat}
    (hfeigns : Moment.feigns ⟨a, .errand (.act (.command who c)), b⟩ = false) :
    Unspoken (a.command c).2.1 := by
  cases c with
  | toggle | cycle | hide | deselect | openId | openAt => cases hc
  | emit source signal =>
    intro e he
    cases List.mem_singleton.mp he
    simpa [Moment.feigns] using hfeigns
  | announce signal =>
    intro e he
    cases List.mem_singleton.mp he
    cases signal <;> rfl
  | picture =>
    simp only [command]
    split <;> exact .nil
  | _ => exact .nil

/-- Nobody but the canvas speaks in its name. -/
theorem unspoken_doing (hw : movesCanvas w = false)
    (hfeigns : Moment.feigns ⟨a, .errand w, b⟩ = false) : Unspoken (a.doing w).2 := by
  intro e he
  cases w with
  | publish e' =>
    rw [doing_publish] at he
    simp at he
  | deliver s e' =>
    rw [doing_deliver] at he
    exact absurd he (publish_notMem_react (of_decide_eq_false hw) e' e)
  | act w =>
    cases w with
    | command who c =>
      rw [doing_command] at he
      rcases List.mem_append.mp he with he | he
      · exact unspoken_command hw hfeigns e he
      · cases List.mem_singleton.mp he
    | conclude n g adopted => cases adopted <;> cases he
    | _ => cases he

/-! ### The canvas and what was announced of it -/

/-- What was announced last is what the canvas is, or it is about to be announced. -/
inductive Told (ms : Course) : App → Errands → Prop
  | spoken {a : App} {ws : Errands} (hopen : a.canvas.isOpen = ms.announced) (hws : Unspoken ws) :
      Told ms a ws
  | due {a : App} {ws : Errands} (hopen : a.canvas.isOpen ≠ ms.announced) (hws : Unspoken ws) :
      Told ms a (.publish (Canvas.notice a.canvas.isOpen) :: ws)

theorem Told.isOpen (h : Told ms a ws) (hws : Unspoken ws) : a.canvas.isOpen = ms.announced := by
  cases h with
  | spoken hopen => exact hopen
  | due => cases hws _ List.mem_cons_self

/-- The answer of the server is not published in the name of the canvas. -/
theorem unspoken_takeAnswer (a : App) (n : Nat) (r : Answer) : Unspoken (a.takeAnswer n r).2 := by
  intro e he
  simp only [takeAnswer] at he
  split at he
  · simp only [takeReply] at he
    split at he
    · cases he
    · cases he
    · simp only [List.mem_cons, List.mem_append] at he
      rcases he with he | he | he
      · cases he
        rfl
      · split at he
        · cases he
        · simp only [List.mem_cons, reduceCtorEq, Work.publish.injEq, List.not_mem_nil, or_false,
            false_or] at he
          subst he
          rfl
      · simp at he
  · cases he
  · cases he
  · cases he

theorem unspoken_enter {t : Turn} (hfeigns : Moment.feigns ⟨a, .turn t, b⟩ = false) :
    Unspoken (a.enter t).2 := by
  cases t with
  | publish e =>
    intro e' he'
    cases List.mem_singleton.mp he'
    simpa [Moment.feigns] using hfeigns
  | tell c =>
    intro e he
    cases List.mem_singleton.mp he
  | answer n r => exact unspoken_takeAnswer a n r
  | _ => exact .nil

/-- A turn changes nothing of it. -/
theorem Told.enter (h : Told ms a ws) (hws : Unspoken ws) {t : Turn}
    (hfeigns : Moment.feigns ⟨a, .turn t, (a.enter t).1⟩ = false) :
    Told (⟨a, .turn t, (a.enter t).1⟩ :: ms) (a.enter t).1 ((a.enter t).2 ++ ws) := by
  refine .spoken ?_ ((unspoken_enter hfeigns).append hws)
  rw [(store_enter a t).2]
  exact h.isOpen hws

/-- Nothing is announced but what is about to be. -/
theorem notice?_of_unspoken (hws : Unspoken (w :: ws)) :
    Moment.notice? ⟨a, .errand w, b⟩ = none := by
  cases w with
  | publish e => exact hws e List.mem_cons_self
  | _ => rfl

/-- **What is done keeps to it**: what is opened or hidden is announced next, and what is announced
is other than what was announced before. -/
theorem Told.doing (h : Told ms a (w :: ws)) (hms : Alternates (Course.notices ms))
    (hfeigns : Moment.feigns ⟨a, .errand w, (a.doing w).1⟩ = false) :
    Told (⟨a, .errand w, (a.doing w).1⟩ :: ms) (a.doing w).1 ((a.doing w).2 ++ ws) ∧
      Alternates (Course.notices (⟨a, .errand w, (a.doing w).1⟩ :: ms)) := by
  cases h with
  | spoken hopen hws =>
    have hsame : Course.notices (⟨a, .errand w, (a.doing w).1⟩ :: ms) = Course.notices ms :=
      List.filterMap_cons_none (notice?_of_unspoken hws)
    have hrest : Unspoken ws := fun e he => hws e (List.mem_cons_of_mem w he)
    refine ⟨?_, hsame ▸ hms⟩
    cases hw : movesCanvas w with
    | false =>
      refine .spoken ?_ ((unspoken_doing hw hfeigns).append hrest)
      rw [canvas_doing hw, Course.announced, hsame]
      exact hopen
    | true =>
      obtain ⟨next, rest, hdoing, hnext, hgive⟩ := doing_of_movesCanvas (a := a) hw
      have hlast : Unspoken (rest ++ ws) := by
        refine .append (fun e he => ?_) hrest
        obtain ⟨who, r, hr⟩ := hgive _ he
        cases hr
      rw [hdoing, hnext]
      have hannounced : Course.announced (⟨a, .errand w, (a.doing w).1⟩ :: ms) = ms.announced := by
        rw [Course.announced, hsame, ← Course.announced]
      split
      · rename_i heq
        exact .spoken (heq.trans (hopen.trans hannounced.symm)) hlast
      · rename_i hne
        exact .due (fun heq => hne (heq.trans (hannounced.trans hopen.symm))) hlast
  | due hopen hws =>
    have hcons : Course.notices (⟨a, .errand (.publish (Canvas.notice a.canvas.isOpen)),
        (a.doing (.publish (Canvas.notice a.canvas.isOpen))).1⟩ :: ms) =
          a.canvas.isOpen :: Course.notices ms :=
      List.filterMap_cons_some (Canvas.notice?_notice _)
    refine ⟨.spoken ?_ ((unspoken_doing rfl hfeigns).append hws), ?_⟩
    · rw [Course.announced, hcons]
      rfl
    · rw [hcons]
      exact ⟨hopen, hms⟩

/-! ### While an announcement is on its way -/

/-- Does nothing to a canvas that is open, or is not. -/
def Harmless (isOpen : Bool) : Work Listener Act → Prop
  | .publish e => e.notice? = none ∧ e.signal.opens isOpen = isOpen
  | .deliver _ e => e.signal.opens isOpen = isOpen
  | .act (.command who _) => who.isSome
  | .act _ => True

/-- Every notice that is on its way says whether the canvas is open, and what is done before it is
heard does nothing about that. -/
def Hushed (isOpen : Bool) : Errands → Prop
  | [] => True
  | w :: ws => (∀ s e v, w = .deliver s e → e.notice? = some v → v = isOpen) ∧
      (Heard ws ∨ Harmless isOpen w) ∧ Hushed isOpen ws

theorem Hushed.of_heard {isOpen : Bool} (hws : Heard ws) : Hushed isOpen ws := by
  induction ws with
  | nil => trivial
  | cons w ws ih =>
    have hrest : Heard ws := fun s e hmem => hws s e (List.mem_cons_of_mem w hmem)
    refine ⟨?_, .inl hrest, ih hrest⟩
    rintro s e v rfl hv
    cases (hws s e List.mem_cons_self).symm.trans hv

/-- Every notice that is on its way says what the canvas is. -/
theorem Hushed.eq_of_deliver {isOpen : Bool} (h : Hushed isOpen ws) :
    ∀ s e v, .deliver s e ∈ ws → e.notice? = some v → isOpen = v := by
  induction ws with
  | nil => exact fun _ _ _ hmem => absurd hmem List.not_mem_nil
  | cons w ws ih =>
    obtain ⟨hw, -, hws⟩ := h
    intro s e v hmem hv
    rcases List.mem_cons.mp hmem with rfl | hmem
    · exact (hw s e v rfl hv).symm
    · exact ih hws s e v hmem hv

theorem Hushed.append {isOpen : Bool} (hnext : ∀ u ∈ next, Harmless isOpen u)
    (hnotice : ∀ s e v, .deliver s e ∈ next → e.notice? = some v → v = isOpen)
    (hws : Hushed isOpen ws) : Hushed isOpen (next ++ ws) := by
  induction next with
  | nil => exact hws
  | cons u next ih =>
    obtain ⟨hu, hnext⟩ := List.forall_mem_cons.mp hnext
    refine ⟨?_, .inr hu, ih hnext fun s e v hmem => hnotice s e v (List.mem_cons_of_mem u hmem)⟩
    rintro s e v rfl hv
    exact hnotice s e v List.mem_cons_self hv

end App

/-- A listener commands something that opens or hides the canvas, or publishes a signal that does. -/
def Moment.meddles (m : Moment) : Bool :=
  match m.happening with
  | .errand (.act (.command (some _) c)) =>
    m.after.canvas.isOpen != m.before.canvas.isOpen ||
      ((m.before.command c).2.1.filterMap published?).any fun e =>
        e.signal.opens m.before.canvas.isOpen != m.before.canvas.isOpen
  | _ => false

namespace App

/-- What a listener commands that does not meddle. -/
theorem harmless_command {n : Nat} {c : Command}
    (hfeigns : Moment.feigns ⟨a, .errand (.act (.command (some n) c)), (a.command c).1⟩ = false)
    (hmeddles : Moment.meddles ⟨a, .errand (.act (.command (some n) c)), (a.command c).1⟩ = false) :
    (a.command c).1.canvas.isOpen = a.canvas.isOpen ∧
      ∀ u ∈ (a.command c).2.1, Harmless a.canvas.isOpen u := by
  simp only [Moment.meddles, Bool.or_eq_false_iff, bne_eq_false_iff_eq] at hmeddles
  obtain ⟨hsame, hevents⟩ := hmeddles
  refine ⟨hsame, fun u hu => ?_⟩
  cases hc : c.movesCanvas with
  | true =>
    have hnone : (a.command c).2.1 = [] := (announces_command hc).trans (if_pos hsame)
    rw [hnone] at hu
    cases hu
  | false =>
    obtain hnext | ⟨e, hnext⟩ := command_errands a c
    · rw [hnext] at hu
      cases hu
    · rw [hnext, List.mem_singleton] at hu
      subst hu
      refine ⟨unspoken_command hc hfeigns e (by simp [hnext]), ?_⟩
      simpa [hnext, published?] using hevents

/-- **What is harmless does nothing**, and leads to nothing else. -/
theorem harmless_doing (hw : Harmless a.canvas.isOpen w)
    (hfeigns : Moment.feigns ⟨a, .errand w, (a.doing w).1⟩ = false)
    (hmeddles : Moment.meddles ⟨a, .errand w, (a.doing w).1⟩ = false) :
    (a.doing w).1.canvas.isOpen = a.canvas.isOpen ∧
      ∀ u ∈ (a.doing w).2, Harmless a.canvas.isOpen u ∧
        ∀ s e, u = .deliver s e → e.notice? = none := by
  cases w with
  | publish e =>
    rw [doing_publish]
    refine ⟨rfl, fun u hu => ?_⟩
    obtain ⟨s, -, rfl⟩ := List.mem_map.mp hu
    refine ⟨hw.2, ?_⟩
    rintro _ _ ⟨⟩
    exact hw.1
  | deliver s e =>
    rw [doing_deliver]
    by_cases hs : s.listener = .canvas
    · rw [hs]
      have hsame := (isOpen_react a e).trans hw
      refine ⟨hsame, ?_⟩
      rw [announces_react a e, if_pos hsame]
      exact List.forall_mem_nil _
    · refine ⟨congrArg Canvas.isOpen (canvas_react hs e), fun u hu => ?_⟩
      obtain hnext | ⟨v, hnext⟩ | ⟨n, cs, hnext⟩ := react_errands a s.listener e
      · rw [hnext] at hu
        cases hu
      · exact absurd (by rw [hnext]; exact List.mem_singleton_self _) (publish_notMem_react hs e _)
      · rw [hnext] at hu
        obtain ⟨c, -, rfl⟩ := List.mem_map.mp hu
        exact ⟨rfl, by simp⟩
  | act w =>
    cases w with
    | command who c =>
      obtain ⟨n, rfl⟩ := Option.isSome_iff_exists.mp hw
      rw [doing_command] at hfeigns hmeddles ⊢
      obtain ⟨hsame, hnext⟩ := harmless_command hfeigns hmeddles
      refine ⟨hsame, fun u hu => ?_⟩
      have hnobody := deliver_notMem_doing (a := a) (w := .act (.command (some n) c)) (by simp)
      rw [doing_command] at hnobody
      refine ⟨?_, fun s e h => absurd (h ▸ hu) (hnobody s e)⟩
      rcases List.mem_append.mp hu with hu | hu
      · exact hnext u hu
      · exact List.mem_singleton.mp hu ▸ trivial
    | conclude n g adopted =>
      refine ⟨congrArg Canvas.isOpen (canvas_doing rfl), fun u hu => ?_⟩
      rw [doing_act] at hu
      cases adopted <;> cases hu
    | give | note =>
      refine ⟨congrArg Canvas.isOpen (canvas_doing rfl), fun u hu => ?_⟩
      rw [doing_act] at hu
      cases hu

/-- Everybody is handed what the canvas is. -/
theorem Told.hushed_publish (h : Told ms a (.publish e :: ws)) (hws : Heard ws) :
    Hushed (a.doing (.publish e)).1.canvas.isOpen ((a.doing (.publish e)).2 ++ ws) := by
  rw [doing_publish]
  change Hushed a.canvas.isOpen ((a.registry.listening e.topic).map (.deliver · e) ++ ws)
  have hevent (s : Subscription Listener) (e' : Event)
      (hmem : (.deliver s e' : Work Listener Act) ∈
        (a.registry.listening e.topic).map (.deliver · e)) : e' = e := by
    obtain ⟨s', -, hs'⟩ := List.mem_map.mp hmem
    cases hs'
    rfl
  cases h with
  | spoken _ hunspoken =>
    refine .of_heard fun s e' hmem => ?_
    refine (List.mem_append.mp hmem).elim (fun hmem => ?_) (hws s e')
    exact hevent s e' hmem ▸ hunspoken e List.mem_cons_self
  | due =>
    refine .append (fun u hu => ?_) (fun s e' v hmem hv => ?_) (.of_heard hws)
    · obtain ⟨s, -, rfl⟩ := List.mem_map.mp hu
      exact Event.opens_of_notice? (Canvas.notice?_notice _) _
    · rw [hevent s e' hmem, Canvas.notice?_notice] at hv
      exact (Option.some.inj hv).symm

/-- **As long as listeners do not meddle, what they hear is what the canvas is.** -/
theorem Hushed.doing (h : Hushed a.canvas.isOpen (w :: ws)) (htold : Told ms a (w :: ws))
    (hfeigns : Moment.feigns ⟨a, .errand w, (a.doing w).1⟩ = false)
    (hmeddles : Moment.meddles ⟨a, .errand w, (a.doing w).1⟩ = false) :
    Hushed (a.doing w).1.canvas.isOpen ((a.doing w).2 ++ ws) := by
  obtain ⟨-, hheard | hharmless, hrest⟩ := h
  · by_cases hw : ∃ e, w = .publish e
    · obtain ⟨e, rfl⟩ := hw
      exact htold.hushed_publish hheard
    · have hnobody := deliver_notMem_doing (a := a) (not_exists.mp hw)
      refine .of_heard fun s e hmem => ?_
      exact (List.mem_append.mp hmem).elim (fun hmem => absurd hmem (hnobody s e)) (hheard s e)
  · obtain ⟨hsame, hnext⟩ := harmless_doing hharmless hfeigns hmeddles
    rw [hsame]
    refine .append (fun u hu => (hnext u hu).1) (fun s e v hmem hv => ?_) hrest
    cases ((hnext _ hmem).2 s e rfl).symm.trans hv

/-! ### What holds of a course -/

/-- No notice is on its way: none is about to be published, and nobody is yet to hear one. -/
def Quiet (ws : Errands) : Prop := Unspoken ws ∧ Heard ws

theorem Quiet.nil : Quiet [] := ⟨.nil, .nil⟩

/-- What holds of a course in which nobody feigns. -/
structure Proclaims (ms : Course) (a : App) (ws : Errands) : Prop where
  told : Told ms a ws
  alternates : Alternates (Course.notices ms)
  hushed : (∀ m ∈ ms, m.meddles = false) → Hushed a.canvas.isOpen ws

theorem Paces.proclaims (hopen : a₀.canvas.isOpen = false) (hp : Paces Quiet (a₀, []) ms (a, ws))
    (hgenuine : ∀ m ∈ ms, m.feigns = false) : Proclaims ms a ws := by
  generalize hc : (a, ws) = c at hp
  induction hp generalizing a ws with
  | start =>
    cases hc
    exact ⟨.spoken hopen .nil, trivial, fun _ => trivial⟩
  | @turn ms b vs t _ hquiet ih =>
    cases hc
    obtain ⟨hfeigns, hgenuine⟩ := List.forall_mem_cons.mp hgenuine
    have h := ih hgenuine rfl
    refine ⟨h.told.enter hquiet.1 hfeigns, h.alternates, fun _ => .of_heard fun s e hmem => ?_⟩
    refine (List.mem_append.mp hmem).elim (fun hmem => ?_) (hquiet.2 s e)
    exact absurd hmem (deliver_notMem_enter b t s e)
  | @errand ms b vs w _ ih =>
    cases hc
    obtain ⟨hfeigns, hgenuine⟩ := List.forall_mem_cons.mp hgenuine
    have h := ih hgenuine rfl
    obtain ⟨htold, halternates⟩ := h.told.doing h.alternates hfeigns
    refine ⟨htold, halternates, fun hmeddles => ?_⟩
    obtain ⟨hlast, hmeddles⟩ := List.forall_mem_cons.mp hmeddles
    exact (h.hushed hmeddles).doing h.told hfeigns hlast

/-- **The canvas is what it announced.** The canvas of an app is hidden at first, and is operated in
any way, by commands and by signals, as often as one likes; what listeners do on account of it is
done before they give control back. Then

* the values that it announces are true and false by turns, from true on;
* whenever none is about to be published the canvas is what was announced last, and hidden if
  nothing was;
* an operation publishes that the canvas was opened or hidden, and nothing if it was neither;
* if listeners do not change whether the canvas is open, they are handed what it is: when they begin,
  and when they are through. -/
theorem Paces.announces (hopen : a₀.canvas.isOpen = false) (hp : Paces Quiet (a₀, []) ms (a, ws))
    (hgenuine : ∀ m ∈ ms, m.feigns = false) :
    (Course.notices ms).reverse =
        (List.range (Course.notices ms).length).map (fun i => decide (i % 2 = 0)) ∧
      (Unspoken ws → a.canvas.isOpen = (Course.notices ms).head?.getD false) ∧
      (∀ m ∈ ms, ∀ w, m.happening = .errand w → movesCanvas w = true →
        (m.before.doing w).2.filterMap published? =
          if m.after.canvas.isOpen = m.before.canvas.isOpen then []
          else [Canvas.notice m.after.canvas.isOpen]) ∧
      ((∀ m ∈ ms, m.meddles = false) →
        (∀ s e v, .deliver s e ∈ ws → e.notice? = some v → a.canvas.isOpen = v) ∧
        ∀ m ∈ ms, ∀ s e v, m.happening = .errand (.deliver s e) → e.notice? = some v →
          m.before.canvas.isOpen = v ∧ m.after.canvas.isOpen = v) := by
  have h := hp.proclaims hopen hgenuine
  refine ⟨h.alternates.reverse_eq, h.told.isOpen, fun m hm w hw hmoves => ?_, fun hmeddles => ?_⟩
  · obtain ⟨earlier, vs, -, -, hafter⟩ := hp.exists_of_mem hm hw
    rw [hafter]
    exact published_doing hmoves
  · refine ⟨(h.hushed hmeddles).eq_of_deliver, fun m hm s e v hw hv => ?_⟩
    obtain ⟨earlier, vs, hsubset, hearlier, hafter⟩ := hp.exists_of_mem hm hw
    have hpast := hearlier.proclaims hopen fun x hx => hgenuine x (hsubset hx)
    have hbefore := (hpast.hushed fun x hx => hmeddles x (hsubset hx)).eq_of_deliver s e v
      List.mem_cons_self hv
    rw [hafter, doing_deliver, isOpen_react_of_notice? hv]
    exact ⟨hbefore, hbefore⟩

/-- Somebody who hears of the canvas looks at what it shows, publishes something, and counts who
listens, while it is opened, enlarged, hidden by a new conversation, and opened by an artifact. -/
theorem announces_of_onlooker :
    let a₀ := blank.assemble [] [(.canvasStateChanged,
      [[.active, .emit "test" fun s => (.conversationSelected 1, s)], [.counts], [.artifacts]])] ""
    let ts : List Turn := [.tell .toggle, .tell .cycle, .publish ⟨"test", .newConversation⟩,
      .tell .hide, .publish ⟨"test", .artifactsReceived [⟨"a", "", "", .null, none, default⟩]⟩]
    let ms := (a₀.itinerary ts).1
    a₀.canvas.isOpen = false ∧ Paces Quiet (a₀, []) ms (a₀.run ts, []) ∧
      (∀ m ∈ ms, m.feigns = false ∧ m.meddles = false) ∧
      (Course.notices ms).reverse = [true, false, true] ∧ (a₀.run ts).canvas.isOpen = true ∧
      ∀ m ∈ ms, ∀ s e v, m.happening = .errand (.deliver s e) → e.notice? = some v →
        m.before.canvas.isOpen = v ∧ m.after.canvas.isOpen = v := by
  intro a₀ ts ms
  have hpaces : Paces Quiet (a₀, []) ms (a₀.run ts, []) := paces_itinerary .nil a₀ ts
  have hmoments : ms.all (fun m => !m.feigns && !m.meddles) = true := by decide +kernel
  have hlength : (Course.notices ms).length = 3 := by decide +kernel
  have hlast : (Course.notices ms).head?.getD false = true := by decide +kernel
  clear_value ms
  simp only [List.all_eq_true, Bool.and_eq_true, Bool.not_eq_true'] at hmoments
  obtain ⟨hvalues, hopen, -, hheard⟩ := hpaces.announces rfl fun m hm => (hmoments m hm).1
  rw [hlength] at hvalues
  exact ⟨rfl, hpaces, hmoments, hvalues, (hopen .nil).trans hlast,
    (hheard fun m hm => (hmoments m hm).2).2⟩

end App

end Parley
