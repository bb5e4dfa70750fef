import Parley.Proofs.App.Control
import Parley.Proofs.Artifact.Store

/-!
# What the canvas has selected

The canvas keeps the identifier of what it shows, and the artifact itself is in the store. The two
are changed by handlers that know nothing of each other, so that what is shown is there, and is what
was opened, is a matter of the order in which things happen:

* an artifact is selected when it is opened, and then it is found in the store;
* what comes into the store later takes nothing away, and nothing that has an identifier of the
  store comes in (`Parley.Store.find?_ingest`);
* the store is emptied right before the canvas is hidden (`Parley.Paired`).

So a canvas that has something selected shows the artifact that was opened last, as it was then
(`Parley.App.Walks.selects`). Nobody in control can tell that the two are apart: this holds inside
of every handler but those of the store and the canvas for a new conversation
(`Parley.Outside`).
-/

namespace Parley

/-! ### The canvas by itself -/

namespace Canvas

variable {c c' : Canvas}

/-- A hidden canvas has nothing selected. -/
def IsProper (c : Canvas) : Prop := c.mode = .hidden → c.active = none

/-- A canvas makes no selection when it becomes another: it drops the one it has, or keeps it and is
not hidden. -/
def Keeps (c c' : Canvas) : Prop :=
  c'.active = none ∨ c'.active = c.active ∧ (c'.mode = .hidden → c.mode = .hidden)

theorem Keeps.of_eq (h : c' = c) : c.Keeps c' := h ▸ .inr ⟨rfl, id⟩

theorem Keeps.isProper (h : c.Keeps c') (hc : c.IsProper) : c'.IsProper := by
  rcases h with h | ⟨h, hmode⟩
  · exact fun _ => h
  · exact fun hhidden => h.trans (hc (hmode hhidden))

theorem isProper_select (c : Canvas) (id : String) : (c.select id).IsProper := by
  obtain ⟨mode, active⟩ := c
  cases mode <;> exact nofun

theorem keeps_toggle (c : Canvas) : c.Keeps c.toggle := by
  unfold toggle
  split
  · exact .inl rfl
  · exact .inr ⟨rfl, nofun⟩

theorem keeps_cycle (c : Canvas) : c.Keeps c.cycle := by
  obtain ⟨mode, active⟩ := c
  refine .inr ⟨rfl, ?_⟩
  cases mode <;> first | exact id | exact nofun

theorem keeps_reveal (c : Canvas) : c.Keeps c.reveal := by
  unfold reveal
  split
  · exact .inr ⟨rfl, nofun⟩
  · exact .of_eq rfl

theorem keeps_hide (c : Canvas) : c.Keeps c.hide := .inl rfl

theorem keeps_deselect (c : Canvas) : c.Keeps c.deselect := .inl rfl

end Canvas

/-! ### What is opened -/

/-- Concerns one part of an app and leaves the others out: the store is emptied, or a part leaves
the bus. -/
def Command.isPartial : Command → Bool
  | .clearStore | .unmount _ => true
  | _ => false

def Happening.isPartial : Happening → Bool
  | .errand (.act (.command _ c)) => c.isPartial
  | _ => false

/-- The artifact that is opened by a command. -/
def Command.opened? (a : App) : Command → Option Artifact
  | .openId id => (a.openArtifact id).2.2
  | .openAt index => (a.openArtifact (((a.store.items[index]?).map (·.id)).getD "")).2.2
  | _ => none

/-- The artifact that is opened. -/
def Moment.opened? (m : Moment) : Option Artifact :=
  match m.happening with
  | .errand (.act (.command _ c)) => c.opened? m.before
  | _ => none

/-- The artifact that was opened last. -/
def Course.opened? (ms : Course) : Option Artifact := ms.findSome? Moment.opened?

theorem Course.opened?_cons (m : Moment) (ms : Course) :
    opened? (m :: ms) = m.opened?.or (opened? ms) := by
  rw [opened?, List.findSome?_cons]
  cases m.opened? <;> rfl

namespace App

variable {a₀ a b : App} {ms : Course} {ws : Errands} {o o' : Option Artifact}

/-! ### What becomes of the store and the canvas -/

theorem exhibit_notes (a : App) (ns : List Note) :
    (a.notes ns).store = a.store ∧ (a.notes ns).canvas = a.canvas := by
  have hstore := congrArg store (surroundings_notes a ns)
  have hcanvas := congrArg canvas (surroundings_notes a ns)
  exact ⟨hstore, hcanvas⟩

theorem exhibit_unmount (a : App) (part : Part) :
    (a.unmount part).store = a.store ∧ (a.unmount part).canvas = a.canvas := by
  have hids : ∀ (ids : List Nat) (b : App),
      (ids.foldl unsubscribe b).store = b.store ∧ (ids.foldl unsubscribe b).canvas = b.canvas := by
    intro ids
    induction ids with
    | nil => exact fun _ => ⟨rfl, rfl⟩
    | cons id ids ih =>
      intro b
      have hb : (b.unsubscribe id).store = b.store ∧ (b.unsubscribe id).canvas = b.canvas := by
        unfold unsubscribe
        split <;> exact ⟨rfl, rfl⟩
      exact ⟨(ih _).1.trans hb.1, (ih _).2.trans hb.2⟩
  cases part <;> exact hids _ _

/-- What may become of the store and the canvas, other than that the store is emptied: whatever was
found stays, and either nothing is selected anew or it is an artifact that is found. -/
inductive Alters (a b : App) : Option Artifact → Prop
  | keep (hstore : ∀ id x, a.store.find? id = some x → b.store.find? id = some x)
      (hcanvas : a.canvas.Keeps b.canvas) : Alters a b none
  | select {x : Artifact} (hfound : a.store.find? x.id = some x) (hstore : b.store = a.store)
      (hcanvas : b.canvas = a.canvas.select x.id) : Alters a b (some x)

theorem Alters.of_eq (h : b.store = a.store ∧ b.canvas = a.canvas) : Alters a b none :=
  .keep (fun _ _ hx => h.1 ▸ hx) (.of_eq h.2)

theorem Alters.isProper (h : Alters a b o) (ha : a.canvas.IsProper) : b.canvas.IsProper := by
  cases h with
  | keep _ hcanvas => exact hcanvas.isProper ha
  | select _ _ hcanvas => exact hcanvas ▸ Canvas.isProper_select _ _

theorem alters_changeCanvas (a : App) {f : Canvas → Canvas} (hf : a.canvas.Keeps (f a.canvas)) :
    Alters a (a.changeCanvas f).1 none := by
  obtain ⟨hstore, hcanvas⟩ := exhibit_notes { a with canvas := f a.canvas }
    (Canvas.changeNotes a.canvas (f a.canvas))
  exact .keep (fun _ _ hx => hstore ▸ hx) (hcanvas ▸ hf)

/-- **Whatever is opened is found in the store**, and is selected. -/
theorem alters_openArtifact (a : App) (id : String) :
    Alters a (a.openArtifact id).1 (a.openArtifact id).2.2 := by
  unfold openArtifact
  split
  · rename_i x hx
    obtain ⟨rfl, -⟩ := Store.of_find?_eq_some hx
    obtain ⟨hstore, hcanvas⟩ := exhibit_notes { a with canvas := a.canvas.select x.id }
      (Canvas.changeNotes a.canvas (a.canvas.select x.id))
    exact .select hx hstore hcanvas
  · exact .of_eq ⟨rfl, rfl⟩

theorem alters_ingest (a : App) (batch : List Artifact) (s : Supply) :
    Alters a (({ a with supply := s }).ingest batch).1 none := by
  obtain ⟨hstore, hcanvas⟩ := exhibit_notes { a with
    store := (a.store.ingest batch s).store, supply := (a.store.ingest batch s).supply }
    (a.store.ingest batch s).notes
  refine .keep (fun id x hx => ?_) (.of_eq hcanvas)
  exact (congrArg (·.find? id) hstore).trans (Store.find?_ingest hx batch s)

theorem alters_react {l : Listener} {e : Event} (h : l = .store → e.signal ≠ .newConversation) :
    Alters a (a.react l e).1 none := by
  obtain ⟨source, signal⟩ := e
  cases l with
  | store =>
    cases signal with
    | artifactsReceived batch => exact alters_ingest a batch a.supply
    | newConversation => exact absurd rfl (h rfl)
    | _ => exact .of_eq ⟨rfl, rfl⟩
  | canvas =>
    cases signal with
    | artifactsReceived batch =>
      simp only [react]
      split
      · exact .of_eq ⟨rfl, rfl⟩
      · exact alters_changeCanvas a (Canvas.keeps_reveal _)
    | toggleCanvas => exact alters_changeCanvas a (Canvas.keeps_toggle _)
    | newConversation => exact alters_changeCanvas a (Canvas.keeps_hide _)
    | _ => exact .of_eq ⟨rfl, rfl⟩
  | pipeline =>
    refine .of_eq ?_
    cases signal with
    | newConversation =>
      simp only [react, reset]
      split <;> exact ⟨rfl, rfl⟩
    | conversationSelected id =>
      simp only [react, spawnLoad]
      split <;> exact ⟨rfl, rfl⟩
    | _ => exact ⟨rfl, rfl⟩
  | observer n =>
    refine .of_eq ?_
    simp only [react]
    split <;> exact ⟨rfl, rfl⟩

theorem alters_command {c : Command} (hc : c.isPartial = false) :
    Alters a (a.command c).1 (c.opened? a) := by
  cases c with
  | clearStore | unmount => cases hc
  | toggle => exact alters_changeCanvas a (Canvas.keeps_toggle _)
  | cycle => exact alters_changeCanvas a (Canvas.keeps_cycle _)
  | hide => exact alters_changeCanvas a (Canvas.keeps_hide _)
  | deselect => exact alters_changeCanvas a (Canvas.keeps_deselect _)
  | openId | openAt => exact alters_openArtifact a _
  | ingest batch => exact alters_ingest a _ _
  | reset =>
    refine .of_eq ?_
    simp only [command, reset]
    split <;> exact ⟨rfl, rfl⟩
  | picture =>
    refine .of_eq ?_
    simp only [command]
    split
    · exact exhibit_notes a _
    · exact ⟨rfl, rfl⟩
  | shutdown =>
    obtain ⟨hstore, hcanvas⟩ := exhibit_unmount a .pipeline
    obtain ⟨hstore', hcanvas'⟩ := exhibit_unmount (a.unmount .pipeline) .canvas
    obtain ⟨hstore'', hcanvas''⟩ :=
      exhibit_unmount ((a.unmount .pipeline).unmount .canvas) .store
    exact .of_eq
      ⟨hstore''.trans (hstore'.trans hstore), hcanvas''.trans (hcanvas'.trans hcanvas)⟩
  | _ => exact .of_eq ⟨rfl, rfl⟩

/-- The store starts anew. -/
def Empties (w : Work Listener Act) : Prop :=
  ∃ s e, w = .deliver s e ∧ s.listener = .store ∧ e.signal = .newConversation

/-- **What is done empties the store, or takes nothing from it.** -/
theorem alters_doing {w : Work Listener Act} (hw : ¬ Empties w)
    (hwhole : (Happening.errand w).isPartial = false) :
    Alters a (a.doing w).1 (Moment.opened? ⟨a, .errand w, (a.doing w).1⟩) := by
  cases w with
  | publish e => exact .of_eq ⟨rfl, rfl⟩
  | deliver s e => exact alters_react fun hl he => hw ⟨s, e, rfl, hl, he⟩
  | act w =>
    cases w with
    | command who c => exact alters_command hwhole
    | give | note => exact .of_eq ⟨rfl, rfl⟩
    | conclude n g adopted => cases adopted <;> exact .of_eq ⟨rfl, rfl⟩

/-! ### What is shown -/

/-- What is selected is an artifact of the store, and the one that was opened last. -/
def Exhibits (a : App) (opened : Option Artifact) : Prop :=
  ∀ id, a.canvas.active = some id →
    ∃ x, opened = some x ∧ x.id = id ∧ a.store.find? id = some x

theorem Exhibits.alters (ha : Exhibits a o) (h : Alters a b o') : Exhibits b (o'.or o) := by
  intro id hid
  cases h with
  | keep hstore hcanvas =>
    rcases hcanvas with hnone | ⟨hsame, -⟩
    · cases hnone.symm.trans hid
    · obtain ⟨x, hopened, hx, hfound⟩ := ha id (hsame ▸ hid)
      exact ⟨x, hopened, hx, hstore id x hfound⟩
  | @select x hfound hstore hcanvas =>
    obtain rfl : x.id = id := Option.some.inj ((congrArg Canvas.active hcanvas).symm.trans hid)
    exact ⟨x, rfl, rfl, hstore ▸ hfound⟩

/-- What holds of the store and the canvas while an app goes on. -/
structure Upholds (ms : Course) (c : App × Errands) : Prop where
  seated : c.1.Seated
  paired : Paired c.2
  proper : c.1.canvas.IsProper
  exhibits : Outside c.2 → c.1.Exhibits (Course.opened? ms)

/-- Where the store is emptied the canvas is next. -/
theorem Upholds.empties {w : Work Listener Act} (h : Upholds ms (a, w :: ws)) (hw : Empties w) :
    ¬ Outside ((a.doing w).2 ++ ws) ∧ (a.doing w).1.canvas = a.canvas := by
  obtain ⟨s, ⟨source, signal⟩, rfl, hs, rfl⟩ := hw
  obtain ⟨s', hnext, hcanvas⟩ := h.paired.1 _ _ rfl hs
  have hreact : a.doing (.deliver s ⟨source, .newConversation⟩) = (a.clearStore, []) := by
    rw [doing_deliver, hs]
    rfl
  rw [hreact]
  exact ⟨fun houtside => houtside s' _ hnext hcanvas rfl, (exhibit_notes _ _).2⟩

/-- A canvas that starts anew has nothing selected. -/
theorem active_of_canvas {s : Subscription Listener} {e : Event} (hs : s.listener = .canvas)
    (he : e.signal = .newConversation) : (a.doing (.deliver s e)).1.canvas.active = none := by
  obtain ⟨source, signal⟩ := e
  obtain rfl : signal = .newConversation := he
  have hreact : a.doing (.deliver s ⟨source, .newConversation⟩) = a.changeCanvas Canvas.hide := by
    rw [doing_deliver, hs]
    rfl
  rw [hreact]
  exact congrArg Canvas.active (exhibit_notes _ _).2

/-- **What is done keeps the store and the canvas in agreement.** -/
theorem Upholds.doing {w : Work Listener Act} (h : Upholds ms (a, w :: ws))
    (hwhole : (Happening.errand w).isPartial = false) :
    Upholds (⟨a, .errand w, (a.doing w).1⟩ :: ms) ((a.doing w).1, (a.doing w).2 ++ ws) := by
  have hseated : (a.doing w).1.Seated := by
    refine h.seated.doing ?_
    rintro who part rfl
    cases hwhole
  have hpaired : Paired ((a.doing w).2 ++ ws) := h.seated.paired_doing h.paired.2
  by_cases hw : Empties w
  · obtain ⟨hinside, hcanvas⟩ := h.empties hw
    exact ⟨hseated, hpaired, hcanvas ▸ h.proper, fun houtside => absurd houtside hinside⟩
  · have halters := alters_doing (a := a) hw hwhole
    refine ⟨hseated, hpaired, halters.isProper h.proper, fun _ => ?_⟩
    rw [Course.opened?_cons]
    by_cases houtside : Outside (w :: ws)
    · exact (h.exhibits houtside).alters halters
    · -- it is the canvas's turn to be hidden, and then there is no selection
      simp only [Outside, not_forall, not_not] at houtside
      obtain ⟨s, e, hhead, hs, he⟩ := houtside
      obtain rfl : w = .deliver s e := Option.some.inj hhead
      intro id hid
      cases (active_of_canvas hs he).symm.trans hid

/-- So does a turn. -/
theorem Upholds.turn (h : Upholds ms (a, ws)) (houtside : Outside ws) (t : Turn) :
    Upholds (⟨a, .turn t, (a.enter t).1⟩ :: ms) ((a.enter t).1, (a.enter t).2 ++ ws) := by
  have halters : Alters a (a.enter t).1 none := .of_eq (store_enter a t)
  exact ⟨h.seated.enter t, .append (deliver_notMem_enter a t) h.paired,
    halters.isProper h.proper, fun _ => (h.exhibits houtside).alters halters⟩

theorem Walks.upholds (ha : a₀.IsAssembled) (hw : Walks (a₀, []) ms (a, ws))
    (hwhole : ∀ m ∈ ms, m.happening.isPartial = false) : Upholds ms (a, ws) := by
  generalize hc : (a, ws) = c at hw
  clear hc
  induction hw with
  | start =>
    refine ⟨ha.isSeated, trivial, ?_, fun _ id hid => ?_⟩
    · rw [ha.canvas]
      exact fun _ => rfl
    · rw [ha.canvas] at hid
      cases hid
  | turn t _ houtside ih =>
    exact (ih fun m hm => hwhole m (List.mem_cons_of_mem _ hm)).turn houtside t
  | errand _ ih =>
    exact (ih fun m hm => hwhole m (List.mem_cons_of_mem _ hm)).doing
      (hwhole _ List.mem_cons_self)

/-- **What is selected is in the store, and is what was opened.** An app is assembled, on a bus on
which others listen too, and goes on for as long as one likes: anything happens but that the store
is emptied or one part leaves the bus without the others. Then, also inside of every handler but
those in which the store and the canvas start anew:

* A hidden canvas has nothing selected.
* What is selected is in the store. It is what was opened last, and the canvas shows the artifact
  that was found then, whatever has come into the store since. -/
theorem Walks.selects (ha : a₀.IsAssembled) (hw : Walks (a₀, []) ms (a, ws))
    (hwhole : ∀ m ∈ ms, m.happening.isPartial = false) (houtside : Outside ws) :
    (a.canvas.mode = .hidden → a.canvas.active = none) ∧
      ∀ id, a.canvas.active = some id → id ∈ a.store.ids ∧
        ∃ x, Course.opened? ms = some x ∧ x.id = id ∧ a.canvas.artifact? a.store = some x := by
  have h := hw.upholds ha hwhole
  refine ⟨h.proper, fun id hid => ?_⟩
  obtain ⟨x, hopened, hx, hfound⟩ := h.exhibits houtside id hid
  refine ⟨(Store.of_find?_eq_some hfound).2, x, hopened, hx, ?_⟩
  rw [Canvas.artifact?, hid]
  exact hfound

/-- Somebody who listens opens an artifact when it arrives. Another one arrives under the same
identifier, and the canvas goes on showing the first. -/
theorem selects_of_repeat :
    let arrival (tag : String) : Turn :=
      .publish ⟨"test", .artifactsReceived [⟨"a", tag, "", .null, none, default⟩]⟩
    let a₀ := blank.assemble [] [(.artifactsReceived, [[.openId "a"]])] ""
    let y := stroll 4 (arrival "second") (stroll 7 (arrival "first") ([], a₀, []))
    (a₀.IsAssembled ∧ Walks (a₀, []) y.1 y.2 ∧ (∀ m ∈ y.1, m.happening.isPartial = false) ∧
        Outside y.2.2) ∧
      y.2.1.canvas.active = some "a" ∧ (Course.opened? y.1).map (·.tag) = some "first" ∧
        (y.2.1.canvas.artifact? y.2.1.store).map (·.tag) = some "first" := by
  intro arrival a₀ y
  have ha : a₀.IsAssembled := isAssembled_assemble isBare_blank _ _ ""
  have hopens := Walks.start (c := (a₀, [])) |>.stroll (x := ([], a₀, [])) .nil (arrival "first") 7
  have houtside : Outside (stroll 7 (arrival "first") ([], a₀, [])).2.2 := by
    rw [List.isEmpty_iff.mp (by decide +kernel :
      (stroll 7 (arrival "first") ([], a₀, [])).2.2.isEmpty = true)]
    exact .nil
  have hwalks : Walks (a₀, []) y.1 y.2 := hopens.stroll houtside (arrival "second") 4
  have hends : y.2.2.isEmpty = true := by decide +kernel
  have hwhole : y.1.all (fun m => !m.happening.isPartial) = true := by decide +kernel
  have hactive : y.2.1.canvas.active = some "a" := by decide +kernel
  have hfirst : (Course.opened? y.1).map (·.tag) = some "first" := by decide +kernel
  clear_value y
  obtain ⟨ms, a, ws⟩ := y
  obtain rfl : ws = [] := List.isEmpty_iff.mp hends
  have hwhole : ∀ m ∈ ms, m.happening.isPartial = false := by simpa using hwhole
  obtain ⟨-, hselected⟩ := hwalks.selects ha hwhole .nil
  obtain ⟨-, x, hlast, -, hshown⟩ := hselected "a" hactive
  refine ⟨⟨ha, hwalks, hwhole, .nil⟩, hactive, hfirst, ?_⟩
  rw [hshown, ← hlast]
  exact hfirst

end App

end Parley
