import Parley.Proofs.App.Assembly
import Parley.Shell.Session

/-!
# An app that is served line by line

At the prompt an app has the same bus all the time: its parts, which never leave it before the end,
and the two who print what they hear (`Parley.Shell.IsStaffed`). What those print is read off the
trace (`Parley.Shell.spoken`). So whatever leaves the conversation and its tasks alone, and makes
the two say nothing but that the canvas was opened or closed, can be passed over: it is *calm*
(`Parley.Shell.isCalm`), it leads to nothing that is not, and when all of it is done the conversation
is as it was (`Parley.Shell.shows_settle`).
-/

namespace Parley

namespace Shell

open App

variable {p : Profile} {a b c : App} {lines more : List String}

/-! ### Who listens, and what is printed -/

/-- The bus of a session: the parts, and the two who print. -/
def bus : Registry Listener where
  next := 9
  subscriptions := [⟨0, .artifactsReceived, .store⟩, ⟨1, .newConversation, .store⟩,
    ⟨2, .artifactsReceived, .canvas⟩, ⟨3, .toggleCanvas, .canvas⟩, ⟨4, .newConversation, .canvas⟩,
    ⟨5, .newConversation, .pipeline⟩, ⟨6, .conversationSelected, .pipeline⟩,
    ⟨7, .canvasStateChanged, .observer canvasObserver⟩,
    ⟨8, .messageReceived, .observer messageObserver⟩]

/-- Everybody is at work: the parts and the two who print are on the bus, and the conversation is
mounted. -/
structure IsStaffed (p : Profile) (a : App) : Prop where
  profile : a.profile = p
  registry : a.registry = bus
  /-- The two only print. -/
  observers : a.observers = [⟨[]⟩, ⟨[]⟩]
  alive : a.pipeline.alive = true

/-- What the two have printed since the trace was emptied. -/
def spoken (a : App) : List String := a.trace.reverse.flatMap printedOf

@[simp] theorem spoken_observe (a : App) (o : Observation) :
    spoken (a.observe o) = spoken a ++ printedOf o := by
  simp [spoken, observe]

@[simp] theorem spoken_note (a : App) (x : Note) : spoken (a.note x) = spoken a := by
  simp [note, printedOf]

@[simp] theorem spoken_notes (a : App) (xs : List Note) : spoken (a.notes xs) = spoken a := by
  induction xs generalizing a with
  | nil => rfl
  | cons x xs ih => exact (ih (a.note x)).trans (spoken_note a x)

/-- Some lines are printed, and besides that only the artifacts and the canvas can have changed. -/
structure Shows (a b : App) (lines : List String) : Prop where
  assembly : b.assembly = a.assembly
  observers : b.observers = a.observers
  affairs : b.affairs [] = a.affairs []
  spoken : spoken b = spoken a ++ lines

namespace Shows

theorem refl (a : App) : Shows a a [] := ⟨rfl, rfl, rfl, (List.append_nil _).symm⟩

theorem trans (h : Shows a b lines) (h' : Shows b c more) : Shows a c (lines ++ more) :=
  ⟨h'.assembly.trans h.assembly, h'.observers.trans h.observers, h'.affairs.trans h.affairs,
    by rw [h'.spoken, h.spoken, List.append_assoc]⟩

theorem notes (h : Shows a b lines) (xs : List Note) : Shows a (b.notes xs) lines :=
  ⟨(congrArg Prod.fst (fittings_notes b xs)).trans h.assembly,
    (observers_notes b xs).trans h.observers, (affairs_notes b [] xs).trans h.affairs,
    (spoken_notes b xs).trans h.spoken⟩

theorem pipeline (h : Shows a b lines) : b.pipeline = a.pipeline :=
  congrArg Affairs.pipeline h.affairs

theorem tasks (h : Shows a b lines) : b.tasks = a.tasks := congrArg Affairs.tasks h.affairs

theorem saving (h : Shows a b lines) : b.saving = a.saving := congrArg Affairs.saving h.affairs

theorem isStaffed (h : Shows a b lines) (ha : IsStaffed p a) : IsStaffed p b where
  profile := (congrArg (·.1) h.assembly).trans ha.profile
  registry := (congrArg (·.2.1) h.assembly).trans ha.registry
  observers := h.observers.trans ha.observers
  alive := h.pipeline ▸ ha.alive

end Shows

/-- Lines about the canvas. -/
def AboutCanvas (lines : List String) : Prop := ∀ l ∈ lines, ∃ o, l = canvasLine o

/-- A signal that is none of the conversation's business. -/
def isCalmSignal : Signal → Bool
  | .artifactsReceived _ | .toggleCanvas | .canvasStateChanged _ => true
  | _ => false

/-- A thing to do that is none of the conversation's business. -/
def isCalm : Work Listener Act → Bool
  | .publish e | .deliver _ e => isCalmSignal e.signal
  | .act (.command _ c) =>
    match c with
    | .announce s => isCalmSignal s
    | .cycle | .hide | .deselect | .openId _ => true
    | _ => false
  | .act (.conclude _ _ _) => false
  | .act _ => true

theorem aboutCanvas_nil : AboutCanvas [] := List.forall_mem_nil _

theorem AboutCanvas.append (h : AboutCanvas lines) (h' : AboutCanvas more) :
    AboutCanvas (lines ++ more) :=
  fun l hl => (List.mem_append.mp hl).elim (h l) (h' l)

/-- What is put into the store or shown on the canvas may draw on the supply. -/
theorem Shows.of_eq {store : Store} {canvas : Canvas} {supply : Supply} {xs : List Note}
    (h : b = ({ a with store, canvas, supply } : App).notes xs) : Shows a b [] := by
  have hchanged : Shows a { a with store, canvas, supply } [] :=
    ⟨rfl, rfl, rfl, (List.append_nil _).symm⟩
  rw [h]
  exact hchanged.notes xs

theorem shows_changeCanvas (a : App) (f : Canvas → Canvas) : Shows a (a.changeCanvas f).1 [] :=
  .of_eq rfl

theorem shows_ingest (a : App) (batch : List Artifact) : Shows a (a.ingest batch).1 [] :=
  .of_eq rfl

theorem shows_clearStore (a : App) : Shows a a.clearStore [] := .of_eq rfl

theorem shows_openArtifact (a : App) (id : String) : Shows a (a.openArtifact id).1 [] := by
  unfold App.openArtifact
  split
  · exact shows_changeCanvas a (·.select _)
  · exact (Shows.refl a).notes [_]

/-- The canvas leaves to do at most what concerns nobody else. -/
theorem isCalm_changeCanvas (a : App) (f : Canvas → Canvas) :
    ∀ w ∈ (a.changeCanvas f).2, isCalm w = true := by
  intro w hw
  rcases changeCanvas_errands a f with h | ⟨o, h⟩
  · rw [h] at hw
    cases hw
  · rw [h] at hw
    obtain rfl := List.mem_singleton.mp hw
    rfl

theorem isCalm_openArtifact (a : App) (id : String) :
    ∀ w ∈ (a.openArtifact id).2.1, isCalm w = true := by
  unfold App.openArtifact
  split
  · exact isCalm_changeCanvas a (·.select _)
  · exact List.forall_mem_nil _

/-- An observer has no script, so it only hears. -/
theorem react_observer (ha : a.observers = [⟨[]⟩, ⟨[]⟩]) (n : Nat) (e : Event) :
    a.react (.observer n) e = (a.observe (.heard n e), []) := by
  obtain ⟨source, signal⟩ := e
  simp only [react]
  split
  · rename_i script more hn
    have hn : a.observers[n]? = some ⟨script :: more⟩ := hn
    rw [ha] at hn
    rcases n with _ | _ | n <;> simp at hn
  · rfl

/-- **Who is handed a calm signal** leaves the conversation alone, prints at most a line about the
canvas, and leaves nothing else to do. -/
theorem shows_react (ha : a.observers = [⟨[]⟩, ⟨[]⟩]) (l : Listener) {e : Event}
    (he : isCalmSignal e.signal = true) :
    (∃ shown, AboutCanvas shown ∧ Shows a (a.react l e).1 shown) ∧
      ∀ w ∈ (a.react l e).2, isCalm w = true := by
  have hnothing : (∃ shown, AboutCanvas shown ∧ Shows a a shown) ∧
      ∀ w ∈ ([] : Errands), isCalm w = true :=
    ⟨⟨[], aboutCanvas_nil, .refl a⟩, List.forall_mem_nil _⟩
  have hcanvas : ∀ f, (∃ shown, AboutCanvas shown ∧ Shows a (a.changeCanvas f).1 shown) ∧
      ∀ w ∈ (a.changeCanvas f).2, isCalm w = true :=
    fun f => ⟨⟨[], aboutCanvas_nil, shows_changeCanvas a f⟩, isCalm_changeCanvas a f⟩
  obtain ⟨source, signal⟩ := e
  cases l with
  | store =>
    cases signal with
    | artifactsReceived batch =>
      exact ⟨⟨[], aboutCanvas_nil, shows_ingest a batch⟩, List.forall_mem_nil _⟩
    | toggleCanvas | canvasStateChanged => exact hnothing
    | _ => cases he
  | canvas =>
    cases signal with
    | artifactsReceived batch =>
      simp only [react]
      split
      · exact hnothing
      · exact hcanvas _
    | toggleCanvas => exact hcanvas _
    | canvasStateChanged => exact hnothing
    | _ => cases he
  | pipeline =>
    cases signal with
    | artifactsReceived | toggleCanvas | canvasStateChanged => exact hnothing
    | _ => cases he
  | observer n =>
    rw [react_observer ha]
    refine ⟨⟨printedOf (.heard n ⟨source, signal⟩), ?_, rfl, rfl, rfl, spoken_observe _ _⟩,
      List.forall_mem_nil _⟩
    cases signal with
    | canvasStateChanged o =>
      simp only [printedOf]
      split
      · exact fun l hl => ⟨o, List.mem_singleton.mp hl⟩
      · exact aboutCanvas_nil
    | artifactsReceived | toggleCanvas => exact aboutCanvas_nil
    | _ => cases he

/-- **What is calm stays calm.** -/
theorem shows_doing (ha : a.observers = [⟨[]⟩, ⟨[]⟩]) {w : Work Listener Act}
    (hw : isCalm w = true) :
    (∃ shown, AboutCanvas shown ∧ Shows a (a.doing w).1 shown) ∧
      ∀ w' ∈ (a.doing w).2, isCalm w' = true := by
  cases w with
  | publish e =>
    rw [doing_publish]
    refine ⟨⟨[], aboutCanvas_nil, (Shows.refl a).notes [_]⟩, fun w' hw' => ?_⟩
    obtain ⟨s, -, rfl⟩ := List.mem_map.mp hw'
    exact hw
  | deliver l e =>
    rw [doing_deliver]
    exact shows_react ha l.listener hw
  | act w =>
    rw [doing_act]
    cases w with
    | command who c =>
      have hgive : ∀ {ws : Errands} {r : Result}, (∀ w ∈ ws, isCalm w = true) →
          ∀ w ∈ ws ++ [Work.act (Act.give who r)], isCalm w = true := by
        intro ws r hws w' hw'
        rcases List.mem_append.mp hw' with h | h
        · exact hws w' h
        · obtain rfl := List.mem_singleton.mp h
          rfl
      cases c with
      | announce s =>
        exact ⟨⟨[], aboutCanvas_nil, .refl a⟩, hgive (List.forall_mem_singleton.mpr hw)⟩
      | cycle | hide | deselect =>
        exact ⟨⟨[], aboutCanvas_nil, shows_changeCanvas a _⟩, hgive (isCalm_changeCanvas a _)⟩
      | openId id =>
        exact ⟨⟨[], aboutCanvas_nil, shows_openArtifact a id⟩, hgive (isCalm_openArtifact a id)⟩
      | _ => cases hw
    | give who r =>
      exact ⟨⟨_, aboutCanvas_nil, rfl, rfl, rfl, spoken_observe a (.gave who r)⟩,
        List.forall_mem_nil _⟩
    | note x => exact ⟨⟨[], aboutCanvas_nil, (Shows.refl a).notes [x]⟩, List.forall_mem_nil _⟩
    | conclude => cases hw

/-- **What is calm can be passed over**: when it is done, with all that it leads to, some lines about
the canvas have been printed, and the conversation is as it was. -/
theorem shows_settle (ha : a.observers = [⟨[]⟩, ⟨[]⟩]) {ws : Errands}
    (hws : ∀ w ∈ ws, isCalm w = true) :
    ∃ shown, AboutCanvas shown ∧ Shows a (a.settle ws) shown := by
  have h := settle_induction (P := fun c => (∃ shown, AboutCanvas shown ∧ Shows a c.1 shown) ∧
    ∀ w ∈ c.2, isCalm w = true) (fun b w vs hb => ?_)
    (show (∃ shown, AboutCanvas shown ∧ Shows a a shown) ∧ ∀ w ∈ ws, isCalm w = true from
      ⟨⟨[], aboutCanvas_nil, .refl a⟩, hws⟩)
  · exact h.1
  · obtain ⟨⟨shown, hshown, hb⟩, hcalm⟩ := hb
    obtain ⟨hw, hvs⟩ := List.forall_mem_cons.mp hcalm
    obtain ⟨⟨more, hmore, hdone⟩, hnext⟩ := shows_doing (hb.observers.trans ha) hw
    exact ⟨⟨_, hshown.append hmore, hb.trans hdone⟩,
      fun w' hw' => (List.mem_append.mp hw').elim (hnext w') (hvs w')⟩

end Shell

end Parley
