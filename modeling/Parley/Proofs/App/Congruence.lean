import Parley.Proofs.App.Affairs

/-!
# What is done at once looks at little

Commands and reactions look at the artifacts, at the canvas and at who is on the bus. They do not
look at tasks, nor at what was noticed before, and of the conversation they look at its messages
alone. So two apps that differ in nothing else go on side by side.

Which apps those are is a matter of what one compares them for. A relation between apps is a
*congruence* (`Parley.App.Congruence`) if the two never differ in what is looked at, and if the few
changes that concern conversation, tasks or trace keep it. That is all there is to show for it:
whatever is done at once keeps a congruence and leaves the same to do
(`Parley.App.Congruence.doing`), but for what concludes a reply, which is a task's own business.
-/

namespace Parley

namespace App

/-- An app with the conversation and the tasks of another. -/
def hosting (a b : App) : App :=
  { a with
    pipeline := b.pipeline
    tasks := b.tasks
    nextTask := b.nextTask
    calls := b.calls
    savedGeneration := b.savedGeneration
    saving := b.saving
    trace := b.trace }

/-- A relation between apps that commands and reactions cannot tell apart. -/
structure Congruence (R : App → App → Prop) : Prop where
  rest : ∀ {a b}, R a b → b = a.hosting b
  messages : ∀ {a b}, R a b → b.pipeline.transcript = a.pipeline.transcript
  /-- What changes neither the conversation nor the tasks, and looks at neither. -/
  update : ∀ {a b}, R a b → ∀ f : App → App,
    (∀ c d : App, f (c.hosting d) = (f c).hosting d) → R (f a) (f b)
  observe : ∀ {a b}, R a b → ∀ o : Observation, R (a.observe o) (b.observe o)
  reset : ∀ {a b}, R a b → R a.reset b.reset
  spawnLoad : ∀ {a b}, R a b → ∀ id : Int, R (a.spawnLoad id) (b.spawnLoad id)
  dismiss : ∀ {a b}, R a b → R { a with pipeline := a.pipeline.dismiss }
    { b with pipeline := b.pipeline.dismiss }
  unmount : ∀ {a b}, R a b → R { a with pipeline := a.pipeline.unmount }
    { b with pipeline := b.pipeline.unmount }

namespace Congruence

variable {R : App → App → Prop} {a b : App} (hR : Congruence R)

include hR

/-- What looks neither at the conversation nor at the tasks finds the same. -/
theorem field (h : R a b) {α : Type} (f : App → α) (hf : ∀ c d : App, f (c.hosting d) = f c) :
    f b = f a := by
  rw [hR.rest h, hf]

theorem notes (h : R a b) (ns : List Note) : R (a.notes ns) (b.notes ns) := by
  induction ns generalizing a b with
  | nil => exact h
  | cons x ns ih => exact ih (hR.observe h (.note x))

/-! ### The bus -/

theorem unsubscribe (h : R a b) (id : Nat) : R (a.unsubscribe id) (b.unsubscribe id) := by
  have hregistry := hR.field h App.registry fun _ _ => rfl
  unfold App.unsubscribe
  rw [hregistry]
  split
  · exact hR.observe (hR.update h (fun c => { c with registry := a.registry.unsubscribe id })
      fun _ _ => rfl) _
  · exact h

theorem dismissPart (h : R a b) (part : Part) : R (a.dismissPart part) (b.dismissPart part) := by
  have hids : ∀ (ids : List Nat) (a b : App), R a b →
      R (ids.foldl App.unsubscribe a) (ids.foldl App.unsubscribe b) := by
    intro ids
    induction ids with
    | nil => exact fun _ _ h => h
    | cons id ids ih => exact fun a b h => ih _ _ (hR.unsubscribe h id)
  have hmemberships := hR.field h App.memberships fun _ _ => rfl
  unfold App.dismissPart
  rw [hmemberships]
  exact hids _ _ _ (hR.update h
    (fun c => { c with memberships := a.memberships.filter (·.1 ≠ part) }) fun _ _ => rfl)

theorem leave (h : R a b) (part : Part) : R (a.unmount part) (b.unmount part) := by
  cases part with
  | pipeline => exact hR.observe (hR.dismissPart (hR.unmount h) .pipeline) _
  | canvas => exact hR.dismissPart h .canvas
  | store => exact hR.observe (hR.dismissPart h .store) _

/-! ### The canvas and the store -/

theorem changeCanvas (h : R a b) (f : Canvas → Canvas) :
    R (a.changeCanvas f).1 (b.changeCanvas f).1 ∧ (b.changeCanvas f).2 = (a.changeCanvas f).2 := by
  have hcanvas := hR.field h App.canvas fun _ _ => rfl
  unfold App.changeCanvas
  rw [hcanvas]
  exact ⟨hR.notes (hR.update h (fun c => { c with canvas := f a.canvas }) fun _ _ => rfl) _, rfl⟩

theorem openArtifact (h : R a b) (id : String) :
    R (a.openArtifact id).1 (b.openArtifact id).1 ∧
      (b.openArtifact id).2 = (a.openArtifact id).2 := by
  have hstore := hR.field h App.store fun _ _ => rfl
  unfold App.openArtifact
  rw [hstore]
  split
  · rename_i x hx
    obtain ⟨hcanvas, herrands⟩ := hR.changeCanvas h (·.select x.id)
    exact ⟨hcanvas, congrArg (·, some x) herrands⟩
  · exact ⟨hR.observe h _, rfl⟩

theorem ingest (h : R a b) (batch : List Artifact) :
    R (a.ingest batch).1 (b.ingest batch).1 ∧ (b.ingest batch).2 = (a.ingest batch).2 := by
  have hstore := hR.field h App.store fun _ _ => rfl
  have hsupply := hR.field h App.supply fun _ _ => rfl
  unfold App.ingest
  rw [hstore, hsupply]
  exact ⟨hR.notes (hR.update h (fun c => { c with
    store := (a.store.ingest batch a.supply).store
    supply := (a.store.ingest batch a.supply).supply }) fun _ _ => rfl) _, rfl⟩

theorem clearStore (h : R a b) : R a.clearStore b.clearStore := by
  have hstore := hR.field h App.store fun _ _ => rfl
  unfold App.clearStore
  rw [hstore]
  exact hR.notes (hR.update h (fun c => { c with store := .empty }) fun _ _ => rfl) _

/-! ### Commands and reactions -/

theorem command (h : R a b) (c : Command) :
    R (a.command c).1 (b.command c).1 ∧ (b.command c).2 = (a.command c).2 := by
  have hopens : ∀ id, R (a.command (.openId id)).1 (b.command (.openId id)).1 ∧
      (b.command (.openId id)).2 = (a.command (.openId id)).2 := by
    intro id
    obtain ⟨hopen, herrands⟩ := hR.openArtifact h id
    exact ⟨hopen, congrArg (fun x => (x.1, Result.chosen (x.2.map (·.id)))) herrands⟩
  cases c with
  | reset => exact ⟨hR.reset h, rfl⟩
  | dismiss => exact ⟨hR.dismiss h, rfl⟩
  | unmount part => exact ⟨hR.leave h part, rfl⟩
  | shutdown => exact ⟨hR.leave (hR.leave (hR.leave h .pipeline) .canvas) .store, rfl⟩
  | toggle | cycle | hide | deselect =>
    obtain ⟨hcanvas, herrands⟩ := hR.changeCanvas h _
    exact ⟨hcanvas, congrArg (·, Result.done) herrands⟩
  | openId id => exact hopens id
  | openAt index =>
    have hstore := hR.field h App.store fun _ _ => rfl
    have hindex : b.command (.openAt index) =
        b.command (.openId (((a.store.items[index]?).map (·.id)).getD "")) := by
      rw [← hstore]
      rfl
    rw [hindex]
    exact hopens _
  | picture =>
    have hshown := hR.field h (fun c => c.canvas.artifact? c.store) fun _ _ => rfl
    have hplotter := hR.field h App.plotter fun _ _ => rfl
    simp only [App.command, hshown, hplotter]
    split
    · rename_i shown hactive
      cases Picture.ofArtifact a.plotter shown with
      | mk p ns => exact ⟨hR.notes h ns, rfl⟩
    · exact ⟨h, rfl⟩
  | ingest batch =>
    have hsupply := hR.field h App.supply fun _ _ => rfl
    obtain ⟨hingest, hcount⟩ := hR.ingest (hR.update h (fun c => { c with
      supply := (batch a.supply).2 }) fun _ _ => rfl) (batch a.supply).1
    simp only [App.command, hsupply]
    exact ⟨hingest, congrArg (fun k => ([], Result.count k)) hcount⟩
  | clearStore => exact ⟨hR.clearStore h, rfl⟩
  | emit source signal =>
    exact ⟨hR.update h (fun c => (c.command (.emit source signal)).1) fun _ _ => rfl,
      hR.field h (fun c => (c.command (.emit source signal)).2) fun _ _ => rfl⟩
  | messages =>
    simp only [App.command, hR.messages h]
    exact ⟨h, trivial⟩
  | announce | active | find | artifacts | counts =>
    refine ⟨h, ?_⟩
    exact hR.field h (fun c => (c.command _).2) fun _ _ => rfl

theorem react (h : R a b) (l : Listener) (e : Event) :
    R (a.react l e).1 (b.react l e).1 ∧ (b.react l e).2 = (a.react l e).2 := by
  obtain ⟨source, signal⟩ := e
  cases l with
  | store =>
    cases signal with
    | artifactsReceived batch => exact ⟨(hR.ingest h batch).1, rfl⟩
    | newConversation => exact ⟨hR.clearStore h, rfl⟩
    | _ => exact ⟨h, rfl⟩
  | canvas =>
    cases signal with
    | artifactsReceived batch =>
      simp only [App.react]
      split
      · exact ⟨h, rfl⟩
      · exact hR.changeCanvas h _
    | toggleCanvas => exact hR.changeCanvas h _
    | newConversation => exact hR.changeCanvas h _
    | _ => exact ⟨h, rfl⟩
  | pipeline =>
    cases signal with
    | newConversation => exact ⟨hR.reset h, rfl⟩
    | conversationSelected id => exact ⟨hR.spawnLoad h id, rfl⟩
    | _ => exact ⟨h, rfl⟩
  | observer j =>
    have hheard := hR.observe h (.heard j ⟨source, signal⟩)
    have hobservers := hR.field hheard App.observers fun _ _ => rfl
    simp only [App.react, hobservers]
    split
    · rename_i script more hscript
      exact ⟨hR.update hheard (fun c => { c with
        observers := (a.observe (.heard j ⟨source, signal⟩)).observers.set j ⟨more⟩ })
        fun _ _ => rfl, rfl⟩
    · exact ⟨hheard, rfl⟩

/-- **Doing the same keeps a congruence**, and leaves the same to do, unless it concludes a reply. -/
theorem doing (h : R a b) {w : Work Listener Act} (hw : closing? w = none) :
    R (a.doing w).1 (b.doing w).1 ∧ (b.doing w).2 = (a.doing w).2 := by
  cases w with
  | publish e =>
    have hregistry := hR.field h App.registry fun _ _ => rfl
    rw [doing_publish, doing_publish, hregistry]
    exact ⟨hR.observe h _, rfl⟩
  | deliver l e =>
    rw [doing_deliver, doing_deliver]
    exact hR.react h l.listener e
  | act w =>
    rw [doing_act, doing_act]
    cases w with
    | command who c =>
      obtain ⟨hcommand, herrands⟩ := hR.command h c
      exact ⟨hcommand,
        congrArg (fun x : Errands × Result => x.1 ++ [.act (.give who x.2)]) herrands⟩
    | give who r => exact ⟨hR.observe h _, rfl⟩
    | note x => exact ⟨hR.observe h _, rfl⟩
    | conclude n g adopted => cases hw

end Congruence

end App

end Parley
