import Parley.Proofs.App.Congruence
import Parley.Proofs.App.Orderly

/-!
# Apps that differ by a task

A task may have ended in one run of an app and still be waiting in another. Two apps are alike up
to the task (`Parley.App.Alike`) if nothing else tells them apart: all they are is the same, the
other tasks are the same, and so is what was noticed, but for the task's own end and the note it
leaves. The point of the relation is `Parley.App.Alike.turn`: apps that are alike stay alike
whatever happens to both of them, as long as it does not happen to the task itself. So nobody can
find out from what comes later whether, or when, the task ended.

Nothing an app does at once ever looks at the trace or at its tasks, so this is a congruence
(`Parley.App.Alike.congruence`); and a turn looks at a task only when the task is named.
-/

namespace Parley

/-- What the end of a task leaves in the trace, with a note `d` about it. -/
def Observation.isLeftBy (n : Nat) (d : Note) : Observation → Bool
  | .ended m _ => m = n
  | .note x => x = d
  | _ => false

/-- The task that a turn is for. -/
def Turn.task? : Turn → Option Nat
  | .advance n | .answer n _ | .giveSession n _ | .giveSaved n _ => some n
  | _ => none

namespace App

/-- An app as it looks to those who do not know of a task. -/
def without (a : App) (n : Nat) (d : Note) : App :=
  { a with
    tasks := a.tasks.filter (·.name ≠ n)
    trace := a.trace.filter fun o => !o.isLeftBy n d }

/-- Two apps that differ by a task at most. -/
structure Alike (n : Nat) (d : Note) (a b : App) : Prop where
  rest : b = { a with tasks := b.tasks, trace := b.trace }
  tasks : b.tasks.filter (·.name ≠ n) = a.tasks.filter (·.name ≠ n)
  trace : (b.trace.filter fun o => !o.isLeftBy n d) = a.trace.filter fun o => !o.isLeftBy n d

variable {n m : Nat} {d : Note} {a b : App}

theorem alike_iff : Alike n d a b ↔ a.without n d = b.without n d := by
  constructor
  · rintro ⟨hrest, htasks, htrace⟩
    rw [hrest]
    simp only [without, htasks, htrace]
  · intro h
    obtain ⟨⟩ := a
    obtain ⟨⟩ := b
    simp only [without, mk.injEq] at h
    obtain ⟨rfl, rfl, rfl, rfl, rfl, rfl, rfl, rfl, rfl, rfl, htasks, rfl, rfl, rfl, rfl, htrace⟩ :=
      h
    exact ⟨rfl, htasks.symm, htrace.symm⟩

namespace Alike

/-- The one app with other tasks and another trace is the other. -/
theorem exists_eq (h : Alike n d a b) : ∃ ts tr, b = { a with tasks := ts, trace := tr } ∧
    ts.filter (·.name ≠ n) = a.tasks.filter (·.name ≠ n) ∧
      (tr.filter fun o => !o.isLeftBy n d) = a.trace.filter fun o => !o.isLeftBy n d :=
  ⟨_, _, h.rest, h.tasks, h.trace⟩

/-- What looks neither at the tasks nor at the trace finds the same. -/
theorem field (h : Alike n d a b) {α : Type} (f : App → α)
    (hf : ∀ (c : App) ts tr, f { c with tasks := ts, trace := tr } = f c) : f b = f a := by
  rw [h.rest, hf]

/-- What changes neither the tasks nor the trace, and looks at neither, leaves apps alike. -/
theorem update (h : Alike n d a b) (f : App → App) (hf : ∀ (c : App) ts tr,
    f { c with tasks := ts, trace := tr } = { f c with tasks := ts, trace := tr }) :
    Alike n d (f a) (f b) := by
  have ha : f a = { f a with tasks := a.tasks, trace := a.trace } := hf a a.tasks a.trace
  have hb : f b = { f a with tasks := b.tasks, trace := b.trace } := by
    rw [h.rest]
    exact hf a _ _
  rw [ha, hb]
  exact ⟨rfl, h.tasks, h.trace⟩

theorem ite {p : Prop} [Decidable p] {a' b' : App} (h : Alike n d a b) (h' : Alike n d a' b') :
    Alike n d (if p then a else a') (if p then b else b') := by
  split
  · exact h
  · exact h'

/-! ### Small changes -/

theorem observe (h : Alike n d a b) (o : Observation) : Alike n d (a.observe o) (b.observe o) := by
  obtain ⟨ts, tr, rfl, htasks, htrace⟩ := h.exists_eq
  refine ⟨rfl, htasks, ?_⟩
  simp only [App.observe, List.filter_cons, htrace]

/-- The task itself ends, and something is noted of it. -/
theorem of_endTask (a : App) (n : Nat) (d : Note) (o : Outcome) :
    Alike n d a ((a.note d).endTask n o) := by
  refine ⟨rfl, ?_, ?_⟩
  · simp [App.endTask, App.note, App.observe]
  · simp [App.endTask, App.note, App.observe, Observation.isLeftBy]

theorem addTask (h : Alike n d a b) (s : Stage) : Alike n d (a.addTask s) (b.addTask s) := by
  obtain ⟨ts, tr, rfl, htasks, htrace⟩ := h.exists_eq
  refine ⟨rfl, ?_, htrace⟩
  simp only [App.addTask, List.filter_append, htasks]

theorem setStage (h : Alike n d a b) (m : Nat) (s : Stage) :
    Alike n d (a.setStage m s) (b.setStage m s) := by
  have hmap : ∀ ts : List Task,
      (ts.map fun t => if t.name = m then { t with stage := s } else t).filter (·.name ≠ n) =
        (ts.filter (·.name ≠ n)).map fun t => if t.name = m then { t with stage := s } else t := by
    intro ts
    rw [List.filter_map]
    congr 2
    funext t
    by_cases ht : t.name = m <;> simp [ht]
  obtain ⟨ts, tr, rfl, htasks, htrace⟩ := h.exists_eq
  refine ⟨rfl, ?_, htrace⟩
  simp only [App.setStage, hmap, htasks]

theorem endTask (h : Alike n d a b) (m : Nat) (o : Outcome) :
    Alike n d (a.endTask m o) (b.endTask m o) := by
  have hfilter : ∀ ts : List Task, (ts.filter (·.name ≠ m)).filter (·.name ≠ n) =
      (ts.filter (·.name ≠ n)).filter (·.name ≠ m) := by
    intro ts
    rw [List.filter_filter, List.filter_filter]
    simp only [Bool.and_comm]
  obtain ⟨ts, tr, rfl, htasks, htrace⟩ := h.exists_eq
  refine observe ⟨rfl, ?_, htrace⟩ _
  rw [hfilter, hfilter, htasks]

theorem ask (h : Alike n d a b) (m : Nat) (c : Call) (s : Nat → Stage) :
    Alike n d (a.ask m c s) (b.ask m c s) := by
  have hset := h.setStage m (s a.calls)
  obtain ⟨ts, tr, rfl, htasks, htrace⟩ := h.exists_eq
  have hcalls : Alike n d { a.setStage m (s a.calls) with calls := a.calls + 1 }
      { ({ a with tasks := ts, trace := tr } : App).setStage m (s a.calls) with
        calls := a.calls + 1 } := ⟨rfl, hset.tasks, htrace⟩
  exact hcalls.observe _

/-- What a task other than the one in question is at. -/
theorem stage?_eq (h : Alike n d a b) (hm : m ≠ n) : b.stage? m = a.stage? m := by
  have hfind : ∀ ts : List Task,
      (ts.filter (·.name ≠ n)).find? (·.name = m) = ts.find? (·.name = m) := by
    intro ts
    rw [List.find?_filter]
    congr 1
    funext t
    by_cases ht : t.name = m <;> simp [ht, hm]
  rw [stage?, stage?, task?, task?, ← hfind, ← hfind a.tasks, h.tasks]

theorem reset (h : Alike n d a b) : Alike n d a.reset b.reset := by
  obtain ⟨ts, tr, rfl, htasks, htrace⟩ := h.exists_eq
  have hp : Alike n d ({ a with pipeline := a.pipeline.reset }.note Pipeline.resetNote)
      ({ a with pipeline := a.pipeline.reset, tasks := ts, trace := tr }.note
        Pipeline.resetNote) := observe ⟨rfl, htasks, htrace⟩ _
  exact ite (hp.addTask _) (hp.observe _)

theorem spawnLoad (h : Alike n d a b) (id : Int) : Alike n d (a.spawnLoad id) (b.spawnLoad id) := by
  obtain ⟨ts, tr, rfl, htasks, htrace⟩ := h.exists_eq
  exact ite (h.addTask _) (h.observe _)

/-! ### What is done at once -/

/-- **Nothing that is done at once tells apps apart that are alike.** -/
theorem congruence : Congruence (Alike n d) where
  rest h := by
    obtain ⟨ts, tr, rfl, -⟩ := h.exists_eq
    rfl
  messages h := h.field (·.pipeline.transcript) fun _ _ _ => rfl
  update {a b} h f hf := by
    obtain ⟨ts, tr, rfl, htasks, htrace⟩ := h.exists_eq
    have ha : f a = (f a).hosting a := hf a a
    have hb := hf a { a with tasks := ts, trace := tr }
    rw [ha]
    exact hb ▸ ⟨rfl, htasks, htrace⟩
  observe h := h.observe
  reset h := h.reset
  spawnLoad h := h.spawnLoad
  dismiss h := h.update (fun c => { c with pipeline := c.pipeline.dismiss }) fun _ _ _ => rfl
  unmount h := h.update (fun c => { c with pipeline := c.pipeline.unmount }) fun _ _ _ => rfl

theorem notes (h : Alike n d a b) (ns : List Note) : Alike n d (a.notes ns) (b.notes ns) :=
  congruence.notes h ns

/-- **Doing the same leaves apps alike**, and leaves the same to do. -/
theorem doing (h : Alike n d a b) (w : Work Listener Act) :
    Alike n d (a.doing w).1 (b.doing w).1 ∧ (b.doing w).2 = (a.doing w).2 := by
  cases hclosing : closing? w with
  | none => exact congruence.doing h hclosing
  | some y =>
    obtain ⟨m, g, adopted⟩ := y
    obtain rfl := eq_of_closing? hclosing
    cases adopted with
    | some id => exact ⟨(h.observe _).setStage _ _, rfl⟩
    | none => exact ⟨h.endTask _ _, rfl⟩

theorem settle (h : Alike n d a b) (ws : Errands) : Alike n d (a.settle ws) (b.settle ws) := by
  have hrun : ∀ (k : Nat) (ws : Errands) (a b : App), Alike n d a b →
      Alike n d (delivery.run k (a, ws)).1 (delivery.run k (b, ws)).1 := by
    intro k
    induction k with
    | zero => exact fun _ _ _ h => h
    | succ k ih =>
      intro ws a b h
      cases ws with
      | nil => exact h
      | cons w ws =>
        obtain ⟨hdoing, herrands⟩ := h.doing w
        rw [Delivery.run_succ_cons, Delivery.run_succ_cons, step_cons, step_cons, herrands]
        exact ih _ _ _ hdoing
  -- both have the same number of things to do, so they are followed in step
  have hbound : b.workBound ws = a.workBound ws := h.field (·.workBound ws) fun _ _ _ => rfl
  rw [App.settle, App.settle, hbound]
  exact hrun _ ws a b h

/-! ### Turns -/

theorem startLoad (h : Alike n d a b) (m : Nat) (id : Int) (errand : Errand) :
    Alike n d (a.startLoad m id errand) (b.startLoad m id errand) := by
  have hpipeline := h.field App.pipeline fun _ _ _ => rfl
  unfold App.startLoad
  rw [hpipeline]
  exact ((h.update (fun c => { c with pipeline := a.pipeline.startLoad }) fun _ _ _ => rfl).observe
    _).ask m _ _

theorem pose (h : Alike n d a b) (m : Nat) (q : Question) (g : Nat) :
    Alike n d (a.pose m q g) (b.pose m q g) := by
  have hpipeline := h.field App.pipeline fun _ _ _ => rfl
  unfold App.pose
  rw [hpipeline]
  exact (h.update (fun c => { c with pipeline := a.pipeline.pose g }) fun _ _ _ => rfl).ask m _ _

theorem begin (h : Alike n d a b) (m : Nat) (o : Operation) :
    Alike n d (a.begin m o) (b.begin m o) := by
  have hpipeline := h.field App.pipeline fun _ _ _ => rfl
  have hpersona := h.field (·.profile.persona) fun _ _ _ => rfl
  have hsupply := h.field App.supply fun _ _ _ => rfl
  cases o with
  | send text =>
    simp only [App.begin, hpipeline, hpersona, hsupply]
    split
    · rename_i p q supply hsend
      exact (h.update (fun c => { c with pipeline := p, supply }) fun _ _ _ => rfl).setStage
        m _
    · exact (h.observe _).endTask m _
  | retry =>
    simp only [App.begin, hpipeline, hpersona]
    split
    · rename_i p q hretry
      exact ((h.update (fun c => { c with pipeline := p }) fun _ _ _ => rfl).observe _).setStage m _
    · exact (h.observe _).endTask m _
  | load id => exact h.startLoad m id _
  | restore => exact h.setStage m _
  | list =>
    have hcall := h.field (fun c => Call.summaries c.profile.userId c.profile.historyLimit)
      fun _ _ _ => rfl
    simp only [App.begin, hcall]
    exact h.ask m _ _

theorem startSave (h : Alike n d a b) (m g : Nat) (s : SavedSession) (o : Outcome) :
    Alike n d (a.startSave m g s o) (b.startSave m g s o) := by
  obtain ⟨ts, tr, rfl, htasks, htrace⟩ := h.exists_eq
  unfold App.startSave
  refine ite h (ite ((h.observe _).endTask m o) ?_)
  exact ((h.update (fun c => { c with saving := some m }) fun _ _ _ => rfl).setStage m _).observe _

theorem advance (h : Alike n d a b) (hm : m ≠ n) : Alike n d (a.advance m) (b.advance m) := by
  unfold App.advance
  rw [h.stage?_eq hm]
  split
  · exact h.begin m _
  · exact h.startLoad m _ _
  · exact h.pose m _ _
  · exact h.startSave m _ _ _
  · exact h

theorem takeReply (h : Alike n d a b) (m g : Nat) (r : Except Failure Reply) :
    Alike n d (a.takeReply m g r).1 (b.takeReply m g r).1 ∧
      (b.takeReply m g r).2 = (a.takeReply m g r).2 := by
  have hpipeline := h.field App.pipeline fun _ _ _ => rfl
  have hsupply := h.field App.supply fun _ _ _ => rfl
  unfold App.takeReply
  rw [hpipeline, hsupply]
  obtain ⟨p, receipt, ns, supply⟩ := a.pipeline.receive g r a.supply
  have hnotes := (h.update (fun c => { c with pipeline := p, supply := supply })
    fun _ _ _ => rfl).notes ns
  cases receipt with
  | stale => exact ⟨hnotes.endTask m _, rfl⟩
  | failed k => exact ⟨hnotes.endTask m _, rfl⟩
  | delivered x as adopted => exact ⟨hnotes.setStage m _, rfl⟩

theorem takeEntries (h : Alike n d a b) (m : Nat) (id : Int) (g : Nat) (errand : Errand)
    (r : Except Failure (List HistoryEntry)) :
    Alike n d (a.takeEntries m id g errand r) (b.takeEntries m id g errand r) := by
  have hpipeline := h.field App.pipeline fun _ _ _ => rfl
  have hsupply := h.field App.supply fun _ _ _ => rfl
  unfold App.takeEntries
  rw [hpipeline, hsupply]
  obtain ⟨p, receipt, ns, supply⟩ := a.pipeline.receiveEntries id g r a.supply
  have hnotes := (h.update (fun c => { c with pipeline := p, supply := supply })
    fun _ _ _ => rfl).notes ns
  cases receipt with
  | stale => exact hnotes.endTask m _
  | failed f => exact (ite (hnotes.observe _) hnotes).endTask m _
  | loaded => exact hnotes.setStage m _

theorem takeAnswer (h : Alike n d a b) (hm : m ≠ n) (r : Answer) :
    Alike n d (a.takeAnswer m r).1 (b.takeAnswer m r).1 ∧
      (b.takeAnswer m r).2 = (a.takeAnswer m r).2 := by
  unfold App.takeAnswer
  rw [h.stage?_eq hm]
  split
  · exact h.takeReply m _ _
  · exact ⟨h.takeEntries m _ _ _ _, rfl⟩
  · exact ⟨h.endTask m _, rfl⟩
  · exact ⟨h, rfl⟩

theorem giveSession (h : Alike n d a b) (hm : m ≠ n) (r : Except Failure SavedSession) :
    Alike n d (a.giveSession m r) (b.giveSession m r) := by
  unfold App.giveSession
  rw [h.stage?_eq hm]
  split
  · split
    · exact (h.observe _).endTask m _
    · exact h.endTask m _
    · exact h.startLoad m _ _
  · exact h

theorem giveSaved (h : Alike n d a b) (hm : m ≠ n) (r : Except Failure Unit) :
    Alike n d (a.giveSaved m r) (b.giveSaved m r) := by
  unfold App.giveSaved
  rw [h.stage?_eq hm]
  split
  · rename_i g s o hstage
    cases r with
    | ok u =>
      exact (h.update (fun c => { c with saving := none, savedGeneration := g })
        fun _ _ _ => rfl).endTask m _
    | error f =>
      exact ((h.observe _).update (fun c => { c with saving := none, savedGeneration := g })
        fun _ _ _ => rfl).endTask m _
  · exact h

/-- **A turn for anyone but the task leaves apps alike.** -/
theorem turn (h : Alike n d a b) (t : Turn) (ht : t.task? ≠ some n) :
    Alike n d (a.turn t) (b.turn t) := by
  have henter : Alike n d (a.enter t).1 (b.enter t).1 ∧ (b.enter t).2 = (a.enter t).2 := by
    -- a turn of a task is one of another task
    have hm : ∀ m, t.task? = some m → m ≠ n := fun m hm hn => ht (hn ▸ hm)
    cases t with
    | call o => exact ⟨h.addTask _, rfl⟩
    | publish e => exact ⟨h, rfl⟩
    | tell c => exact ⟨h, rfl⟩
    | jot x => exact ⟨h.observe _, rfl⟩
    | advance m => exact ⟨h.advance (hm m rfl), rfl⟩
    | answer m r => exact h.takeAnswer (hm m rfl) r
    | giveSession m r => exact ⟨h.giveSession (hm m rfl) r, rfl⟩
    | giveSaved m r => exact ⟨h.giveSaved (hm m rfl) r, rfl⟩
  rw [App.turn, App.turn, henter.2]
  exact henter.1.settle _

end Alike

end App

end Parley
