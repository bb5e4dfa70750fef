import Parley.Proofs.App.Alike
import Parley.Proofs.App.Congruence
import Parley.Proofs.App.Leftover

/-!
# Apps that differ by what is left over

An app *mirrors* another (`Parley.App.Mirrors`) if its conversation is some generations ahead and has
tasks left over, and nothing else tells the two apart: the store and the canvas are the same, and so
is who listens. The point of the relation is `Parley.App.Mirrors.run`: apps that mirror each other
go on to do so, whatever happens to both of them. So nobody can find out from what comes later
whether anything is left over, or what comes of it.

There is one way to tell the two apart, which is to wait. While a task that is left over saves its
session no other task can, so a turn of a task that waits to do so is in vain
(`Parley.App.IsInVain`). It changes nothing (`Parley.App.run_heeded`), and it is not counted.

Neither the numbers of calls nor what is noted in the log are compared: the one app has called the
server more often, and its notes tell its generations.
-/

namespace Parley

/-- What is noticed by those who care neither for the tasks that are left over nor for the log. -/
def Observation.told? (left : List Nat) : Observation → Option Observation
  | .heard n e => some (.heard n e)
  | .gave who r => some (.gave who r)
  | .ended n o => if n ∈ left then none else some (.ended n o)
  | .note _ | .asked _ _ | .saved _ _ => none

/-- What is to be done, some generations ahead. -/
def ahead (k : Nat) : Work Listener Act → Work Listener Act
  | .act (.conclude n g adopted) => .act (.conclude n (g + k) adopted)
  | w => w

/-- Only a reply that is to be concluded is of a generation. -/
theorem ahead_of_closing? {k : Nat} {w : Work Listener Act} (hw : closing? w = none) :
    ahead k w = w := by
  unfold ahead
  split
  · cases hw
  · rfl

theorem map_ahead {k : Nat} {ws : Errands} (h : ws.filterMap closing? = []) :
    ws.map (ahead k) = ws := by
  have hid : ∀ w ∈ ws, ahead k w = id w := fun w hw =>
    ahead_of_closing? (List.filterMap_eq_nil_iff.mp h w hw)
  rw [List.map_congr_left hid, List.map_id]

namespace App

/-- What was noticed by those who care neither for the tasks that are left over nor for the log. -/
def told (a : App) (left : List Nat) : List Observation :=
  a.trace.filterMap (Observation.told? left)

theorem told_observe (a : App) (left : List Nat) (o : Observation) :
    (a.observe o).told left = (o.told? left).toList ++ a.told left := by
  rw [told, observe, List.filterMap_cons]
  cases o.told? left <;> rfl

theorem told_endTask (a : App) (left : List Nat) (n : Nat) (o : Outcome) :
    (a.endTask n o).told left = ((Observation.ended n o).told? left).toList ++ a.told left :=
  told_observe _ left _

/-- An app that is some generations ahead of another, with tasks left over. -/
structure Mirrors (left : List Nat) (k : Nat) (a b : App) : Prop where
  rest : b = a.hosting b
  affairs : (a.affairs []).Mirrors left k (b.affairs [])
  told : b.told left = a.told left

/-- A task waits in vain for its turn to save a session: another one is being saved. -/
def IsInVain (a : App) : Turn → Bool
  | .advance n =>
    match a.stage? n with
    | some (.wantSave _ _ _) => a.saving.isSome
    | _ => false
  | _ => false

variable {left : List Nat} {k n g : Nat} {a b : App} {s s' : Stage}

namespace Mirrors

/-- What looks neither at the conversation nor at the tasks finds the same. -/
theorem field (h : Mirrors left k a b) {α : Type} (f : App → α)
    (hf : ∀ c d : App, f (c.hosting d) = f c) : f b = f a := by
  rw [h.rest, hf]

theorem pipeline (h : Mirrors left k a b) : b.pipeline = a.pipeline.ahead k := h.affairs.pipeline

/-- A task that is not left over is there in both or in neither. -/
theorem stage_cases (h : Mirrors left k a b) (hn : n ∉ left) :
    a.stage? n = none ∧ b.stage? n = none ∨
      ∃ s s', a.stage? n = some s ∧ b.stage? n = some s' ∧ s.Mirrors k s' :=
  h.affairs.tasks.stage_cases hn

/-- What changes neither the conversation nor the tasks, and looks at neither. -/
theorem update (h : Mirrors left k a b) (f : App → App)
    (hf : ∀ c d : App, f (c.hosting d) = (f c).hosting d) : Mirrors left k (f a) (f b) := by
  have ha : f a = (f a).hosting a := hf a a
  have hb : f b = (f a).hosting b := by
    conv_lhs => rw [h.rest]
    exact hf a b
  rw [hb, ha]
  exact ⟨rfl, h.affairs.congr rfl rfl, h.told⟩

theorem withPipeline (h : Mirrors left k a b) (p : Pipeline) :
    Mirrors left k { a with pipeline := p } { b with pipeline := p.ahead k } := by
  refine ⟨?_, h.affairs.withPipeline p, h.told⟩
  rw [h.rest]
  rfl

theorem ite {p : Prop} [Decidable p] {a' b' : App} (h : Mirrors left k a b)
    (h' : Mirrors left k a' b') :
    Mirrors left k (if p then a else a') (if p then b else b') := by
  split
  · exact h
  · exact h'

/-! ### Small changes -/

/-- Something is noticed, and as far as it is told it is the same. -/
theorem observe₂ (h : Mirrors left k a b) {o o' : Observation}
    (ho : o'.told? left = o.told? left) : Mirrors left k (a.observe o) (b.observe o') := by
  refine ⟨?_, h.affairs.congr rfl rfl, ?_⟩
  · rw [h.rest]
    rfl
  · rw [told_observe, told_observe, ho, h.told]

theorem observe (h : Mirrors left k a b) (o : Observation) :
    Mirrors left k (a.observe o) (b.observe o) := h.observe₂ rfl

/-- What is noted is not compared. -/
theorem note₂ (h : Mirrors left k a b) (x x' : Note) :
    Mirrors left k (a.note x) (b.note x') := h.observe₂ rfl

theorem addTask (h : Mirrors left k a b) (hs : s.Mirrors k s') (hw : s'.isWriting = false) :
    Mirrors left k (a.addTask s) (b.addTask s') := by
  refine ⟨?_, h.affairs.add hs hw, h.told⟩
  rw [h.rest]
  rfl

theorem setStage (h : Mirrors left k a b) (hn : n ∉ left) (hs : s.Mirrors k s')
    (hw : s'.isWriting = false) : Mirrors left k (a.setStage n s) (b.setStage n s') := by
  refine ⟨?_, h.affairs.put hn hs hw, h.told⟩
  rw [h.rest]
  rfl

theorem endTask (h : Mirrors left k a b) (hn : n ∉ left) (o : Outcome) :
    Mirrors left k (a.endTask n o) (b.endTask n o) := by
  refine ⟨?_, ?_, ?_⟩
  · rw [h.rest]
    rfl
  · rw [affairs_endTask, affairs_endTask]
    exact h.affairs.drop hn o
  · rw [told_endTask, told_endTask, h.told]

theorem ask (h : Mirrors left k a b) (hn : n ∉ left) (c : Call) {f f' : Nat → Stage}
    (hs : (f a.calls).Mirrors k (f' b.calls)) (hw : (f' b.calls).isWriting = false) :
    Mirrors left k (a.ask n c f) (b.ask n c f') := by
  have hset := h.setStage hn hs hw
  have hcalls : Mirrors left k { a.setStage n (f a.calls) with calls := a.calls + 1 }
      { b.setStage n (f' b.calls) with calls := b.calls + 1 } := by
    refine ⟨?_, hset.affairs, hset.told⟩
    rw [h.rest]
    rfl
  exact hcalls.observe₂ rfl

/-- A task in the background, if there is something to run it. -/
theorem spawn (h : Mirrors left k a b) (hs : s.Mirrors k s') (hw : s'.isWriting = false)
    (x : Note) : Mirrors left k (if a.canSpawn then a.addTask s else a.note x)
      (if b.canSpawn then b.addTask s' else b.note x) := by
  rw [h.field App.canSpawn fun _ _ => rfl]
  exact ite (h.addTask hs hw) (h.observe _)

/-- Both start anew, and what is to be cleared is of the generation that begins. -/
theorem reset (h : Mirrors left k a b) : Mirrors left k a.reset b.reset := by
  have hp := (h.withPipeline a.pipeline.reset).observe (.note Pipeline.resetNote)
  simp only [App.reset, h.pipeline, Pipeline.reset_ahead]
  exact hp.spawn (.wantSave _ _ _) rfl _

theorem spawnLoad (h : Mirrors left k a b) (id : Int) :
    Mirrors left k (a.spawnLoad id) (b.spawnLoad id) := h.spawn (.startLoad id .select) rfl _

/-- **Nothing that is done at once tells the two apart.** -/
theorem congruence : Congruence (Mirrors left k) where
  rest h := h.rest
  messages h := by
    rw [h.pipeline]
    rfl
  update h := h.update
  observe h := h.observe
  reset h := h.reset
  spawnLoad h := h.spawnLoad
  dismiss {a b} h := by
    have hp := h.withPipeline a.pipeline.dismiss
    rwa [h.pipeline]
  unmount {a b} h := by
    have hp := h.withPipeline a.pipeline.unmount
    rwa [h.pipeline]

theorem notes (h : Mirrors left k a b) (ns : List Note) :
    Mirrors left k (a.notes ns) (b.notes ns) := congruence.notes h ns

/-! ### What is to be done -/

/-- **Doing the same keeps an app a mirror of another**, and leaves the same to do. -/
theorem doing (h : Mirrors left k a b) {w : Work Listener Act}
    (hw : ∀ y, closing? w = some y → y.1 ∉ left) :
    Mirrors left k (a.doing w).1 (b.doing (ahead k w)).1 ∧
      (b.doing (ahead k w)).2 = (a.doing w).2 := by
  cases hclosing : closing? w with
  | none =>
    rw [ahead_of_closing? hclosing]
    exact congruence.doing h hclosing
  | some y =>
    obtain ⟨n, g, adopted⟩ := y
    obtain rfl := eq_of_closing? hclosing
    have hn : n ∉ left := hw (n, g, adopted) rfl
    cases adopted with
    | some id => exact ⟨(h.observe _).setStage hn (.wantSave _ _ _) rfl, rfl⟩
    | none => exact ⟨h.endTask hn _, rfl⟩

/-- **So does doing everything that there is to do.** -/
theorem settle (h : Mirrors left k a b) {ws : Errands}
    (hws : ∀ y ∈ ws.filterMap closing?, y.1 ∉ left) :
    Mirrors left k (a.settle ws) (b.settle (ws.map (ahead k))) := by
  have hrun : ∀ (j : Nat) (ws : Errands) (a b : App), Mirrors left k a b →
      (∀ y ∈ ws.filterMap closing?, y.1 ∉ left) →
      Mirrors left k (delivery.run j (a, ws)).1 (delivery.run j (b, ws.map (ahead k))).1 := by
    intro j
    induction j with
    | zero => exact fun _ _ _ h _ => h
    | succ j ih =>
      intro ws a b h hws
      cases ws with
      | nil => exact h
      | cons w ws =>
        obtain ⟨hdoing, herrands⟩ := h.doing (w := w) fun y hy =>
          hws y (List.mem_filterMap.mpr ⟨w, List.mem_cons_self, hy⟩)
        have hnone := closing_doing a w
        have hnext : (a.doing w).2 ++ ws.map (ahead k) = ((a.doing w).2 ++ ws).map (ahead k) := by
          rw [List.map_append, map_ahead hnone]
        rw [List.map_cons, Delivery.run_succ_cons, Delivery.run_succ_cons, step_cons, step_cons,
          herrands, hnext]
        refine ih _ _ _ hdoing fun y hy => ?_
        rw [List.filterMap_append, hnone, List.nil_append] at hy
        obtain ⟨v, hv, hy⟩ := List.mem_filterMap.mp hy
        exact hws y (List.mem_filterMap.mpr ⟨v, List.mem_cons_of_mem _ hv, hy⟩)
  -- both have the same number of things to do, so they are followed in step
  have hbound : b.workBound (ws.map (ahead k)) = a.workBound ws := by
    refine (h.field (·.workBound _) fun _ _ => rfl).trans ?_
    rw [App.workBound, App.workBound, List.length_map]
  rw [App.settle, App.settle, hbound]
  exact hrun _ ws a b h hws

/-! ### Turns of tasks that both have -/

theorem startLoad (h : Mirrors left k a b) (hn : n ∉ left) (id : Int) (errand : Errand) :
    Mirrors left k (a.startLoad n id errand) (b.startLoad n id errand) := by
  unfold App.startLoad
  rw [h.pipeline, Pipeline.startLoad_ahead]
  exact ((h.withPipeline _).observe _).ask hn _ (.awaitEntries _ _ _ _ _) rfl

theorem pose (h : Mirrors left k a b) (hn : n ∉ left) (q : Question) (g : Nat) :
    Mirrors left k (a.pose n q g) (b.pose n q (g + k)) := by
  unfold App.pose
  rw [h.pipeline, Pipeline.pose_ahead]
  exact (h.withPipeline _).ask hn _ (.awaitReply _ _ _ _) rfl

theorem begin (h : Mirrors left k a b) (hn : n ∉ left) (o : Operation) :
    Mirrors left k (a.begin n o) (b.begin n o) := by
  have hpersona := h.field (·.profile.persona) fun _ _ => rfl
  have hsupply := h.field App.supply fun _ _ => rfl
  cases o with
  | send text =>
    simp only [App.begin, h.pipeline, hpersona, hsupply, Pipeline.send?_ahead]
    cases a.pipeline.send? a.profile.persona text a.supply with
    | none => exact (h.observe _).endTask hn _
    | some x =>
      obtain ⟨p, q, supply⟩ := x
      exact ((h.update (fun c => { c with supply }) fun _ _ => rfl).withPipeline p).setStage hn
        (.posing _ _) rfl
  | retry =>
    simp only [App.begin, h.pipeline, hpersona, Pipeline.retry?_ahead]
    cases a.pipeline.retry? a.profile.persona with
    | none => exact (h.observe _).endTask hn _
    | some x => exact ((h.withPipeline x.1).observe _).setStage hn (.posing _ _) rfl
  | load id => exact h.startLoad hn id _
  | restore => exact h.setStage hn .awaitSession rfl
  | list =>
    have hcall := h.field (fun c => Call.summaries c.profile.userId c.profile.historyLimit)
      fun _ _ => rfl
    simp only [App.begin, hcall]
    exact h.ask hn _ (.awaitSummaries _ _) rfl

/-- A session is saved, or it is too old, in both. -/
theorem startSave (h : Mirrors left k a b) (hn : n ∉ left) (hB : b.saving = none) (g : Nat)
    (s : SavedSession) (o : Outcome) :
    Mirrors left k (a.startSave n g s o) (b.startSave n (g + k) s o) := by
  have hA : a.saving = none := by
    have hsaving : a.saving = b.saving.filter (· ∉ left) := h.affairs.saving
    rw [hsaving, hB]
    rfl
  have hold : g + k < b.savedGeneration ↔ g < a.savedGeneration := h.affairs.lt_savedGeneration
  unfold App.startSave
  simp only [hA, hB, Option.isSome_none, Bool.false_eq_true, if_false]
  by_cases hg : g < a.savedGeneration
  · rw [if_pos hg, if_pos (hold.mpr hg)]
    exact (h.note₂ _ _).endTask hn o
  · rw [if_neg hg, if_neg (mt hold.mp hg)]
    have hsave : Mirrors left k
        ({ a with saving := some n }.setStage n (.awaitSaved g s o))
        ({ b with saving := some n }.setStage n (.awaitSaved (g + k) s o)) := by
      refine ⟨?_, h.affairs.save hn hB (.awaitSaved g s o), h.told⟩
      rw [h.rest]
      rfl
    exact hsave.observe₂ rfl

theorem advance (h : Mirrors left k a b) (hn : n ∉ left) (hvain : b.IsInVain (.advance n) = false) :
    Mirrors left k (a.advance n) (b.advance n) := by
  unfold App.advance
  rcases h.stage_cases hn with ⟨hA, hB⟩ | ⟨s, s', hA, hB, hs⟩
  · rw [hA, hB]
    exact h
  · rw [hA, hB]
    cases hs with
    | start o => exact h.begin hn o
    | startLoad id errand => exact h.startLoad hn id errand
    | posing q g => exact h.pose hn q g
    | wantSave g s o =>
      refine h.startSave hn ?_ g s o
      simpa [IsInVain, hB] using hvain
    | _ => exact h

theorem takeReply (h : Mirrors left k a b) (hn : n ∉ left) (g : Nat) (r : Except Failure Reply) :
    Mirrors left k (a.takeReply n g r).1 (b.takeReply n (g + k) r).1 ∧
      (b.takeReply n (g + k) r).2 = (a.takeReply n g r).2.map (ahead k) ∧
      ∀ y ∈ (a.takeReply n g r).2.filterMap closing?, y.1 ∉ left := by
  have hsupply := h.field App.supply fun _ _ => rfl
  unfold App.takeReply
  rw [h.pipeline, hsupply, Pipeline.receive_ahead]
  obtain ⟨p, receipt, ns, supply⟩ := a.pipeline.receive g r a.supply
  have hnotes := ((h.update (fun c => { c with supply := supply })
    fun _ _ => rfl).withPipeline p).notes ns
  cases receipt with
  | stale => exact ⟨hnotes.endTask hn _, rfl, nofun⟩
  | failed kind => exact ⟨hnotes.endTask hn _, rfl, nofun⟩
  | delivered x as adopted =>
    refine ⟨hnotes.setStage hn .publishing rfl, ?_, fun y hy => ?_⟩
    · dsimp only
      split <;> rfl
    · obtain rfl : (n, g, adopted) = y := by
        dsimp only at hy
        split at hy <;> simpa [closing?] using hy
      exact hn

theorem takeEntries (h : Mirrors left k a b) (hn : n ∉ left) (id : Int) (g : Nat) (errand : Errand)
    (r : Except Failure (List HistoryEntry)) :
    Mirrors left k (a.takeEntries n id g errand r) (b.takeEntries n id (g + k) errand r) := by
  have hsupply := h.field App.supply fun _ _ => rfl
  unfold App.takeEntries
  rw [h.pipeline, hsupply, Pipeline.receiveEntries_ahead]
  obtain ⟨p, receipt, ns, supply⟩ := a.pipeline.receiveEntries id g r a.supply
  have hnotes := ((h.update (fun c => { c with supply := supply })
    fun _ _ => rfl).withPipeline p).notes ns
  cases receipt with
  | stale => exact hnotes.endTask hn _
  | failed f => exact (ite (hnotes.observe _) hnotes).endTask hn _
  | loaded => exact hnotes.setStage hn (.wantSave _ _ _) rfl

/-- **An answer to what both have asked.** -/
theorem takeAnswer (h : Mirrors left k a b) (hn : n ∉ left) (r : Answer) :
    Mirrors left k (a.takeAnswer n r).1 (b.takeAnswer n r).1 ∧
      (b.takeAnswer n r).2 = (a.takeAnswer n r).2.map (ahead k) ∧
      ∀ y ∈ (a.takeAnswer n r).2.filterMap closing?, y.1 ∉ left := by
  unfold App.takeAnswer
  rcases h.stage_cases hn with ⟨hA, hB⟩ | ⟨s, s', hA, hB, hs⟩
  · rw [hA, hB]
    exact ⟨h, rfl, nofun⟩
  · rw [hA, hB]
    cases hs with
    | awaitReply call call' q g =>
      cases r with
      | reply r => exact h.takeReply hn g r
      | _ => exact ⟨h, rfl, nofun⟩
    | awaitEntries call call' id g errand =>
      cases r with
      | entries r => exact ⟨h.takeEntries hn id g errand r, rfl, nofun⟩
      | _ => exact ⟨h, rfl, nofun⟩
    | awaitSummaries call call' =>
      cases r with
      | summaries r => exact ⟨h.endTask hn _, rfl, nofun⟩
      | _ => exact ⟨h, rfl, nofun⟩
    | _ => exact ⟨h, rfl, nofun⟩

theorem giveSession (h : Mirrors left k a b) (hn : n ∉ left) (r : Except Failure SavedSession) :
    Mirrors left k (a.giveSession n r) (b.giveSession n r) := by
  unfold App.giveSession
  rcases h.stage_cases hn with ⟨hA, hB⟩ | ⟨s, s', hA, hB, hs⟩
  · rw [hA, hB]
    exact h
  · rw [hA, hB]
    cases hs with
    | awaitSession =>
      dsimp only
      split
      · exact (h.observe _).endTask hn _
      · exact h.endTask hn _
      · exact h.startLoad hn _ _
    | _ => exact h

theorem saved (h : Mirrors left k a b) (hn : n ∉ left) (hwrites : b.saving = some n) (g : Nat)
    (o : Outcome) :
    Mirrors left k ({ a with saving := none, savedGeneration := g }.endTask n o)
      ({ b with saving := none, savedGeneration := g + k }.endTask n o) := by
  refine ⟨?_, ?_, ?_⟩
  · rw [h.rest]
    rfl
  · rw [affairs_endTask, affairs_endTask]
    exact h.affairs.saved hn hwrites g o
  · rw [told_endTask, told_endTask]
    exact congrArg _ h.told

theorem giveSaved (h : Mirrors left k a b) (hn : n ∉ left) (r : Except Failure Unit) :
    Mirrors left k (a.giveSaved n r) (b.giveSaved n r) := by
  unfold App.giveSaved
  rcases h.stage_cases hn with ⟨hA, hB⟩ | ⟨s, s', hA, hB, hs⟩
  · rw [hA, hB]
    exact h
  · have hwriting := h.affairs.writing n s' hB
    rw [hA, hB]
    cases hs with
    | awaitSaved g s o =>
      cases r with
      | ok u => exact h.saved hn (hwriting rfl) g o
      | error f => exact (h.observe _).saved hn (hwriting rfl) g o
    | _ => exact h

/-! ### Turns of tasks that are left over -/

theorem observeLeft (h : Mirrors left k a b) {o : Observation} (ho : o.told? left = none) :
    Mirrors left k a (b.observe o) := by
  refine ⟨?_, h.affairs.congr rfl rfl, ?_⟩
  · rw [h.rest]
    rfl
  · rw [told_observe, ho]
    exact h.told

theorem setStageLeft (h : Mirrors left k a b) (hn : n ∈ left) (hs : s'.IsSpent k)
    (hw : s'.isWriting = false) : Mirrors left k a (b.setStage n s') := by
  refine ⟨?_, h.affairs.putLeft hn hs hw, h.told⟩
  rw [h.rest]
  rfl

theorem endTaskLeft (h : Mirrors left k a b) (hn : n ∈ left) (o : Outcome) :
    Mirrors left k a (b.endTask n o) := by
  refine ⟨?_, ?_, ?_⟩
  · rw [h.rest]
    rfl
  · rw [affairs_endTask]
    exact h.affairs.dropLeft hn o
  · rw [told_endTask, Observation.told?, if_pos hn]
    exact h.told

/-- A question of a time before is put. -/
theorem poseLeft (h : Mirrors left k a b) (hn : n ∈ left) (q : Question) (hg : g < k) :
    Mirrors left k a (b.pose n q g) := by
  have hpose : { b with pipeline := b.pipeline.pose g } = b := by
    rw [h.pipeline, Pipeline.pose_of_lt _ hg, ← h.pipeline]
  have hset : Mirrors left k a (b.setStage n (.awaitReply b.calls q g)) := h.setStageLeft hn hg rfl
  have hcalls : Mirrors left k a
      { b.setStage n (.awaitReply b.calls q g) with calls := b.calls + 1 } := by
    refine ⟨?_, hset.affairs, hset.told⟩
    rw [h.rest]
    rfl
  unfold App.pose
  rw [hpose]
  exact hcalls.observeLeft rfl

/-- A session of a time before is saved, or it is too old, or another one is being saved. -/
theorem startSaveLeft (h : Mirrors left k a b) (hn : n ∈ left) (hg : g ≤ k) (s : SavedSession)
    (o : Outcome) : Mirrors left k a (b.startSave n g s o) := by
  unfold App.startSave
  split
  · exact h
  · rename_i hsaving
    have hB : b.saving = none := by simpa using hsaving
    split
    · exact (h.observeLeft rfl).endTaskLeft hn o
    · rename_i hold
      have hsave : Mirrors left k a
          ({ b with saving := some n }.setStage n (.awaitSaved g s o)) := by
        have hspent : (Stage.awaitSaved g s o).IsSpent k := hg
        refine ⟨?_, h.affairs.saveLeft hn hB hspent hg (Nat.not_lt.mp hold), h.told⟩
        rw [h.rest]
        rfl
      exact hsave.observeLeft rfl

/-- The answer to a question of a time before is stale. -/
theorem takeReplyLeft (h : Mirrors left k a b) (hn : n ∈ left) (hg : g < k)
    (r : Except Failure Reply) :
    Mirrors left k a (b.takeReply n g r).1 ∧ (b.takeReply n g r).2 = [] := by
  have hstale : b.pipeline.isStale g = true := by
    rw [h.pipeline]
    exact Pipeline.isStale_of_lt _ hg
  unfold App.takeReply
  rw [Pipeline.receive_of_isStale _ hstale]
  exact ⟨(h.observeLeft rfl).endTaskLeft hn _, rfl⟩

theorem takeEntriesLeft (h : Mirrors left k a b) (hn : n ∈ left) (hg : g < k) (id : Int)
    (errand : Errand) (r : Except Failure (List HistoryEntry)) :
    Mirrors left k a (b.takeEntries n id g errand r) := by
  have hstale : b.pipeline.isStale g = true := by
    rw [h.pipeline]
    exact Pipeline.isStale_of_lt _ hg
  unfold App.takeEntries
  rw [Pipeline.receiveEntries_of_isStale _ hstale]
  exact (h.observeLeft rfl).endTaskLeft hn _

theorem savedLeft (h : Mirrors left k a b) (hn : n ∈ left) (hwrites : b.saving = some n)
    (hg : g ≤ k) (o : Outcome) :
    Mirrors left k a ({ b with saving := none, savedGeneration := g }.endTask n o) := by
  refine ⟨?_, ?_, ?_⟩
  · rw [h.rest]
    rfl
  · rw [affairs_endTask]
    exact h.affairs.savedLeft hn hwrites hg o
  · rw [told_endTask, Observation.told?, if_pos hn]
    exact h.told

/-- A task that is not there has no turn. -/
theorem enter_of_stage?_eq_none {c : App} {t : Turn} (ht : t.task? = some n)
    (hc : c.stage? n = none) : c.enter t = (c, []) := by
  cases t <;> cases ht <;>
    simp only [enter, App.advance, App.takeAnswer, App.giveSession, App.giveSaved, hc]

/-- **Nothing comes of what is left over**, whatever happens to it. -/
theorem enterLeft (h : Mirrors left k a b) (hn : n ∈ left) {t : Turn} (ht : t.task? = some n) :
    Mirrors left k a (b.enter t).1 ∧ (b.enter t).2 = [] := by
  cases hB : b.stage? n with
  | none =>
    rw [enter_of_stage?_eq_none ht hB]
    exact ⟨h, rfl⟩
  | some s =>
    have hspent : s.IsSpent k := h.affairs.tasks.spent n hn s hB
    have hwriting := h.affairs.writing n s hB
    cases t with
    | call | publish | tell | jot => cases ht
    | advance m =>
      cases ht
      refine ⟨?_, rfl⟩
      simp only [enter, App.advance, hB]
      cases s with
      | start | startLoad => cases hspent
      | posing q g => exact h.poseLeft hn q hspent
      | wantSave g s o => exact h.startSaveLeft hn hspent s o
      | _ => exact h
    | answer m r =>
      cases ht
      simp only [enter, App.takeAnswer, hB]
      cases s with
      | awaitReply call q g =>
        cases r with
        | reply r => exact h.takeReplyLeft hn hspent r
        | _ => exact ⟨h, rfl⟩
      | awaitEntries call id g errand =>
        cases r with
        | entries r => exact ⟨h.takeEntriesLeft hn hspent id errand r, rfl⟩
        | _ => exact ⟨h, rfl⟩
      | awaitSummaries call =>
        cases r with
        | summaries r => exact ⟨h.endTaskLeft hn _, rfl⟩
        | _ => exact ⟨h, rfl⟩
      | _ => exact ⟨h, rfl⟩
    | giveSession m r =>
      cases ht
      refine ⟨?_, rfl⟩
      simp only [enter, App.giveSession, hB]
      cases s with
      | awaitSession => cases hspent
      | _ => exact h
    | giveSaved m r =>
      cases ht
      refine ⟨?_, rfl⟩
      simp only [enter, App.giveSaved, hB]
      cases s with
      | awaitSaved g s o =>
        cases r with
        | ok u => exact h.savedLeft hn (hwriting rfl) hspent o
        | error f => exact (h.observeLeft rfl).savedLeft hn (hwriting rfl) hspent o
      | _ => exact h

/-! ### All turns -/

theorem enter (h : Mirrors left k a b) (t : Turn) (hvain : b.IsInVain t = false) :
    Mirrors left k (a.enter t).1 (b.enter t).1 ∧
      (b.enter t).2 = (a.enter t).2.map (ahead k) ∧
      ∀ y ∈ (a.enter t).2.filterMap closing?, y.1 ∉ left := by
  cases ht : t.task? with
  | some n =>
    by_cases hn : n ∈ left
    · obtain ⟨henter, herrands⟩ := h.enterLeft hn ht
      rw [enter_of_stage?_eq_none ht (h.affairs.tasks.gone n hn), herrands]
      exact ⟨henter, rfl, nofun⟩
    · cases t with
      | call | publish | tell | jot => cases ht
      | advance m =>
        cases ht
        exact ⟨h.advance hn hvain, rfl, nofun⟩
      | answer m r =>
        cases ht
        exact h.takeAnswer hn r
      | giveSession m r =>
        cases ht
        exact ⟨h.giveSession hn r, rfl, nofun⟩
      | giveSaved m r =>
        cases ht
        exact ⟨h.giveSaved hn r, rfl, nofun⟩
  | none =>
    cases t with
    | call o => exact ⟨h.addTask (.start o) rfl, rfl, nofun⟩
    | publish e => exact ⟨h, rfl, nofun⟩
    | tell c => exact ⟨h, rfl, nofun⟩
    | jot x => exact ⟨h.observe _, rfl, nofun⟩
    | advance | answer | giveSession | giveSaved => cases ht

/-- **A turn keeps an app a mirror of another**, unless it is in vain. -/
theorem turn (h : Mirrors left k a b) (t : Turn) (hvain : b.IsInVain t = false) :
    Mirrors left k (a.turn t) (b.turn t) := by
  obtain ⟨henter, herrands, hclosing⟩ := h.enter t hvain
  rw [App.turn, App.turn, herrands]
  exact henter.settle hclosing

end Mirrors

/-! ### Runs -/

theorem turn_of_isInVain {t : Turn} (ht : b.IsInVain t = true) : b.turn t = b := by
  cases t with
  | advance n =>
    rw [turn_advance]
    unfold advance
    simp only [IsInVain] at ht
    split at ht
    · rename_i hstage
      rw [hstage]
      exact if_pos ht
    · cases ht
  | _ => cases ht

/-- The turns that are not in vain, when they come one after the other. -/
def heeded (b : App) : List Turn → List Turn
  | [] => []
  | t :: ts => if b.IsInVain t then b.heeded ts else t :: (b.turn t).heeded ts

/-- **The other turns come to nothing.** -/
theorem run_heeded (b : App) (ts : List Turn) : b.run (b.heeded ts) = b.run ts := by
  induction ts generalizing b with
  | nil => rfl
  | cons t ts ih =>
    rw [heeded, run_cons]
    split
    · rename_i ht
      rw [ih, turn_of_isInVain ht]
    · rw [run_cons, ih]

/-- **One turn after the other keeps an app a mirror of another.** -/
theorem Mirrors.run (h : Mirrors left k a b) (ts : List Turn) :
    Mirrors left k (a.run (b.heeded ts)) (b.run ts) := by
  induction ts generalizing a b with
  | nil => exact h
  | cons t ts ih =>
    rw [heeded, run_cons]
    split
    · rename_i ht
      rw [turn_of_isInVain ht]
      exact ih h
    · rename_i ht
      exact ih (h.turn t (Bool.eq_false_iff.mpr ht))

end App

end Parley
