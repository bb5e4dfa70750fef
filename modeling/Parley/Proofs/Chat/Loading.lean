import Parley.Proofs.Chat.Ending

/-!
# A load replaces everything or nothing

A load begins a generation of its own, so whatever was under way before is overtaken by it. Until
the answer comes no question is accepted, and the messages are what they were when the load began
(`Parley.App.Leads.pipeline_loading`). Then they are all replaced at once, unless the load was
overtaken in its turn, or the server failed (`Parley.App.Leads.load_answered`).

The number of the conversation is handed over to be saved after that, and other things can happen
before it is. Nothing that was saved is of a later generation than the present one
(`Parley.Affairs.Dated`), so the number is handed over unless a new generation begins
(`Parley.App.Leads.handsOver`); and the messages stay as they are unless a question is accepted
(`Parley.App.Leads.messages_still`).
-/

namespace Parley

/-! ### The messages of entries -/

namespace HistoryEntry

/-- A message draws at most its serial number. -/
theorem supply_toMessage (e : HistoryEntry) (s : Supply) :
    ∃ k, (e.toMessage s).2 = { s with serial := k } := by
  unfold toMessage
  dsimp only
  split
  · exact ⟨s.serial, rfl⟩
  · exact ⟨s.serial + 1, rfl⟩

/-- **There is one message for every entry**, in their order: the entry's own, but for the serial
number. -/
theorem forall₂_toMessages (es : List HistoryEntry) (s : Supply) :
    List.Forall₂ (fun e z => ∃ k, (e.toMessage { s with serial := k }).1 = z) es
      (toMessages es s).1 := by
  suffices h : ∀ k, List.Forall₂ (fun e z => ∃ k, (e.toMessage { s with serial := k }).1 = z) es
      (toMessages es { s with serial := k }).1 from h s.serial
  induction es with
  | nil => exact fun _ => .nil
  | cons e es ih =>
    intro k
    obtain ⟨k', hk'⟩ := e.supply_toMessage { s with serial := k }
    have hrest := ih k'
    rw [← hk'] at hrest
    exact .cons ⟨k, rfl⟩ hrest

end HistoryEntry

/-! ### Nothing is ahead of the conversation -/

/-- The generation that a task has under way, or is to save. -/
def Stage.dated? : Stage → Option Nat
  | .wantSave g _ _ | .awaitSaved g _ _ => some g
  | s => s.exchange?

/-- No task is ahead of the generation of the conversation, and neither is what was saved. -/
structure Affairs.Dated (A : Affairs) : Prop where
  tasks : ∀ n g, A.see Stage.dated? n = some g → g ≤ A.pipeline.generation
  closing : ∀ y ∈ A.closing, y.2.1 ≤ A.pipeline.generation
  saved : A.savedGeneration ≤ A.pipeline.generation

theorem Affairs.Dated.of_isFresh {a : App} (ha : a.IsFresh) : (a.affairs []).Dated where
  tasks n g h := by
    rw [Affairs.see, Affairs.stage?_of_tasks_eq_nil ha.tasks] at h
    cases h
  closing := nofun
  saved := Nat.le_trans (Nat.le_of_eq ha.savedGeneration) (Nat.zero_le _)

namespace Change

variable {l : Option Turn} {A B : Affairs} {n g : Nat}

/-- What is to be concluded was before, or it belongs to the generation there is. -/
theorem closing_before (hm : Change l A B) {y : Nat × Nat × Option Int} (hy : y ∈ B.closing) :
    y ∈ A.closing ∨ y.2.1 = A.pipeline.generation := by
  cases hm with
  | reset | select =>
    refine .inl ?_
    unfold Affairs.spawn at hy
    split at hy <;> exact hy
  | adopt hclosing | close hclosing =>
    refine .inl ?_
    rw [hclosing]
    rcases List.mem_append.mp hy with hy | hy
    · exact List.mem_append_left _ hy
    · exact List.mem_append_right _ (List.mem_cons_of_mem _ hy)
  | delivered r x hstage hstale =>
    rcases List.mem_cons.mp hy with rfl | hy
    · exact .inr (Pipeline.isStale_eq_false.mp hstale).2.symm
    · exact .inl hy
  | _ => exact .inl hy

/-- What was saved last was before, or a task has waited for it to be saved. -/
theorem savedGeneration_before (hm : Change l A B) : B.savedGeneration = A.savedGeneration ∨
    ∃ n s o, A.stage? n = some (.awaitSaved B.savedGeneration s o) := by
  cases hm with
  | reset | select =>
    refine .inl ?_
    unfold Affairs.spawn
    split <;> rfl
  | saved r hstage => exact .inr ⟨_, _, _, hstage⟩
  | _ => exact .inl rfl

/-- **What may be done to the messages while nothing is under way**: a question is accepted, or
everything starts anew. -/
theorem messages_of_idle (hm : Change l A B)
    (hnone : ∀ n, A.see Stage.exchange? n ≠ some A.pipeline.generation) :
    (B.pipeline.conversation = A.pipeline.conversation ∧
        B.pipeline.transcript = A.pipeline.transcript) ∨
      B.pipeline = A.pipeline.reset ∨
      ∃ n o q g, l = some (.advance n) ∧ A.stage? n = some (.start o) ∧
        B.stage? n = some (.posing q g) := by
  cases hm with
  | reset => exact .inr (.inl (Affairs.pipeline_spawn _ _))
  | select id =>
    rw [Affairs.pipeline_spawn]
    exact .inl ⟨rfl, rfl⟩
  | ask hstage =>
    exact .inr (.inr ⟨_, _, _, _, rfl, hstage, Affairs.stage?_put_self (hstage ▸ rfl)⟩)
  | @pose _ _ g _ call hstage =>
    have hpose := A.pipeline.pose_eq g
    exact .inl ⟨congrArg (·.conversation) hpose, congrArg (·.transcript) hpose⟩
  -- nothing comes back in time
  | delivered r x hstage hstale =>
    exact absurd (Affairs.see_of_answered hstage rfl hstale) (hnone _)
  | loaded entries supply hstage hstale =>
    exact absurd (Affairs.see_of_answered hstage rfl hstale) (hnone _)
  | _ => exact .inl ⟨rfl, rfl⟩

/-- **Every change keeps tasks and sessions from running ahead.** -/
theorem dated (hm : Change l A B) (hA : A.Dated) : B.Dated where
  tasks n g hsee := by
    have hle := hm.generation_le.1
    have hbefore : ∀ {s}, A.stage? n = some s → s.dated? = some g → g ≤ B.pipeline.generation :=
      fun hs hg => Nat.le_trans (hA.tasks n g (by rw [Affairs.see, hs]; exact hg)) hle
    obtain ⟨s, hs, hg⟩ := Option.bind_eq_some_iff.mp hsee
    have hfate := hm.fate n
    rw [hs] at hfate
    cases hfate with
    | kept h => exact hbefore h hg
    | called | selected => cases hg
    | cleared _ hpipeline =>
      cases hg
      rw [hpipeline]
      exact Nat.le_refl _
    | concluded hc _ h =>
      obtain ⟨_, rfl⟩ := h s rfl
      cases hg
      exact Nat.le_trans (hA.closing _ hc) hle
    | asked =>
      cases hg
      exact hle
    | posed h => exact hbefore h hg
    | loads _ _ _ hpipeline =>
      cases hg
      rw [hpipeline]
      exact Nat.le_refl _
    | attends _ h => rcases h with rfl | ⟨_, rfl⟩ <;> cases hg
    | saves h h' | arrived h h' =>
      rcases h' with h' | h' <;> cases h'
      exact hbefore h hg
    | replied _ h =>
      rcases h with h | h <;> cases h
      cases hg
  closing y hy := by
    refine Nat.le_trans ?_ hm.generation_le.1
    rcases hm.closing_before hy with h | h
    · exact hA.closing y h
    · exact Nat.le_of_eq h
  saved := by
    refine Nat.le_trans ?_ hm.generation_le.1
    rcases hm.savedGeneration_before with h | ⟨n, s, o, h⟩
    · exact h ▸ hA.saved
    · exact hA.tasks n _ (by rw [Affairs.see, h]; rfl)

end Change

namespace Course

/-- A new generation begins, or the conversation is unmounted: whatever was under way is of no
account any more. -/
def Overtakes (ms : Course) : Prop := ∃ m ∈ ms, m.renews = true ∨ m.happening.unmounts = true

end Course

namespace App

variable {a₀ a b c d : App} {n g call : Nat} {id : Int} {errand : Errand} {s : Stage}
  {ws vs us us' : Errands} {x : Happening} {e e' : App × Errands} {ms during later since : Course}

/-! ### Waiting for an answer -/

theorem Leads.dated (hfresh : a₀.IsFresh) (hc : Leads (a₀, []) ms e) :
    (e.1.affairs e.2).Dated := by
  induction hc with
  | start => exact .of_isFresh hfresh
  | step _ hx ih => exact hx.change.dated ih

/-- **A task that has waited for an answer has got one.** -/
theorem Leads.exists_answer (hfresh : a₀.IsFresh) (hc : Leads (a₀, []) ms e)
    (hlater : Leads e later e') (hs : e.1.stage? n = some s) (hwaits : s.awaited?.isSome)
    (hgone : e'.1.stage? n ≠ some s) : ∃ since during r c d us us',
      later = since ++ ⟨c, .turn (.answer n r), d⟩ :: during ∧ Leads e during (c, us) ∧
        c.stage? n = some s ∧ Happens (.turn (.answer n r)) (c, us) (d, us') ∧
        d.stage? n ≠ some s ∧ Leads (d, us') since e' := by
  induction hlater with
  | start => exact absurd hs hgone
  | @step later c d us us' x hl hx ih =>
    by_cases hc' : c.stage? n = some s
    · obtain ⟨r, rfl⟩ := hx.answered ((hc.append hl).orderly hfresh) hc' hwaits hgone
      exact ⟨[], later, r, c, d, us, us', rfl, hl, hc', hx, hgone, .start⟩
    · obtain ⟨since, during, r, c', d', us₁, us₂, rfl, hduring, hwaiting, hy, hchanged, hsince⟩ :=
        ih hc'
      exact ⟨_ :: since, during, r, c', d', us₁, us₂, rfl, hduring, hwaiting, hy, hchanged,
        hsince.step hx⟩

/-- Nothing but entries moves a task that waits for them. -/
theorem Happens.answered_entries (hx : Happens x (a, ws) (b, vs)) (hO : (a.affairs ws).Orderly)
    (hs : a.stage? n = some (.awaitEntries call id g errand))
    (hs' : b.stage? n ≠ some (.awaitEntries call id g errand)) :
    ∃ r, x = .turn (.answer n (.entries r)) ∧ b = (a.enter (.answer n (.entries r))).1 := by
  obtain ⟨r, rfl⟩ := hx.answered hO hs rfl hs'
  cases hx
  cases r with
  | entries r => exact ⟨r, rfl, rfl⟩
  | reply | summaries =>
    simp only [enter, takeAnswer, hs] at hs'
    exact absurd rfl hs'

/-- A load begins a generation of its own. -/
theorem Happens.startLoad (hx : Happens x (a, ws) (b, vs)) (hs : a.stage? n = some s)
    (hloading : s.isLoading = false)
    (hs' : b.stage? n = some (.awaitEntries call id g errand)) :
    b.pipeline = a.pipeline.startLoad ∧ g = a.pipeline.generation + 1 :=
  hx.change.startLoad hs hloading hs'

/-- **What overtakes a load**: it is stale exactly if it began on an unmounted conversation, or has
been overtaken since. -/
theorem Leads.isStale_load (hb : b.pipeline = a.pipeline.startLoad)
    (hduring : Leads (b, vs) during e) :
    e.1.pipeline.isStale (a.pipeline.generation + 1) = true ↔
      a.pipeline.alive = false ∨ during.Overtakes := by
  cases halive : a.pipeline.alive with
  | true =>
    have hcurrent : b.pipeline.isStale (a.pipeline.generation + 1) = false :=
      Pipeline.isStale_eq_false.mpr (hb ▸ ⟨halive, rfl⟩)
    rw [hduring.isStale_iff hcurrent]
    exact ⟨.inr, fun h => h.resolve_left nofun⟩
  | false =>
    refine iff_of_true (Pipeline.isStale_eq_true.mpr (.inl ?_)) (.inl rfl)
    by_contra h
    have hmounted := (hduring.alive_iff.mp (eq_true_of_ne_false h)).1
    rw [hb] at hmounted
    cases halive.symm.trans hmounted

/-! ### Saving what was loaded -/

/-- The generation stays as long as nothing renews it. -/
theorem Leads.generation_eq (hl : Leads e later e') (hkept : ∀ m ∈ later, m.renews = false) :
    e'.1.pipeline.generation = e.1.pipeline.generation := by
  induction hl with
  | start => rfl
  | step _ hx ih =>
    have hg := hx.generation.1
    rw [hkept _ List.mem_cons_self] at hg
    exact hg.trans (ih fun m hm => hkept m (List.mem_cons_of_mem _ hm))

/-- **What becomes of a task that is to save a session**: it waits for its turn, and then hands the
session over, unless one of a later generation was saved. -/
theorem Happens.wantSave (hx : Happens x (a, ws) (b, vs)) (hO : (a.affairs ws).Orderly)
    {session : SavedSession} {o : Outcome} (hs : a.stage? n = some (.wantSave g session o)) :
    b.stage? n = some (.wantSave g session o) ∨
      x = .turn (.advance n) ∧ (b.saves = (g, session) :: a.saves ∨ g < a.savedGeneration) := by
  have hfate := hx.change.fate n
  have hs₀ : (a.affairs ws).stage? n = some (.wantSave g session o) := hs
  generalize hl : x.turn? = l at hfate
  generalize hs' : (b.affairs vs).stage? n = s' at hfate
  have hs' : b.stage? n = s' := hs'
  cases hfate with
  | kept h => exact .inl (hs'.trans (h.symm.trans hs))
  | saves =>
    obtain rfl := Happening.turn?_eq_some.mp hl
    cases hx
    have hadvance : a.advance n = a.startSave n g session o := by simp only [advance, hs]
    simp only [enter, hadvance, startSave]
    split
    · exact .inl hs
    · split
      · rename_i hg
        exact .inr ⟨trivial, .inr hg⟩
      · exact .inr ⟨trivial, .inl rfl⟩
  -- whatever moves a task from another stage moves another task
  | called h | cleared h | selected h | asked h | posed h | attends h | saved h | replied h
  | arrived h => cases hs₀.symm.trans h
  | loads _ h hload =>
    cases hs₀.symm.trans h
    rcases hload with ⟨h, -⟩ | h | ⟨h, -⟩ <;> cases h
  | leaves h hleaves =>
    cases hs₀.symm.trans h
    rcases hleaves with h | ⟨_, h⟩ | ⟨_, h⟩ <;> cases h
  | concluded hc hn => cases hs₀.symm.trans (hn ▸ hO.publishing _ hc)

/-- **What is to be saved is handed over**, unless a new generation has begun before. -/
theorem Leads.handsOver (hfresh : a₀.IsFresh) (hc : Leads (a₀, []) ms e) {session : SavedSession}
    {o : Outcome} (hs : e.1.stage? n = some (.wantSave e.1.pipeline.generation session o))
    (hlater : Leads e later e') (hgone : e'.1.stage? n = none) :
    later.HandsOver n e.1.pipeline.generation session ∨ ∃ m ∈ later, m.renews = true := by
  suffices h : e'.1.stage? n = some (.wantSave e.1.pipeline.generation session o) ∨
      later.HandsOver n e.1.pipeline.generation session ∨ ∃ m ∈ later, m.renews = true from
    h.resolve_left fun h => nomatch h.symm.trans hgone
  clear hgone
  induction hlater with
  | start => exact .inl hs
  | @step later c d us us' x hl hx ih =>
    rcases ih with hwaits | ⟨m, hm, h⟩ | ⟨m, hm, h⟩
    · rcases hx.wantSave ((hc.append hl).orderly hfresh) hwaits with h | ⟨rfl, h | h⟩
      · exact .inl h
      · exact .inr (.inl ⟨_, List.mem_cons_self, rfl, h⟩)
      · -- the generation was left behind already
        refine .inr (.inr ?_)
        by_contra hne
        have hg := hl.generation_eq fun m hm => Bool.eq_false_iff.mpr fun h =>
          hne ⟨m, List.mem_cons_of_mem _ hm, h⟩
        have hle := ((hc.append hl).dated hfresh).saved
        have hle : c.savedGeneration ≤ c.pipeline.generation := hle
        dsimp only at hg
        omega
    · exact .inr (.inl ⟨m, List.mem_cons_of_mem _ hm, h⟩)
    · exact .inr (.inr ⟨m, List.mem_cons_of_mem _ hm, h⟩)

/-! ### What was loaded stays -/

/-- **A conversation in which nothing is under way stays as it is** until a question is accepted or
a new generation begins. -/
theorem Leads.messages_still (hfresh : a₀.IsFresh) (hc : Leads (a₀, []) ms e)
    (hidle : e.1.pipeline.phase = .idle) (hlater : Leads e later e')
    (hkept : ∀ m ∈ later, m.renews = false ∧ m.accepted? = none) :
    e'.1.pipeline.conversation = e.1.pipeline.conversation ∧
      e'.1.pipeline.transcript = e.1.pipeline.transcript := by
  -- nothing comes to be under way, so nothing comes back
  suffices h : (∀ n, (e'.1.affairs e'.2).see Stage.exchange? n ≠ some e'.1.pipeline.generation) ∧
      e'.1.pipeline.conversation = e.1.pipeline.conversation ∧
      e'.1.pipeline.transcript = e.1.pipeline.transcript from h.2
  induction hlater with
  | start =>
    obtain ⟨_, hr⟩ := hc.reached .start
    exact ⟨fun n hn => (hr.sound hfresh).busy n hn hidle, rfl, rfl⟩
  | @step later c d us us' x hl hx ih =>
    obtain ⟨hnone, hconversation, htranscript⟩ :=
      ih fun m hm => hkept m (List.mem_cons_of_mem _ hm)
    obtain ⟨hrenews, haccepted⟩ := hkept _ List.mem_cons_self
    have hg := hx.generation.1
    rw [hrenews] at hg
    have hnot : ∀ {n o q g}, x.turn? = some (.advance n) → c.stage? n = some (.start o) →
        d.stage? n ≠ some (.posing q g) := by
      intro n o q g hl ho hposing
      obtain rfl := Happening.turn?_eq_some.mp hl
      cases haccepted.symm.trans (Moment.accepted?_eq_some.mpr
        ⟨o, g, Moment.passage?_turn (t := .advance n) rfl ho hposing⟩)
    refine ⟨fun n hn => ?_, ?_⟩
    · rcases hx.change.exchange_before hn with h | ⟨-, ⟨o, q, g, hl, ho, hposing⟩ |
        ⟨t, s, call, id, g, errand, hl, ht, hs, hloading, hs'⟩⟩
      · exact hnone n (h.trans (congrArg some hg))
      · exact hnot hl ho hposing
      · obtain rfl := Happening.turn?_eq_some.mp hl
        have hloads := Moment.loads_eq_true.mpr
          ⟨n, s, call, id, g, errand, Moment.passage?_turn ht hs hs', hloading⟩
        rw [Moment.renews, hloads, Bool.or_true] at hrenews
        cases hrenews
    · rcases hx.change.messages_of_idle hnone with ⟨h, h'⟩ | h | ⟨n, o, q, g, hl, ho, hposing⟩
      · exact ⟨h.trans hconversation, h'.trans htranscript⟩
      · have hreset : d.pipeline = c.pipeline.reset := h
        rw [hreset] at hg
        exact absurd hg (Nat.succ_ne_self _)
      · exact absurd hposing (hnot hl ho)

/-- Entries that take the place of the messages were waited for in the present generation. -/
theorem Happens.arrives (hx : Happens x (a, ws) (b, vs)) (hO : (a.affairs ws).Orderly)
    (harrives : Moment.arrives ⟨a, x, b⟩ = true) : ∃ n call id errand,
      a.stage? n = some (.awaitEntries call id a.pipeline.generation errand) := by
  obtain ⟨n, call, id, g, errand, g', s, o, hpassage⟩ := Moment.arrives_eq_true.mp harrives
  obtain ⟨-, hs, hs'⟩ := Moment.passage?_eq_some.mp hpassage
  dsimp only at hs hs'
  obtain ⟨r, -, rfl⟩ := hx.answered_entries hO hs (hs' ▸ nofun)
  obtain ⟨-, h⟩ | ⟨-, f, xs, -, h⟩ | ⟨hcurrent, -⟩ := enter_entries hs r
  · cases hs'.symm.trans (stage?_of_eq_endTask (congrArg Prod.fst h))
  · cases hs'.symm.trans (stage?_of_eq_endTask (congrArg Prod.fst h))
  · obtain rfl := (Pipeline.isStale_eq_false.mp hcurrent).2
    exact ⟨n, call, id, errand, hs⟩

/-- **Messages that nothing is loaded over stay**, and others come behind them, until a new
generation begins. -/
theorem Leads.messages_stay (hfresh : a₀.IsFresh) (hc : Leads (a₀, []) ms e)
    (hidle : e.1.pipeline.phase = .idle) (hlater : Leads e later e')
    (hkept : ∀ m ∈ later, m.renews = false) :
    e.1.pipeline.transcript.messages <+: e'.1.pipeline.transcript.messages := by
  -- nothing comes to be loaded in this generation
  suffices h : (∀ n call id errand,
      e'.1.stage? n ≠ some (.awaitEntries call id e'.1.pipeline.generation errand)) ∧
      ∀ m ∈ later, m.happening.resets = false ∧ m.arrives = false from
    hc.messages_grow hfresh hlater h.2
  induction hlater with
  | start =>
    obtain ⟨_, hr⟩ := hc.reached .start
    refine ⟨fun n call id errand hs => (hr.sound hfresh).busy n ?_ hidle, List.forall_mem_nil _⟩
    rw [Affairs.see, stage?_affairs, hs]
    rfl
  | @step later c d us us' x hl hx ih =>
    obtain ⟨hnone, hbefore⟩ := ih fun m hm => hkept m (List.mem_cons_of_mem _ hm)
    have hrenews := hkept _ List.mem_cons_self
    have hg := hx.generation.1
    rw [hrenews] at hg
    refine ⟨fun n call id errand hs => ?_, List.forall_mem_cons.mpr ⟨⟨?_, ?_⟩, hbefore⟩⟩
    · rcases hx.change.entries_before hs with h | ⟨hload, -⟩
      · rw [hg] at h
        exact hnone n call id errand h
      · have hload : d.pipeline = c.pipeline.startLoad := hload
        rw [hload] at hg
        exact absurd hg (Nat.succ_ne_self _)
    · exact (Bool.or_eq_false_iff.mp hrenews).1
    · refine Bool.eq_false_iff.mpr fun harrives => ?_
      obtain ⟨n, call, id, errand, hs⟩ := hx.arrives ((hc.append hl).orderly hfresh) harrives
      exact hnone n call id errand hs

/-! ### A load, from its beginning to its end -/

/-- **The conversation waits for its entries**: a load under way that is not overtaken finds
everything but the phase as it was when it began. -/
theorem Leads.pipeline_loading (hfresh : a₀.IsFresh) (hb : Leads (a₀, []) ms (b, vs))
    (hload : b.pipeline = a.pipeline.startLoad)
    (hs : b.stage? n = some (.awaitEntries call id (a.pipeline.generation + 1) errand))
    (hduring : Leads (b, vs) during (c, us))
    (hs' : c.stage? n = some (.awaitEntries call id (a.pipeline.generation + 1) errand))
    (hcurrent : c.pipeline.isStale (a.pipeline.generation + 1) = false) :
    c.pipeline = { a.pipeline.startLoad with phase := c.pipeline.phase } := by
  obtain ⟨halive, hg⟩ := Pipeline.isStale_eq_false.mp hcurrent
  have hsee : (c.affairs us).see Stage.exchange? n = some c.pipeline.generation := by
    rw [Affairs.see, stage?_affairs, hs', hg]
    rfl
  obtain ⟨hgeneration, hconversation, htranscript⟩ := hb.exchange_kept hfresh hduring
    (lt_nextTask (hb.orderly hfresh) hs) (hs ▸ (by decide : 2 ≤ 3)) hsee
  obtain ⟨_, hr⟩ := (hb.append hduring).reached .start
  have hsound := hr.sound hfresh
  obtain ⟨hbanner, hresendable⟩ := hsound.no_banner (hsound.busy n hsee)
  have hmounted : b.pipeline.alive = true := (hduring.alive_iff.mp halive).1
  dsimp only at hgeneration hconversation htranscript
  have hbanner : c.pipeline.banner = none := hbanner
  have hresendable : c.pipeline.resendable = false := hresendable
  rw [← hload]
  rw [hload] at hgeneration hconversation htranscript hmounted
  cases hp : c.pipeline
  simp_all [Pipeline.startLoad]

/-- **What comes of the entries that a load waits for**: they are dropped if it was overtaken, and
else the load fails, and the messages are what they were when it began, or the conversation is the
one that was loaded. -/
theorem Leads.load_answered (hfresh : a₀.IsFresh) (hb : Leads (a₀, []) ms (b, vs))
    (hload : b.pipeline = a.pipeline.startLoad)
    (hs : b.stage? n = some (.awaitEntries call id (a.pipeline.generation + 1) errand))
    (hduring : Leads (b, vs) during (c, us))
    (hs' : c.stage? n = some (.awaitEntries call id (a.pipeline.generation + 1) errand))
    {r : Except Failure (List HistoryEntry)} (hd : d = (c.enter (.answer n (.entries r))).1) :
    (a.pipeline.alive = false ∨ Course.Overtakes during) ∧ d.pipeline = c.pipeline ∧
        Moment.Ends ⟨c, .turn (.answer n (.entries r)), d⟩ n (loadOutcome id (.ok ()) errand) ∨
      ¬(a.pipeline.alive = false ∨ Course.Overtakes during) ∧
        ((∃ f, r = .error f ∧
            d.pipeline = { a.pipeline.startLoad with
              phase := .idle, banner := some (Banner.ofLoad f) } ∧
            Moment.Ends ⟨c, .turn (.answer n (.entries r)), d⟩ n
              (loadOutcome id (.error f) errand)) ∨
          ∃ entries, r = .ok entries ∧
            d.pipeline = { a.pipeline.startLoad with
              phase := .idle, conversation := some id
              transcript := ⟨(HistoryEntry.toMessages entries c.supply).1⟩ } ∧
            d.stage? n = some (.wantSave (a.pipeline.generation + 1) ⟨some id⟩
              (loadOutcome id (.ok ()) errand))) := by
  have hover := hduring.isStale_load hload
  have hfound : (c.stage? n).isSome := hs' ▸ rfl
  have hkept := hb.pipeline_loading hfresh hload hs hduring hs'
  obtain ⟨hstale, h⟩ | ⟨hcurrent, f, xs, rfl, h⟩ | ⟨hcurrent, entries, y, rfl, h⟩ :=
    enter_entries hs' r
  · rw [h] at hd
    exact .inl ⟨hover.mp hstale, hd ▸ rfl, hfound, stage?_of_eq_endTask hd, hd ▸ rfl⟩
  · rw [h] at hd
    have hnotes : d.pipeline = { c.pipeline with
        phase := .idle, banner := some (Banner.ofLoad f) } := by
      rw [hd]
      exact congrArg Affairs.pipeline (affairs_notes _ [] xs)
    rw [hkept hcurrent] at hnotes
    refine .inr ⟨fun h => ?_, .inl ⟨f, rfl, hnotes, hfound, stage?_of_eq_endTask hd, hd ▸ rfl⟩⟩
    cases hcurrent.symm.trans (hover.mpr h)
  · rw [h] at hd
    have hnote : d.pipeline = { c.pipeline with
        phase := .idle, conversation := some id
        transcript := ⟨(HistoryEntry.toMessages entries c.supply).1⟩ } := by
      rw [hd]
      rfl
    rw [hkept hcurrent] at hnote
    refine .inr ⟨fun h => ?_, .inr ⟨entries, rfl, hnote, stage?_of_eq_setStage hd hfound⟩⟩
    cases hcurrent.symm.trans (hover.mpr h)

/-- **A load replaces everything or nothing.** A conversation starts to load, on whosever behalf,
and some time later its task has ended, whatever happens in between. In all that time, and before,
the task publishes nothing and leaves alone what is stored and shown. One of three things has
happened when the answer came:

* The load was overtaken: a new generation had begun, or the conversation was unmounted, if only
  before the load. Then nothing has changed, and the task ends as if all had gone well, with nothing
  saved.
* The server failed. The messages and the number are those there were when the load began, the phase
  is idle, a banner is up and there is no question to be asked again. The task ends with the
  failure, and nothing is saved.
* The entries came. The number is the one that was to be loaded, there is one message for every
  entry, in their order, and no other. As long as no new generation begins, the number is handed
  over to be saved before the task ends, and those messages stay the first ones; unless a question
  is accepted meanwhile, they are the only ones. -/
theorem Leads.load_replaces (hfresh : a₀.IsFresh) (hc : Leads (a₀, []) ms (a, ws))
    (hx : Happens x (a, ws) (b, vs)) (hs : a.stage? n = some s) (hloading : s.isLoading = false)
    (hs' : b.stage? n = some (.awaitEntries call id g errand)) (hlater : Leads (b, vs) later e)
    (hgone : e.1.stage? n = none) :
    Course.IsQuiet (later ++ ⟨a, x, b⟩ :: ms) n ∧
      ∃ since during : Course, ∃ r c d us us',
        later = since ++ ⟨c, .turn (.answer n (.entries r)), d⟩ :: during ∧
        Leads (b, vs) during (c, us) ∧ Leads (d, us') since e ∧
        ((a.pipeline.alive = false ∨ during.Overtakes) ∧ d.pipeline = c.pipeline ∧
            Moment.Ends ⟨c, .turn (.answer n (.entries r)), d⟩ n
              (loadOutcome id (.ok ()) errand) ∧
            Course.SavesNothing (later ++ ⟨a, x, b⟩ :: ms) n ∨
          ¬(a.pipeline.alive = false ∨ during.Overtakes) ∧
            ((∃ f, r = .error f ∧
                d.pipeline = { a.pipeline.startLoad with
                  phase := .idle, banner := some (Banner.ofLoad f) } ∧
                Moment.Ends ⟨c, .turn (.answer n (.entries r)), d⟩ n
                  (loadOutcome id (.error f) errand) ∧
                Course.SavesNothing (later ++ ⟨a, x, b⟩ :: ms) n) ∨
              ∃ entries zs, r = .ok entries ∧
                List.Forall₂ (fun entry z => ∃ k,
                  (entry.toMessage { c.supply with serial := k }).1 = z) entries zs ∧
                d.pipeline = { a.pipeline.startLoad with
                  phase := .idle, conversation := some id, transcript := ⟨zs⟩ } ∧
                (∃ m ∈ since, m.Ends n (loadOutcome id (.ok ()) errand)) ∧
                ((∀ m ∈ since, m.renews = false) → since.HandsOver n g ⟨some id⟩ ∧
                  zs <+: e.1.pipeline.transcript.messages ∧
                  ((∀ m ∈ since, m.accepted? = none) →
                    e.1.pipeline.conversation = some id ∧ e.1.pipeline.transcript = ⟨zs⟩)))) := by
  have hb : Leads (a₀, []) (⟨a, x, b⟩ :: ms) (b, vs) := hc.step hx
  obtain ⟨hload, rfl⟩ := hx.startLoad hs hloading hs'
  obtain ⟨since, during, r, c, d, us, us', rfl, hduring, hwaits, hy, hchanged, hsince⟩ :=
    hb.exists_answer hfresh hlater hs' rfl (hgone ▸ nofun)
  have hc' : Leads (a₀, []) (during ++ ⟨a, x, b⟩ :: ms) (c, us) := hb.append hduring
  have hd' := hc'.step hy
  obtain ⟨r, hr, hd⟩ := hy.answered_entries (hc'.orderly hfresh) hwaits hchanged
  cases hr
  have hnc : n < c.nextTask := lt_nextTask (hc'.orderly hfresh) hwaits
  have hprogress : Stage.progress (c.stage? n) = 3 := hwaits ▸ rfl
  have hquiet := hc'.isQuiet hfresh hy hsince hnc (Nat.le_of_eq hprogress)
  have hsaves := hc'.savesNothing hfresh hy hsince hnc (hprogress ▸ by decide)
  rw [← List.cons_append, ← List.append_assoc] at hquiet hsaves
  obtain ⟨hover, hpipeline, hends⟩ | ⟨hover, ⟨f, rfl, hpipeline, hends⟩ |
    ⟨entries, rfl, hpipeline, hsaving⟩⟩ := hb.load_answered hfresh hload hs' hduring hwaits hd
  · exact ⟨hquiet (hends.gone ▸ by decide), since, during, _, c, d, us, us', rfl, hduring, hsince,
      .inl ⟨hover, hpipeline, hends, hsaves hends.gone⟩⟩
  · exact ⟨hquiet (hends.gone ▸ by decide), since, during, _, c, d, us, us', rfl, hduring, hsince,
      .inr ⟨hover, .inl ⟨f, rfl, hpipeline, hends, hsaves hends.gone⟩⟩⟩
  · have hidle : d.pipeline.phase = .idle := by rw [hpipeline]
    refine ⟨hquiet (hsaving ▸ Nat.le_refl 5), since, during, _, c, d, us, us', rfl, hduring, hsince,
      .inr ⟨hover, .inr ⟨entries, _, rfl, HistoryEntry.forall₂_toMessages entries c.supply,
        hpipeline, ?_, fun hkept => ⟨?_, ?_, fun hunasked => ?_⟩⟩⟩⟩
    · obtain ⟨m, hm, o, _, hends, -, -, ho⟩ := hd'.exists_ends hfresh hsince hsaving hgone
      exact ⟨m, hm, ho _ rfl ▸ hends⟩
    · have hg : d.pipeline.generation = a.pipeline.generation + 1 := by
        rw [hpipeline]
        rfl
      rw [← hg] at hsaving ⊢
      exact (hd'.handsOver hfresh hsaving hsince hgone).resolve_right fun ⟨m, hm, h⟩ =>
        nomatch (hkept m hm).symm.trans h
    · have hstay := hd'.messages_stay hfresh hidle hsince hkept
      rw [hpipeline] at hstay
      exact hstay
    · obtain ⟨hconversation, htranscript⟩ :=
        hd'.messages_still hfresh hidle hsince fun m hm => ⟨hkept m hm, hunasked m hm⟩
      rw [hconversation, htranscript, hpipeline]
      exact ⟨rfl, rfl⟩

/-- A conversation that is loaded after a question failed: nothing of the old messages is left. -/
theorem load_replaces_of_entries :
    let a := blank.run [.call (.send "hi"), .advance 0, .advance 0,
      .answer 0 (.reply (.error (.settings "no server"))), .call (.load 7)]
    let entry : HistoryEntry := { role := some "user", content := some "before" }
    let d := ((a.advance 1).enter (.answer 1 (.entries (.ok [entry])))).1
    let e := ((d.advance 1).enter (.giveSaved 1 (.ok ()))).1
    a.pipeline.transcript.size = 1 ∧ a.pipeline.resendable = true ∧
      e.pipeline.conversation = some 7 ∧ ∃ z : Message, e.pipeline.transcript = ⟨[z]⟩ ∧
        ∃ k, (entry.toMessage { a.supply with serial := k }).1 = z := by
  intro a entry d e
  obtain ⟨ms, hc⟩ := (reached_run blank _).exists_leads (c := (a, []))
  have hlater := (((Leads.start (c := (a.advance 1, []))).turn
    (.answer 1 (.entries (.ok [entry])))).turn (.advance 1)).turn (.giveSaved 1 (.ok ()))
  obtain ⟨-, since, during, r, c, d', us, us', hlist, -, -, h⟩ := hc.load_replaces isFresh_blank
    (.turn (.advance 1)) (n := 1) (s := .start (.load 7)) rfl rfl rfl hlater rfl
  have hhappenings := congrArg (List.map Moment.happening) hlist
  refine ⟨rfl, rfl, ?_⟩
  rcases since with _ | ⟨m₃, _ | ⟨m₂, _ | ⟨m₁, since⟩⟩⟩
  · simp at hhappenings
  · simp at hhappenings
  · -- the answer is the first of what happened
    simp only [List.cons_append, List.nil_append, List.cons.injEq] at hlist
    obtain ⟨rfl, rfl, hanswer, rfl⟩ := hlist
    cases hanswer
    obtain ⟨h | ⟨_, hm, -⟩, -⟩ | ⟨-, ⟨f, h, -⟩ | ⟨entries, zs, hr, hzs, -, -, hkept⟩⟩ := h
    · cases h
    · cases hm
    · cases h
    · cases hr
      obtain ⟨-, -, hunasked⟩ := hkept fun m hm => by
        rcases List.mem_cons.mp hm with rfl | hm
        · rfl
        · obtain rfl := List.mem_singleton.mp hm
          rfl
      obtain ⟨hconversation, htranscript⟩ := hunasked fun m hm => by
        rcases List.mem_cons.mp hm with rfl | hm
        · rfl
        · obtain rfl := List.mem_singleton.mp hm
          rfl
      cases hzs with
      | cons hz hzs =>
        cases hzs
        exact ⟨hconversation, _, htranscript, hz⟩
  · simp at hhappenings

end App

end Parley
