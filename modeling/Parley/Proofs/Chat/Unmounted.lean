import Parley.Proofs.Chat.Crossing

/-!
# What an unmounted conversation still does

A conversation that was unmounted drops whatever comes back to it, and nobody on the bus finds it
any more. What it had set going before is not called off. A load in the background, a restored
session and a question that is to be put look at the generation when they go on, if at anything,
and not at whether the conversation is still mounted; and a signal that was being delivered arrives.
Each of them may *stir* a conversation long after it was unmounted (`Parley.Moment.stirs`).

`Parley.App.Leads.unmounted_still` says that nothing else does: as long as nobody calls the
conversation's own methods, every moment at which nothing stirs leaves the conversation and the
server alone, and whatever stirs was left behind when the conversation was unmounted. A load in the
background that is late to start is the case in point (`Parley.App.stirs_of_late_load`): it puts the
conversation in a phase that nothing will ever end.
-/

namespace Parley

/-! ### What can be left behind -/

/-- A task is to ask the server for something, or for the saved session first, and has not. -/
def Stage.isDormant : Stage → Bool
  | .startLoad _ _ | .posing _ _ | .awaitSession => true
  | _ => false

namespace Moment

/-- One of the conversation's own methods is called. An operation is called when its task starts. -/
def calls (m : Moment) : Bool :=
  match m.happening with
  | .turn (.call _) => true
  | .turn (.advance n) =>
    match m.before.stage? n with
    | some (.start _) => true
    | _ => false
  | .errand (.act (.command _ .reset)) | .errand (.act (.command _ .dismiss)) => true
  | _ => false

/-- A conversation stirs: it starts to load, puts a question to the server, or starts anew. -/
def stirs (m : Moment) : Bool := m.renews || m.posed?.isSome

theorem calls_of_dismisses {m : Moment} (h : m.happening.dismisses = true) : m.calls = true := by
  obtain ⟨before, happening, after⟩ := m
  unfold Happening.dismisses at h
  split at h
  · rename_i hhappening
    obtain rfl : happening = _ := hhappening
    rfl
  · cases h

/-- If nobody calls it, a conversation starts anew because it is handed the signal. -/
theorem exists_of_resets {m : Moment} (h : m.happening.resets = true) (hcalls : m.calls = false) :
    ∃ l source, l.listener = .pipeline ∧
      m.happening = .errand (.deliver l ⟨source, .newConversation⟩) := by
  obtain ⟨before, happening, after⟩ := m
  unfold Happening.resets at h
  split at h
  · rename_i hhappening
    obtain rfl : happening = _ := hhappening
    exact ⟨_, _, rfl, rfl⟩
  · rename_i hhappening
    obtain rfl : happening = _ := hhappening
    cases hcalls
  · cases h

end Moment

/-- Where a task comes from that has not asked the server: it was there, or an operation starts. -/
theorem Change.dormant_before {t : Turn} {A B : Affairs} {n : Nat} {s : Stage}
    (hm : Change (some t) A B) (hs : B.stage? n = some s) (hd : s.isDormant = true) :
    A.stage? n = some s ∨ ∃ o, t = .advance n ∧ A.stage? n = some (.start o) := by
  have hfate := hm.fate n
  rw [hs] at hfate
  cases hfate with
  | kept h => exact .inl h
  | asked h | attends h => exact .inr ⟨_, rfl, h⟩
  -- a task that comes to any other stage has asked the server, or need not
  | called | posed | loads => cases hd
  | saves _ h | replied _ h | arrived _ h => rcases h with h | h <;> cases h; cases hd

theorem Pipeline.unmount_of_not_alive {p : Pipeline} (h : p.alive = false) : p.unmount = p := by
  rw [unmount, ← h]

namespace App

variable {a₀ a b : App} {n g : Nat} {ws vs : Errands} {x : Happening} {c c' : App × Errands}
  {ms later : Course}

/-! ### One moment -/

/-- **What comes back to an unmounted conversation is dropped**, and nothing is published. -/
theorem takeAnswer_of_unmounted (halive : a.pipeline.alive = false) (n : Nat) (r : Answer) :
    (a.takeAnswer n r).1.pipeline = a.pipeline ∧ (a.takeAnswer n r).1.calls = a.calls ∧
      (a.takeAnswer n r).2 = [] := by
  have hstale : ∀ g, a.pipeline.isStale g = true := fun g =>
    Pipeline.isStale_eq_true.mpr (.inl halive)
  unfold takeAnswer
  split
  · simp only [takeReply, Pipeline.receive, hstale, if_true]
    exact ⟨rfl, rfl, trivial⟩
  · simp only [takeEntries, Pipeline.receiveEntries, hstale, if_true]
    exact ⟨rfl, rfl, trivial⟩
  · exact ⟨rfl, rfl, rfl⟩
  · exact ⟨rfl, rfl, rfl⟩

/-- A task that starts to load a conversation makes it stir. -/
theorem stirs_of_startLoad {t : Turn} {s : Stage} {id : Int} {errand : Errand}
    (htask : t.task? = some n) (hs : a.stage? n = some s) (hloading : s.isLoading = false)
    (h : (a.enter t).1 = a.startLoad n id errand) :
    Moment.stirs ⟨a, .turn t, (a.enter t).1⟩ = true := by
  have hs' := stage?_startLoad (a := a) (n := n) (hs ▸ rfl) id errand
  have hloads := Moment.loads_eq_true.mpr
    ⟨_, _, _, _, _, _, Moment.passage?_turn htask hs (h ▸ hs'), hloading⟩
  rw [Moment.stirs, Moment.renews, hloads, Bool.or_true, Bool.true_or]

/-- What a task does to a conversation when it goes on by itself: nothing, unless an operation
starts, or it has not asked the server yet. -/
theorem advance_still (a : App) (n : Nat) :
    ((a.advance n).pipeline = a.pipeline ∧ (a.advance n).calls = a.calls) ∨
      (∃ o, a.stage? n = some (.start o)) ∨
      ∃ s, a.stage? n = some s ∧ s.isDormant = true ∧
        Moment.stirs ⟨a, .turn (.advance n), a.advance n⟩ = true := by
  cases hs : a.stage? n with
  | none =>
    refine .inl ?_
    simp only [advance, hs]
    trivial
  | some s =>
    cases s with
    | start o => exact .inr (.inl ⟨o, rfl⟩)
    | startLoad id errand =>
      have hadvance : a.advance n = a.startLoad n id errand := by simp only [advance, hs]
      exact .inr (.inr ⟨_, rfl, rfl, stirs_of_startLoad (t := .advance n) rfl hs rfl hadvance⟩)
    | posing q g =>
      have hposed := Moment.posed?_eq_some.mpr
        ⟨q, g, g, Moment.passage?_turn (t := .advance n) rfl hs (advance_posing hs).1⟩
      refine .inr (.inr ⟨_, rfl, rfl, ?_⟩)
      rw [Moment.stirs, Bool.or_eq_true]
      exact .inr (Option.isSome_iff_exists.mpr ⟨_, hposed⟩)
    | wantSave g session o =>
      refine .inl ?_
      simp only [advance, hs, startSave]
      split
      · exact ⟨rfl, rfl⟩
      · split <;> exact ⟨rfl, rfl⟩
    | _ =>
      refine .inl ?_
      simp only [advance, hs]
      trivial

/-- What a saved session does to a conversation: nothing, unless a task has waited for it and starts
to load what it says. -/
theorem giveSession_still (a : App) (n : Nat) (r : Except Failure SavedSession) :
    ((a.giveSession n r).pipeline = a.pipeline ∧ (a.giveSession n r).calls = a.calls) ∨
      ∃ s, a.stage? n = some s ∧ s.isDormant = true ∧
        Moment.stirs ⟨a, .turn (.giveSession n r), a.giveSession n r⟩ = true := by
  by_cases hs : a.stage? n = some .awaitSession
  · rcases r with f | ⟨_ | id⟩
    · refine .inl ?_
      simp only [giveSession, hs]
      exact ⟨rfl, rfl⟩
    · refine .inl ?_
      simp only [giveSession, hs]
      exact ⟨rfl, rfl⟩
    · have hgive : a.giveSession n (.ok ⟨some id⟩) = a.startLoad n id .restore := by
        simp only [giveSession, hs]
      have hstirs := stirs_of_startLoad (t := .giveSession n (.ok ⟨some id⟩)) rfl hs rfl hgive
      exact .inr ⟨_, hs, rfl, hstirs⟩
  · refine .inl ?_
    unfold giveSession
    split
    · exact absurd ‹_› hs
    · exact ⟨rfl, rfl⟩

/-- **What a turn does to an unmounted conversation**: nothing, unless an operation starts in it, or
a task wakes that has not asked the server yet. -/
theorem enter_of_unmounted (halive : a.pipeline.alive = false) (t : Turn) :
    ((a.enter t).1.pipeline = a.pipeline ∧ (a.enter t).1.calls = a.calls) ∨
      (∃ n o, t = .advance n ∧ a.stage? n = some (.start o)) ∨
      ∃ n s, t.task? = some n ∧ a.stage? n = some s ∧ s.isDormant = true ∧
        Moment.stirs ⟨a, .turn t, (a.enter t).1⟩ = true := by
  cases t with
  | call | publish | tell | jot => exact .inl ⟨rfl, rfl⟩
  | advance n =>
    obtain h | ⟨o, hs⟩ | ⟨s, hs, hd, hstirs⟩ := advance_still a n
    · exact .inl h
    · exact .inr (.inl ⟨n, o, rfl, hs⟩)
    · exact .inr (.inr ⟨n, s, rfl, hs, hd, hstirs⟩)
  | answer n r =>
    obtain ⟨hpipeline, hcalls, -⟩ := takeAnswer_of_unmounted halive n r
    exact .inl ⟨hpipeline, hcalls⟩
  | giveSession n r =>
    obtain h | ⟨s, hs, hd, hstirs⟩ := giveSession_still a n r
    · exact .inl h
    · exact .inr (.inr ⟨n, s, rfl, hs, hd, hstirs⟩)
  | giveSaved n r =>
    refine .inl ?_
    simp only [enter, giveSaved]
    split
    · cases r <;> exact ⟨rfl, rfl⟩
    · exact ⟨rfl, rfl⟩

/-- The turn of a task leaves nothing to do in an unmounted conversation. -/
theorem enter_snd_of_unmounted (halive : a.pipeline.alive = false) {t : Turn}
    (ht : t.task? = some n) : (a.enter t).2 = [] := by
  cases t with
  | call | publish | tell | jot => cases ht
  | answer m r => exact (takeAnswer_of_unmounted halive m r).2.2
  | _ => rfl

/-- **An unmounted conversation is left alone exactly if nothing stirs**, as long as nobody calls
its own methods. -/
theorem Happens.still_iff (hx : Happens x (a, ws) (b, vs)) (halive : a.pipeline.alive = false)
    (hcalls : Moment.calls ⟨a, x, b⟩ = false) :
    Moment.stirs ⟨a, x, b⟩ = false ↔ b.pipeline = a.pipeline ∧ b.calls = a.calls := by
  constructor
  · intro hstill
    cases x with
    | turn t =>
      cases hx
      obtain h | ⟨n, o, rfl, hs⟩ | ⟨-, -, -, -, -, h⟩ := enter_of_unmounted halive t
      · exact h
      · simp [Moment.calls, hs] at hcalls
      · cases hstill.symm.trans h
    | errand w =>
      cases hx
      refine ⟨?_, congrArg (·.2.2.2) (outfit_doing a w)⟩
      simp only [Moment.stirs, Moment.renews, Bool.or_eq_false_iff] at hstill
      rw [pipeline_doing, if_neg (Bool.eq_false_iff.mp hstill.1.1)]
      split
      · rename_i hdismisses
        cases hcalls.symm.trans (Moment.calls_of_dismisses hdismisses)
      · split
        · exact Pipeline.unmount_of_not_alive halive
        · rfl
  · rintro ⟨hpipeline, hcalls⟩
    rw [Bool.eq_false_iff, Ne, Moment.stirs, Bool.or_eq_true]
    rintro (hrenews | hposed)
    · have hg := hx.generation.1
      rw [hrenews, hpipeline] at hg
      exact Nat.succ_ne_self _ hg.symm
    · obtain ⟨⟨n, call, q⟩, hposed⟩ := Option.isSome_iff_exists.mp hposed
      obtain ⟨-, -, h, -⟩ := hx.posed hposed
      rw [hcalls] at h
      exact Nat.succ_ne_self _ h.symm

/-- A task that has not asked the server was there before, or the conversation has just been handed
the signal to load another. -/
theorem dormant_doing {w : Work Listener Act} {s : Stage}
    (hs : (a.doing w).1.stage? n = some s) (hd : s.isDormant = true) :
    a.stage? n = some s ∨ ∃ l source id, s = .startLoad id .select ∧ l.listener = .pipeline ∧
      w = .deliver l ⟨source, .conversationSelected id⟩ := by
  cases hw : closing? w with
  | some c =>
    cases w with
    | act w =>
      cases w with
      | conclude m g adopted =>
        cases adopted with
        | some id =>
          rcases Affairs.stage?_of_put (A := a.affairs []) hs with ⟨-, rfl⟩ | ⟨-, hs⟩
          · cases hd
          · exact .inl hs
        | none =>
          have hdrop := congrArg (Affairs.stage? · n) (a.affairs_endTask [] m (.sent .delivered))
          exact .inl (Affairs.stage?_of_drop (hdrop.symm.trans hs)).2
      | _ => cases hw
    | _ => cases hw
  | none =>
    have haffairs := congrArg (Affairs.stage? · n) (a.affairs_doing [] hw)
    have hs := haffairs.symm.trans hs
    split at hs
    · rcases Affairs.stage?_of_spawn (A := { a.affairs [] with pipeline := a.pipeline.reset }) hs
        with hs | rfl
      · exact .inl hs
      · cases hd
    · split at hs
      · exact .inl hs
      · split at hs
        · exact .inl hs
        · split at hs
          · rename_i id hselects
            rcases Affairs.stage?_of_spawn hs with hs | rfl
            · exact .inl hs
            · obtain ⟨l, source, hl, hw⟩ := Happening.selects?_eq_some.mp hselects
              cases hw
              exact .inr ⟨l, source, id, rfl, hl, rfl⟩
          · exact .inl hs

/-! ### What is left behind -/

/-- A task that had not asked the server, or that comes of a signal that was being delivered. -/
def Lingers (c : App × Errands) (n : Nat) (s : Stage) : Prop :=
  s.isDormant = true ∧ (c.1.stage? n = some s ∨ ∃ l source id, s = .startLoad id .select ∧
    l.listener = .pipeline ∧ .deliver l ⟨source, .conversationSelected id⟩ ∈ c.2)

/-- What happens was left behind: a task goes on, or a signal arrives that was being delivered. -/
def LeftBehind (c : App × Errands) (m : Moment) : Prop :=
  (∃ t n s, m.happening = .turn t ∧ t.task? = some n ∧ m.before.stage? n = some s ∧
      Lingers c n s) ∨
    ∃ l source, l.listener = .pipeline ∧ .deliver l ⟨source, .newConversation⟩ ∈ c.2 ∧
      m.happening = .errand (.deliver l ⟨source, .newConversation⟩)

/-- A conversation is unmounted, and all that may still stir was left behind. -/
structure Deserted (c c' : App × Errands) : Prop where
  alive : c'.1.pipeline.alive = false
  enrolled : c'.1.Enrolled
  delivers : ∀ l e, l.listener = .pipeline → .deliver l e ∈ c'.2 → .deliver l e ∈ c.2
  lingers : ∀ n s, c'.1.stage? n = some s → s.isDormant = true → Lingers c n s

theorem Deserted.refl (halive : a.pipeline.alive = false) (henrolled : a.Enrolled) :
    Deserted (a, ws) (a, ws) where
  alive := halive
  enrolled := henrolled
  delivers _ _ _ h := h
  lingers _ _ hs hd := ⟨hd, .inl hs⟩

/-- **A conversation stays enrolled**, whatever happens on the bus. -/
theorem Happens.enrolled (hx : Happens x (a, ws) (b, vs)) (ha : a.Enrolled) : b.Enrolled := by
  have halive := hx.generation.2
  cases x with
  | turn t =>
    cases hx
    exact ha.congr (assembly_enter a t) (halive.trans (Bool.and_true _))
  | errand w =>
    cases hx
    by_cases hw : ∀ who c, w = .act (.command who c) → c.dismantles = false
    · have hstays : (Happening.errand w).unmounts = false := by
        cases hunmounts : (Happening.errand w).unmounts with
        | false => rfl
        | true =>
          unfold Happening.unmounts at hunmounts
          split at hunmounts
          · rename_i heq
            cases heq
            cases hw _ _ rfl
          · rename_i heq
            cases heq
            cases hw _ _ rfl
          · cases hunmounts
      rw [hstays, Bool.not_false, Bool.and_true] at halive
      exact ha.congr (congrArg Prod.fst (fittings_doing a hw)) halive
    · simp only [not_forall, Bool.not_eq_false] at hw
      obtain ⟨who, c, rfl, hc⟩ := hw
      cases c with
      | unmount part => exact ha.unmount part
      | shutdown => exact ((ha.unmount .pipeline).unmount .canvas).unmount .store
      | _ => cases hc

/-- **Nothing new is left behind** once a conversation is unmounted: nobody hands it another signal,
and no task is to ask the server that was not to ask before. -/
theorem Deserted.step (hc : Deserted c (a, ws)) (hx : Happens x (a, ws) (b, vs))
    (hcalls : Moment.calls ⟨a, x, b⟩ = false) : Deserted c (b, vs) := by
  refine ⟨?_, hx.enrolled hc.enrolled, fun l e hl h => ?_, fun n s hs hd => ?_⟩
  · exact hx.generation.2.trans (by rw [hc.alive, Bool.false_and])
  · refine hc.delivers l e hl ?_
    cases hx with
    | turn t =>
      rcases List.mem_append.mp h with h | h
      · cases t with
        | publish | tell => simp [enter] at h
        | answer n r =>
          rw [enter_snd_of_unmounted hc.alive (n := n) rfl] at h
          cases h
        | _ => cases h
      · exact h
    | errand w =>
      rw [List.mem_append, List.mem_append] at h
      rw [List.mem_append, List.mem_cons]
      rcases h with h | h | h
      · exact .inl h
      · -- an unmounted conversation is not on the bus
        have halive := (hc.enrolled l (mem_subscriptions_of_doing h) hl).1
        cases hc.alive.symm.trans halive
      · exact .inr (.inr h)
  · cases hx with
    | turn t =>
      rcases (a.change_enter ws t).dormant_before hs hd with h | ⟨o, rfl, h⟩
      · exact hc.lingers n s h hd
      · have hstart : a.stage? n = some (.start o) := h
        simp [Moment.calls, hstart] at hcalls
    | errand w =>
      rcases dormant_doing hs hd with h | ⟨l, source, id, rfl, hl, rfl⟩
      · exact hc.lingers n s h hd
      · exact ⟨hd, .inr ⟨l, source, id, rfl, hl, hc.delivers l _ hl (by simp)⟩⟩

/-- **What stirs an unmounted conversation was left behind.** -/
theorem Deserted.leftBehind (hc : Deserted c (a, ws)) (hx : Happens x (a, ws) (b, vs))
    (hcalls : Moment.calls ⟨a, x, b⟩ = false) (hstirs : Moment.stirs ⟨a, x, b⟩ = true) :
    LeftBehind c ⟨a, x, b⟩ := by
  cases x with
  | turn t =>
    have hmoves : ¬(b.pipeline = a.pipeline ∧ b.calls = a.calls) := by
      rw [← hx.still_iff hc.alive hcalls, hstirs]
      exact nofun
    cases hx
    obtain h | ⟨n, o, rfl, hs⟩ | ⟨n, s, htask, hs, hd, -⟩ := enter_of_unmounted hc.alive t
    · exact absurd h hmoves
    · simp [Moment.calls, hs] at hcalls
    · exact .inl ⟨t, n, s, rfl, htask, hs, hc.lingers n s hs hd⟩
  | errand w =>
    have hposed : Moment.posed? ⟨a, .errand w, b⟩ = none := by
      rw [Moment.posed?, Moment.passage?_errand rfl]
    rw [Moment.stirs, hposed, Option.isSome_none, Bool.or_false, Moment.renews_of_errand rfl]
      at hstirs
    obtain ⟨l, source, hl, hw⟩ := Moment.exists_of_resets hstirs hcalls
    cases hw
    cases hx
    exact .inr ⟨l, source, hl, hc.delivers l _ hl (by simp), rfl⟩

/-- What is left alone at every moment is left alone in the course of time. -/
theorem Leads.still (hlater : Leads c later c')
    (hstill : ∀ m ∈ later, m.after.pipeline = m.before.pipeline ∧ m.after.calls = m.before.calls) :
    c'.1.pipeline = c.1.pipeline ∧ c'.1.calls = c.1.calls := by
  induction hlater with
  | start => exact ⟨rfl, rfl⟩
  | step _ _ ih =>
    obtain ⟨hpipeline, hcalls⟩ := ih fun m hm => hstill m (List.mem_cons_of_mem _ hm)
    obtain ⟨hpipeline', hcalls'⟩ := hstill _ List.mem_cons_self
    exact ⟨hpipeline'.trans hpipeline, hcalls'.trans hcalls⟩

/-! ### Courses -/

theorem Leads.enrolled (henrolled : a₀.Enrolled) (hc : Leads (a₀, []) ms c) : c.1.Enrolled := by
  induction hc with
  | start => exact henrolled
  | step _ hx ih => exact hx.enrolled ih

theorem Deserted.leads {c'' : App × Errands} (hc : Deserted c c') (hlater : Leads c' later c'')
    (hcalls : ∀ m ∈ later, m.calls = false) : Deserted c c'' := by
  induction hlater with
  | start => exact hc
  | step _ hx ih =>
    exact (ih fun m hm => hcalls m (List.mem_cons_of_mem _ hm)).step hx
      (hcalls _ List.mem_cons_self)

/-- **What an unmounted conversation still does.** A conversation is unmounted, and from then on
nobody calls its own methods.

* At every moment at which nothing stirs, the conversation is left as it is and the server is not
  called; at every moment at which something stirs, one of the two happens. Whatever stirs was left
  behind when the conversation was unmounted: it is a task that had not asked the server, or a
  signal that was being delivered. What comes back to a task leaves nothing to be published.
* So if no such task and no such signal was left behind, the conversation stays as it is for good,
  and the server is not called any more. -/
theorem Leads.unmounted_still (henrolled : a₀.Enrolled) (hc : Leads (a₀, []) ms (a, ws))
    (halive : a.pipeline.alive = false) (hlater : Leads (a, ws) later c')
    (hcalls : ∀ m ∈ later, m.calls = false) :
    (∀ m ∈ later,
        (m.stirs = false ↔
          m.after.pipeline = m.before.pipeline ∧ m.after.calls = m.before.calls) ∧
        (m.stirs = true → LeftBehind (a, ws) m) ∧
        ∀ t n, m.happening = .turn t → t.task? = some n → (m.before.enter t).2 = []) ∧
      ((∀ n s, a.stage? n = some s → s.isDormant = false) →
        (∀ l e, .deliver l e ∈ ws → l.listener ≠ .pipeline) →
        c'.1.pipeline = a.pipeline ∧ c'.1.calls = a.calls) := by
  have hmoments : ∀ m ∈ later,
      (m.stirs = false ↔
        m.after.pipeline = m.before.pipeline ∧ m.after.calls = m.before.calls) ∧
      (m.stirs = true → LeftBehind (a, ws) m) ∧
      ∀ t n, m.happening = .turn t → t.task? = some n → (m.before.enter t).2 = [] := by
    intro m hm
    obtain ⟨since, before, us, vs, rfl, hbefore, hx, -⟩ := hlater.exists_of_mem hm
    have hdeserted : Deserted (a, ws) (m.before, us) :=
      (Deserted.refl halive (hc.enrolled henrolled)).leads hbefore fun m' hm' =>
        hcalls m' (List.mem_append_right _ (List.mem_cons_of_mem _ hm'))
    exact ⟨hx.still_iff hdeserted.alive (hcalls m hm), hdeserted.leftBehind hx (hcalls m hm),
      fun t n _ htask => enter_snd_of_unmounted hdeserted.alive htask⟩
  refine ⟨hmoments, fun hdormant hdelivers => hlater.still fun m hm => ?_⟩
  obtain ⟨hstill, hleft, -⟩ := hmoments m hm
  refine hstill.mp (Bool.eq_false_iff.mpr fun hstirs => ?_)
  obtain ⟨-, n, s, -, -, -, hd, hs | ⟨l, source, id, -, hl, hmem⟩⟩ | ⟨l, source, hl, hmem, -⟩ :=
    hleft hstirs
  · cases (hdormant n s hs).symm.trans hd
  · exact hdelivers l _ hmem hl
  · exact hdelivers l _ hmem hl

/-- A question is under way when the conversation is unmounted. A new conversation is published and
the reply comes, and nothing has happened to the conversation. -/
theorem unmounted_still_of_question :
    let a := (blank.mount "").run [.call (.send "hi"), .advance 0, .advance 0,
      .tell (.unmount .pipeline)]
    let e : Event := ⟨"", .newConversation⟩
    let b := ((a.doing (.publish e)).1.enter
      (.answer 0 (.reply (.ok { message := some (.string "x") })))).1
    a.pipeline.alive = false ∧ b.pipeline = a.pipeline ∧ b.calls = a.calls := by
  intro a e b
  have halive : a.pipeline.alive = false := by decide +kernel
  have henrolled : (blank.mount "").Enrolled := Enrolled.mount (a := blank) nofun rfl ""
  have hquiet : (a.tasks.all fun t => !t.stage.isDormant) = true := by decide +kernel
  have hdormant : ∀ n s, a.stage? n = some s → s.isDormant = false := by
    intro n s hs
    obtain ⟨t, ht, -, rfl⟩ := Affairs.exists_of_stage? (A := a.affairs []) hs
    simpa using List.all_eq_true.mp hquiet t ht
  obtain ⟨ms, hc⟩ := (reached_run (blank.mount "") _).exists_leads (c := (a, []))
  have hlater := ((Leads.start (c := (a, []))).turn (.publish e)).errand.turn
    (.answer 0 (.reply (.ok { message := some (.string "x") })))
  obtain ⟨-, hstill⟩ := hc.unmounted_still henrolled halive hlater
    (List.forall_mem_cons.mpr ⟨rfl, List.forall_mem_cons.mpr ⟨rfl,
      List.forall_mem_cons.mpr ⟨rfl, List.forall_mem_nil _⟩⟩⟩)
  exact ⟨halive, hstill hdormant fun _ _ h => absurd h List.not_mem_nil⟩

/-- **A load in the background stirs a conversation that was unmounted.** A conversation is
selected, and unmounted before the load starts. When it starts, the server is called, and the
conversation waits for an answer that will be dropped. -/
theorem stirs_of_late_load :
    let a := (blank.mount "").run [.publish ⟨"", .conversationSelected 1⟩,
      .tell (.unmount .pipeline)]
    let b := a.turn (.advance 0)
    let c := b.turn (.answer 0 (.entries (.ok [])))
    (a.pipeline.alive = false ∧ a.pipeline.phase = .idle ∧ a.calls = 0) ∧
      (b.pipeline.phase = .awaiting ∧ b.calls = 1) ∧
      c.tasks.isEmpty = true ∧ c.pipeline.phase = .awaiting := by
  decide +kernel

end App

end Parley
