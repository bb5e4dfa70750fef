import Parley.Proofs.Chat.Footprint

/-!
# What comes of a task

A task says what came of it when it ends, and only then (`Parley.Moment.Ends`). What it can say
depends on where it stands (`Parley.Stage.CanEnd`), and from some point on it is settled
(`Parley.Stage.outcome?`): once its reply is being published, a question has been delivered, and
once its conversation is to be saved, a load has gone well. So a task ends with a delivery exactly
if it has taken in a reply (`Parley.App.Leads.ends_delivered_iff`).
-/

namespace Parley

/-! ### Outcomes -/

/-- What comes of a task, once that is settled. -/
def Stage.outcome? : Stage → Option Outcome
  | .publishing => some (.sent .delivered)
  | .wantSave _ _ o | .awaitSaved _ _ o => some o
  | _ => none

/-- What a task can end with at a stage. -/
def Stage.CanEnd : Stage → Outcome → Prop
  | .start (.send _), o | .start .retry, o => o = .sent .ignored
  | .awaitReply _ _ _, o => o = .sent .discarded ∨ ∃ k, o = .sent (.failed k)
  | .awaitEntries _ id _ errand, o => ∃ r, o = App.loadOutcome id r errand
  | .awaitSummaries _, o => ∃ r, o = .listed r
  | .awaitSession, o => o = .restored (.ok none)
  | .publishing, o => o = .sent .delivered
  | .wantSave _ _ o', o | .awaitSaved _ _ o', o => o = o'
  | _, _ => False

/-- A task ends, and says what came of it. -/
structure Moment.Ends (m : Moment) (n : Nat) (o : Outcome) : Prop where
  found : (m.before.stage? n).isSome
  gone : m.after.stage? n = none
  told : m.after.trace.head? = some (.ended n o)

theorem App.loadOutcome_ne_delivered (id : Int) (r : Except Failure Unit) (errand : Errand) :
    App.loadOutcome id r errand ≠ .sent .delivered := by
  cases errand <;> exact nofun

namespace Stage

variable {s : Stage} {o : Outcome}

/-- Where the outcome is settled a task can end with no other. -/
theorem CanEnd.eq_of_outcome? (h : s.CanEnd o) {o' : Outcome} (ho : s.outcome? = some o') :
    o = o' := by
  cases s with
  | publishing | wantSave | awaitSaved => exact h.trans (Option.some.inj ho)
  | _ => cases ho

/-- Where it is not, a task does not end with a delivery. -/
theorem CanEnd.ne_delivered (h : s.CanEnd o) (ho : s.outcome? ≠ some (.sent .delivered)) :
    o ≠ .sent .delivered := by
  rintro rfl
  cases s with
  | start operation => cases operation <;> cases h
  | startLoad | posing | awaitSession => cases h
  | awaitReply => rcases h with h | ⟨_, h⟩ <;> cases h
  | awaitEntries call id g errand =>
    obtain ⟨r, h⟩ := h
    exact App.loadOutcome_ne_delivered id r errand h.symm
  | awaitSummaries =>
    obtain ⟨r, h⟩ := h
    cases h
  | publishing => exact ho rfl
  | wantSave | awaitSaved => exact ho (congrArg some h.symm)

end Stage

/-! ### One change -/

theorem closing?_eq_some {w : Work Listener Act} {n g : Nat} {adopted : Option Int} :
    closing? w = some (n, g, adopted) ↔ w = .act (.conclude n g adopted) := by
  constructor
  · intro h
    unfold closing? at h
    split at h
    · cases h
      rfl
    · cases h
  · rintro rfl
    rfl

namespace Change

variable {l : Option Turn} {A B : Affairs} {n : Nat} {s s' : Stage} {o : Outcome}

/-- **An outcome that is settled stays.** -/
theorem outcome?_kept (hm : Change l A B) (hO : A.Orderly) (hs : A.stage? n = some s)
    (ho : s.outcome? = some o) (hs' : B.stage? n = some s') : s'.outcome? = some o := by
  have hfate := hm.fate n
  rw [hs'] at hfate
  cases hfate with
  | kept h =>
    cases hs.symm.trans h
    exact ho
  | called h | cleared h | selected h => cases hs.symm.trans h
  | concluded hc hn h =>
    cases hs.symm.trans (hn ▸ hO.publishing _ hc)
    obtain ⟨_, rfl⟩ := h s' rfl
    exact ho
  | saves h h' =>
    cases hs.symm.trans h
    rcases h' with h' | h' <;> cases h'
    exact ho
  -- at any other stage nothing is settled
  | asked h | posed h | attends h | replied h | arrived h =>
    cases hs.symm.trans h
    cases ho
  | loads _ h hload =>
    cases hs.symm.trans h
    rcases hload with ⟨rfl, -⟩ | rfl | ⟨rfl, -⟩ <;> cases ho

/-- **When a delivery is settled**: when the reply is taken in. -/
theorem delivered_iff (hm : Change l A B) (hO : A.Orderly) (hs' : B.stage? n = some s') :
    s'.outcome? = some (.sent .delivered) ↔
      (∃ s, A.stage? n = some s ∧ s.outcome? = some (.sent .delivered)) ∨
        ∃ call q g, A.stage? n = some (.awaitReply call q g) ∧ s' = .publishing := by
  constructor
  · intro ho
    have hfate := hm.fate n
    rw [hs'] at hfate
    cases hfate with
    | kept h => exact .inl ⟨s', h, ho⟩
    | called | cleared | selected | asked | posed | loads => cases ho
    | concluded hc hn h => exact .inl ⟨_, hn ▸ hO.publishing _ hc, rfl⟩
    | attends _ h => rcases h with rfl | ⟨_, rfl⟩ <;> cases ho
    | saves h h' =>
      rcases h' with h' | h' <;> cases h'
      exact .inl ⟨_, h, ho⟩
    | replied h h' =>
      rcases h' with h' | h' <;> cases h'
      exact .inr ⟨_, _, _, h, rfl⟩
    | arrived h h' =>
      rcases h' with h' | h' <;> cases h'
      exact absurd (Option.some.inj ho) (App.loadOutcome_ne_delivered _ _ _)
  · rintro (⟨s, hs, ho⟩ | ⟨_, _, _, -, rfl⟩)
    · exact hm.outcome?_kept hO hs ho hs'
    · rfl

end Change

namespace App

variable {a₀ a b c : App} {n : Nat} {s : Stage} {o : Outcome} {ws vs : Errands} {x : Happening}
  {d d' : App × Errands} {ms later : Course} {m : Moment}

/-! ### One turn -/

theorem stage?_congr (h : b.tasks = a.tasks) (n : Nat) : b.stage? n = a.stage? n := by
  rw [stage?, stage?, task?, task?, h]

theorem tasks_notes (a : App) (xs : List Note) : (a.notes xs).tasks = a.tasks :=
  congrArg Affairs.tasks (a.affairs_notes [] xs)

/-- A task that comes to another stage is still there, and so is every other. -/
theorem isSome_stage?_setStage (hn : (a.stage? n).isSome) (k : Nat) (s : Stage) :
    ((a.setStage k s).stage? n).isSome := by
  rw [← stage?_affairs (a.setStage k s) [], affairs_setStage, Affairs.stage?_put, stage?_affairs]
  split
  · rw [Option.isSome_map]
    exact hn
  · exact hn

/-- A task that ends leaves every other where it is. -/
theorem stage?_endTask (a : App) (n k : Nat) (o : Outcome) :
    (a.endTask k o).stage? n = if n = k then none else a.stage? n := by
  rw [← stage?_affairs (a.endTask k o) [], affairs_endTask, Affairs.stage?_drop]
  rfl

/-- What may be left of the tasks of an app: all of them are still there, or one has ended with what
it could end with. -/
inductive Retires (a : App) : App → Prop
  | kept {b : App} (h : ∀ n, (a.stage? n).isSome → (b.stage? n).isSome) : Retires a b
  | ended {c : App} {n : Nat} {s : Stage} {o : Outcome} (hc : c.tasks = a.tasks)
      (hs : a.stage? n = some s) (ho : s.CanEnd o) : Retires a (c.endTask n o)

namespace Retires

theorem refl (a : App) : Retires a a := .kept fun _ h => h

/-- A task comes to another stage. -/
theorem of_setStage {k : Nat} {s : Stage} (hb : b.tasks = (a.setStage k s).tasks) :
    Retires a b := by
  refine .kept fun n hn => ?_
  rw [stage?_congr hb]
  exact isSome_stage?_setStage hn k s

theorem addTask (a : App) (s : Stage) : Retires a (a.addTask s) := by
  refine .kept fun n hn => ?_
  obtain ⟨s', hs'⟩ := Option.isSome_iff_exists.mp hn
  have hadd : (a.addTask s).stage? n = _ := Affairs.stage?_add (a.affairs []) n s
  rw [hadd, stage?_affairs, hs', Option.some_or]
  rfl

end Retires

theorem retires_advance (a : App) (k : Nat) : Retires a (a.advance k) := by
  cases hs : a.stage? k with
  | none =>
    simp only [advance, hs]
    exact .refl a
  | some s =>
    cases s with
    | start operation =>
      cases operation with
      | send text =>
        obtain ⟨-, h⟩ | ⟨-, x, supply, -, -, h⟩ := advance_send hs
        · exact h ▸ .ended rfl hs rfl
        · rw [h]
          exact .of_setStage rfl
      | retry =>
        obtain ⟨-, h⟩ | ⟨-, x, -, -, h⟩ := advance_retry hs
        · exact h ▸ .ended rfl hs rfl
        · rw [h]
          exact .of_setStage rfl
      | load | restore | list =>
        simp only [advance, hs]
        exact .of_setStage rfl
    | startLoad | posing =>
      simp only [advance, hs]
      exact .of_setStage rfl
    | wantSave g session o =>
      simp only [advance, hs, startSave]
      split
      · exact .refl a
      · split
        · exact .ended rfl hs rfl
        · exact .of_setStage rfl
    | _ =>
      simp only [advance, hs]
      exact .refl a

theorem retires_takeAnswer (a : App) (k : Nat) (r : Answer) : Retires a (a.takeAnswer k r).1 := by
  unfold takeAnswer
  split
  · rename_i call q g r hs
    have henter : (a.takeReply k g r).1 = (a.enter (.answer k (.reply r))).1 := by
      simp only [enter, takeAnswer, hs]
    obtain ⟨-, h⟩ | ⟨-, banner, x, supply, h⟩ | ⟨-, _, _, _, _, -, -, -, -, h⟩ := enter_reply hs r
    · rw [henter, h]
      exact .ended rfl hs (.inl rfl)
    · rw [henter, h]
      exact .ended rfl hs (.inr ⟨_, rfl⟩)
    · rw [henter, h]
      exact .of_setStage rfl
  · rename_i call id g errand r hs
    have henter : a.takeEntries k id g errand r = (a.enter (.answer k (.entries r))).1 := by
      simp only [enter, takeAnswer, hs]
    obtain ⟨-, h⟩ | ⟨-, f, xs, -, h⟩ | ⟨-, _, _, -, h⟩ := enter_entries hs r
    · rw [henter, h]
      exact .ended rfl hs ⟨_, rfl⟩
    · rw [henter, h]
      exact .ended (tasks_notes _ _) hs ⟨_, rfl⟩
    · rw [henter, h]
      exact .of_setStage rfl
  · rename_i hs
    exact .ended rfl hs ⟨_, rfl⟩
  · exact .refl a

theorem retires_enter (a : App) (t : Turn) : Retires a (a.enter t).1 := by
  cases t with
  | call operation => exact .addTask a _
  | publish | tell | jot => exact .kept fun _ h => h
  | advance k => exact retires_advance a k
  | answer k r => exact retires_takeAnswer a k r
  | giveSession k r =>
    simp only [enter, giveSession]
    split
    · rename_i hs
      split
      · exact .ended rfl hs rfl
      · exact .ended rfl hs rfl
      · exact .of_setStage rfl
    · exact .refl a
  | giveSaved k r =>
    simp only [enter, giveSaved]
    split
    · rename_i g session o hs
      cases r <;> exact .ended rfl hs rfl
    · exact .refl a

/-! ### One moment -/

/-- What is done without a task moves none, unless it concludes a reply. -/
theorem stage?_doing {w : Work Listener Act} (hw : closing? w = none)
    (hs : a.stage? n = some s) : (a.doing w).1.stage? n = some s := by
  have hdoing := congrArg (Affairs.stage? · n) (a.affairs_doing [] hw)
  refine hdoing.trans ?_
  dsimp only
  split
  · exact Affairs.stage?_spawn_of_some (A := { a.affairs [] with pipeline := a.pipeline.reset }) hs
  · split
    · exact hs
    · split
      · exact hs
      · split
        · exact Affairs.stage?_spawn_of_some (A := a.affairs []) hs
        · exact hs

/-- **A task that is gone has ended**, with what it could end with at its stage. -/
theorem Happens.ends (hx : Happens x (a, ws) (b, vs)) (hO : (a.affairs ws).Orderly)
    (hs : a.stage? n = some s) (hgone : b.stage? n = none) :
    ∃ o, Moment.Ends ⟨a, x, b⟩ n o ∧ s.CanEnd o := by
  have hfound : (a.stage? n).isSome := hs ▸ rfl
  cases hx with
  | turn t =>
    have hretires := retires_enter a t
    generalize (a.enter t).1 = b at hretires hgone ⊢
    cases hretires with
    | kept h =>
      have hstill := h n hfound
      rw [hgone] at hstill
      cases hstill
    | @ended c k s' o hc hs' ho =>
      by_cases hnk : n = k
      · subst hnk
        cases hs.symm.trans hs'
        exact ⟨o, ⟨hfound, hgone, rfl⟩, ho⟩
      · rw [stage?_endTask, if_neg hnk, stage?_congr hc, hs] at hgone
        cases hgone
  | @errand _ us vs w =>
    cases hw : closing? w with
    | none => cases (stage?_doing hw hs).symm.trans hgone
    | some y =>
      obtain ⟨k, g, adopted⟩ := y
      obtain rfl := closing?_eq_some.mp hw
      have hk : a.stage? k = some .publishing :=
        hO.publishing (k, g, adopted)
          (List.mem_filterMap.mpr ⟨.act (.conclude k g adopted), by simp, rfl⟩)
      cases adopted with
      | some id =>
        have hstill := isSome_stage?_setStage hfound k (.wantSave g ⟨some id⟩ (.sent .delivered))
        have hconcludes : (a.doing (.act (.conclude k g (some id)))).1.stage? n =
            (a.setStage k (.wantSave g ⟨some id⟩ (.sent .delivered))).stage? n := rfl
        rw [← hconcludes, hgone] at hstill
        cases hstill
      | none =>
        have hconcludes : (a.doing (.act (.conclude k g none))).1 =
            a.endTask k (.sent .delivered) := rfl
        rw [hconcludes] at hgone ⊢
        by_cases hnk : n = k
        · subst hnk
          cases hs.symm.trans hk
          exact ⟨_, ⟨hfound, hgone, rfl⟩, rfl⟩
        · rw [stage?_endTask, if_neg hnk, hs] at hgone
          cases hgone

/-! ### Courses -/

/-- **A task that is gone has ended at some moment**, and with what was settled, if it was. -/
theorem Leads.exists_ends (hfresh : a₀.IsFresh) (hc : Leads (a₀, []) ms d)
    (hlater : Leads d later d') (hs : d.1.stage? n = some s) (hgone : d'.1.stage? n = none) :
    ∃ m ∈ later, ∃ o s', m.Ends n o ∧ m.before.stage? n = some s' ∧ s'.CanEnd o ∧
      ∀ o', s.outcome? = some o' → o = o' := by
  -- by induction on the course, along which the task is found with the same outcome settled
  suffices h : (∃ s', d'.1.stage? n = some s' ∧
      ∀ o', s.outcome? = some o' → s'.outcome? = some o') ∨
      ∃ m ∈ later, ∃ o s', m.Ends n o ∧ m.before.stage? n = some s' ∧ s'.CanEnd o ∧
        ∀ o', s.outcome? = some o' → o = o' by
    rcases h with ⟨s', hs', -⟩ | h
    · cases hs'.symm.trans hgone
    · exact h
  clear hgone
  induction hlater with
  | start => exact .inl ⟨s, hs, fun _ h => h⟩
  | @step later a b ws vs x hl hx ih =>
    have hO : (a.affairs ws).Orderly := (hc.append hl).orderly hfresh
    rcases ih with ⟨s', hs', hkept⟩ | ⟨m, hm, h⟩
    · cases hb : b.stage? n with
      | some s'' =>
        exact .inl ⟨s'', rfl, fun o' ho' => hx.change.outcome?_kept hO hs' (hkept o' ho') hb⟩
      | none =>
        obtain ⟨o, hends, hcan⟩ := hx.ends hO hs' hb
        exact .inr ⟨_, List.mem_cons_self, o, s', hends, hs', hcan,
          fun o' ho' => hcan.eq_of_outcome? (hkept o' ho')⟩
    · exact .inr ⟨m, List.mem_cons_of_mem _ hm, h⟩

/-- **A delivery is settled when the reply is taken in**, and at no other moment. -/
theorem Leads.delivered_iff (hfresh : a₀.IsFresh) (hc : Leads (a₀, []) ms d)
    (hs : d.1.stage? n = some s) : s.outcome? = some (.sent .delivered) ↔
      ∃ m ∈ ms, ∃ q, m.replied? = some (n, q) := by
  induction hc generalizing s with
  | start =>
    have hnone := Affairs.stage?_of_tasks_eq_nil (A := a₀.affairs []) hfresh.tasks n
    cases hnone.symm.trans hs
  | @step ms a b ws vs x hc hx ih =>
    have hO : (a.affairs ws).Orderly := hc.orderly hfresh
    rw [hx.change.delivered_iff hO hs, List.exists_mem_cons_iff, or_comm]
    refine or_congr ?_ ?_
    · constructor
      · rintro ⟨call, q, g, hwaits, rfl⟩
        have hwaits : a.stage? n = some (.awaitReply call q g) := hwaits
        obtain ⟨r, rfl, -⟩ := hx.answered_reply hO hwaits (hs ▸ nofun)
        exact ⟨q, Moment.replied?_eq_some.mpr ⟨call, g, Moment.passage?_turn rfl hwaits hs⟩⟩
      · rintro ⟨q, hreplied⟩
        obtain ⟨call, g, hpassage⟩ := Moment.replied?_eq_some.mp hreplied
        obtain ⟨-, hwaits, hs'⟩ := Moment.passage?_eq_some.mp hpassage
        cases hs.symm.trans hs'
        exact ⟨call, q, g, hwaits, rfl⟩
    · constructor
      · rintro ⟨s₀, hs₀, ho⟩
        exact (ih hs₀).mp ho
      · rintro ⟨m, hm, q, hreplied⟩
        -- a task that has taken in a reply has its name, so it is still the same task
        cases ha : a.stage? n with
        | some s₀ => exact ⟨s₀, ha, (ih ha).mpr ⟨m, hm, q, hreplied⟩⟩
        | none =>
          obtain ⟨call, g, hpassage⟩ := Moment.replied?_eq_some.mp hreplied
          obtain ⟨-, hwaits, -⟩ := Moment.passage?_eq_some.mp hpassage
          obtain ⟨_, _, _, _, -, hbefore, hy, hafter⟩ := hc.exists_of_mem hm
          have hlt := lt_nextTask (hbefore.orderly hfresh) hwaits
          have hlt := Nat.lt_of_lt_of_le hlt ((Leads.start.step hy).append hafter).nextTask_le
          cases hs.symm.trans (hx.change.stage?_eq_none hlt ha)

/-- **A task ends with a delivery exactly if it has taken in a reply.** -/
theorem Leads.ends_delivered_iff (hfresh : a₀.IsFresh) (hc : Leads (a₀, []) ms d) (hm : m ∈ ms)
    (hends : m.Ends n o) : o = .sent .delivered ↔ ∃ m ∈ ms, ∃ q, m.replied? = some (n, q) := by
  obtain ⟨later, earlier, ws, vs, rfl, hbefore, hx, hafter⟩ := hc.exists_of_mem hm
  obtain ⟨s, hs⟩ := Option.isSome_iff_exists.mp hends.found
  have hO := hbefore.orderly hfresh
  obtain ⟨o', hends', hcan⟩ := hx.ends hO hs hends.gone
  obtain rfl : o' = o := by
    have h := hends'.told.symm.trans hends.told
    cases h
    rfl
  have hdelivered := hbefore.delivered_iff hfresh hs
  constructor
  · intro ho
    obtain ⟨m', hm', hreplied⟩ := hdelivered.mp (by_contra fun h => hcan.ne_delivered h ho)
    exact ⟨m', List.mem_append_right _ (List.mem_cons_of_mem _ hm'), hreplied⟩
  · rintro ⟨m', hm', q, hreplied⟩
    obtain ⟨call, g, hpassage⟩ := Moment.replied?_eq_some.mp hreplied
    obtain ⟨-, hwaits, hpublishing⟩ := Moment.passage?_eq_some.mp hpassage
    rcases List.mem_append.mp hm' with hm' | hm'
    · -- it would have come back
      obtain ⟨_, _, _, _, -, hbetween, -, -⟩ := hafter.exists_of_mem hm'
      have hlt := Nat.lt_of_lt_of_le (lt_nextTask hO hs) hx.change.nextTask_le
      have hle := ((hbefore.step hx).progress_le hfresh hbetween hlt).2
      rw [hends.gone, hwaits] at hle
      exact absurd hle (by simp [Stage.progress])
    · rcases List.mem_cons.mp hm' with rfl | hm'
      · cases hpublishing.symm.trans hends.gone
      · exact hcan.eq_of_outcome? (hdelivered.mpr ⟨m', hm', q, hreplied⟩)

end App

end Parley
