import Mathlib.Logic.Relation
import Parley.Proofs.App.Alike
import Parley.Proofs.App.Progress
import Parley.Proofs.Chat.Exchange

/-!
# Stale results leave no trace

A question or a load is *overtaken* if, while its task waits for the server, everything starts
anew, another conversation starts to load, or the conversation is unmounted
(`Parley.Pipeline.Overtakes`). Its result is then of no account, and that is a statement about
pairs of runs: whatever the result is and whenever it comes, nobody can tell from anything that
happens later (`Parley.App.Reached.overtaken`).

The argument has two halves. What is overtaken stays stale, because generations only grow and an
unmounted conversation is never mounted again (`Parley.App.isStale_of_steps`); so its result does
nothing but end its task, under a note. And a task that ends with nothing but a note is not missed
(`Parley.App.Alike.run`).
-/

namespace Parley

/-! ### Waiting for the server -/

namespace Stage

/-- The generation of the question or the load whose result a task waits for. -/
def awaited? : Stage → Option Nat
  | .awaitReply _ _ g | .awaitEntries _ _ g _ => some g
  | _ => none

/-- A result is one of those that can come of what a task waits for. -/
def Takes : Stage → Answer → Prop
  | .awaitReply _ _ _, .reply _ | .awaitEntries _ _ _ _, .entries _ => True
  | _, _ => False

/-- What is noted of a stale result. -/
def staleNote : Stage → Note
  | .awaitEntries _ id _ _ => ⟨.debug, "Discarding stale history for " ++ Pipeline.numberText id⟩
  | _ => ⟨.debug, "Discarding stale reply"⟩

/-- What comes of a question or a load whose result is stale: nothing of a question, and a load
went well. -/
def staleOutcome : Stage → Outcome
  | .awaitEntries _ id _ errand => App.loadOutcome id (.ok ()) errand
  | _ => .sent .discarded

end Stage

/-- What overtakes the exchange under way. -/
inductive Pipeline.Overtakes (p : Pipeline) : Pipeline → Prop
  | reset : Overtakes p p.reset
  | startLoad : Overtakes p p.startLoad
  | unmount : Overtakes p p.unmount

namespace Pipeline

variable {p p' : Pipeline} {g : Nat}

theorem isStale_eq_true : p.isStale g = true ↔ p.alive = false ∨ p.generation ≠ g := by
  simp [isStale]

/-- **What is overtaken is stale.** -/
theorem Overtakes.isStale (h : p.Overtakes p') (hg : g ≤ p.generation) : p'.isStale g = true := by
  rw [isStale_eq_true]
  cases h with
  | reset => exact .inr (Nat.ne_of_gt (Nat.lt_succ_of_le hg))
  | startLoad => exact .inr (Nat.ne_of_gt (Nat.lt_succ_of_le hg))
  | unmount => exact .inl rfl

theorem Overtakes.generation_le (h : p.Overtakes p') : p.generation ≤ p'.generation := by
  cases h with
  | reset => exact Nat.le_succ _
  | startLoad => exact Nat.le_succ _
  | unmount => exact Nat.le_refl _

end Pipeline

/-! ### Changes and generations -/

/-- Generations only grow, and nothing is mounted again. -/
theorem Change.generation_le {l : Option Turn} {A B : Affairs} (hm : Change l A B) :
    A.pipeline.generation ≤ B.pipeline.generation ∧
      (A.pipeline.alive = false → B.pipeline.alive = false) := by
  cases hm with
  | reset =>
    rw [Affairs.pipeline_spawn]
    exact ⟨Nat.le_succ _, id⟩
  | select id =>
    rw [Affairs.pipeline_spawn]
    exact ⟨Nat.le_refl _, fun h => h⟩
  | unmount => exact ⟨Nat.le_refl _, fun _ => rfl⟩
  | pose call hstage =>
    dsimp only [Affairs.put, Pipeline.pose]
    split <;> exact ⟨Nat.le_refl _, id⟩
  | load => exact ⟨Nat.le_succ _, id⟩
  | _ => exact ⟨Nat.le_refl _, fun h => h⟩

/-- **What is stale stays stale.** -/
theorem Change.isStale {l : Option Turn} {A B : Affairs} {g : Nat} (hm : Change l A B)
    (hg : g ≤ A.pipeline.generation) (hstale : A.pipeline.isStale g = true) :
    B.pipeline.isStale g = true := by
  obtain ⟨hle, halive⟩ := hm.generation_le
  rw [Pipeline.isStale_eq_true] at hstale ⊢
  rcases hstale with h | h
  · exact .inl (halive h)
  · exact .inr (by omega)

/-- Tasks that wait for the server, and tasks that are gone, are left alone by whatever is not an
answer for them. -/
theorem Change.stage?_eq {l : Option Turn} {A B : Affairs} {n : Nat} (hm : Change l A B)
    (hO : A.Orderly) (hn : n < A.nextTask)
    (hwait : ∀ s, A.stage? n = some s → s.awaited?.isSome) (hl : ∀ r, l ≠ some (.answer n r)) :
    B.stage? n = A.stage? n := by
  -- a task that is at another stage is another task
  have hne : ∀ {m s}, A.stage? m = some s → s.awaited? = none → n ≠ m := by
    rintro m s hs hnone rfl
    have := hwait s hs
    rw [hnone] at this
    cases this
  cases hm with
  | quiet | dismiss | unmount => rfl
  | reset => exact Affairs.stage?_spawn_of_lt hn
  | select id => exact Affairs.stage?_spawn_of_lt hn
  | call o => exact Affairs.stage?_add_of_lt hn
  | adopt hclosing =>
    exact Affairs.stage?_put_of_ne (hne (hO.conclude hclosing).1 rfl)
  | close hclosing =>
    exact Affairs.stage?_drop_of_ne (hne (hO.conclude hclosing).1 rfl)
  | ask hstage => exact Affairs.stage?_put_of_ne (hne hstage rfl)
  | pose call hstage => exact Affairs.stage?_put_of_ne (hne hstage rfl)
  | load call ht hstage hs =>
    refine Affairs.stage?_put_of_ne (hne hstage ?_)
    rcases hs with ⟨rfl, -⟩ | rfl | ⟨rfl, -⟩ <;> rfl
  | attend hstage => exact Affairs.stage?_put_of_ne (hne hstage rfl)
  | leave o hstage hs =>
    refine Affairs.stage?_drop_of_ne (hne hstage ?_)
    rcases hs with rfl | ⟨call, rfl⟩ | ⟨o, rfl⟩ <;> rfl
  | save hstage => exact Affairs.stage?_put_of_ne (hne hstage rfl)
  | skip hstage => exact Affairs.stage?_drop_of_ne (hne hstage rfl)
  | saved r hstage => exact Affairs.stage?_drop_of_ne (hne hstage rfl)
  | staleReply | failedReply | staleEntries | failedEntries =>
    refine Affairs.stage?_drop_of_ne ?_
    rintro rfl
    exact hl _ rfl
  | delivered | loaded =>
    -- whoever gets an answer is another task as well
    refine Affairs.stage?_put_of_ne ?_
    rintro rfl
    exact hl _ rfl

namespace App

variable {a₀ a b : App} {h : History} {c c' : App × Errands} {n g : Nat} {d : Note} {s : Stage}

/-! ### A task that waits, or is gone -/

/-- A task waits for the server, or it is gone. -/
structure Rests (n : Nat) (A : Affairs) : Prop where
  orderly : A.Orderly
  lt : n < A.nextTask
  awaited : ∀ s, A.stage? n = some s → s.awaited?.isSome

theorem Rests.change {l : Option Turn} {A B : Affairs} (hA : Rests n A) (hm : Change l A B)
    (hl : ∀ r, l ≠ some (.answer n r)) : Rests n B where
  orderly := hm.orderly hA.orderly
  lt := Nat.lt_of_lt_of_le hA.lt hm.nextTask_le
  awaited := by
    rw [hm.stage?_eq hA.orderly hA.lt hA.awaited hl]
    exact hA.awaited

/-- What is not an answer for the task leaves it where it is. -/
theorem Rests.turn (ha : Rests n (a.affairs [])) {t : Turn} (ht : ∀ r, t ≠ .answer n r) :
    Rests n ((a.turn t).affairs []) ∧ (a.turn t).stage? n = a.stage? n := by
  have hchanges : ∀ {l A B}, Rests n A ∧ A.stage? n = a.stage? n → Change l A B →
      (∀ r, l ≠ some (.answer n r)) → Rests n B ∧ B.stage? n = a.stage? n :=
    fun hA hm hl => ⟨hA.1.change hm hl,
      (hm.stage?_eq hA.1.orderly hA.1.lt hA.1.awaited hl).trans hA.2⟩
  have henter := hchanges ⟨ha, rfl⟩ (a.change_enter [] t) fun r hr => ht r (Option.some.inj hr)
  rw [List.append_nil] at henter
  refine settle_induction
    (P := fun c => Rests n (c.1.affairs c.2) ∧ (c.1.affairs c.2).stage? n = a.stage? n)
    (fun b w ws hb => ?_) henter
  exact hchanges hb (b.change_doing [] ws w) nofun

theorem Rests.run (ha : Rests n (a.affairs [])) {ts : List Turn}
    (hts : ∀ t ∈ ts, ∀ r, t ≠ .answer n r) :
    Rests n ((a.run ts).affairs []) ∧ (a.run ts).stage? n = a.stage? n := by
  induction ts generalizing a with
  | nil => exact ⟨ha, rfl⟩
  | cons t ts ih =>
    obtain ⟨hturn, hstage⟩ := ha.turn (hts t List.mem_cons_self)
    obtain ⟨hrun, hstage'⟩ := ih hturn fun u hu => hts u (List.mem_cons_of_mem _ hu)
    exact ⟨hrun, hstage'.trans hstage⟩

/-- Nothing but an answer happens to a task that waits, and nothing to one that is gone. -/
theorem Rests.turn_eq (ha : Rests n (a.affairs [])) {t : Turn} (htask : t.task? = some n)
    (ht : ∀ r, t ≠ .answer n r) : a.turn t = a := by
  have hrests : ∀ {s}, a.stage? n = some s → s.awaited?.isSome := fun {s} => ha.awaited s
  refine turn_of_enter ?_
  cases t with
  | call | publish | tell | jot => cases htask
  | answer m r =>
    obtain rfl : m = n := Option.some.inj htask
    exact absurd rfl (ht r)
  | advance m =>
    obtain rfl : m = n := Option.some.inj htask
    refine Prod.ext ?_ rfl
    dsimp only [enter, advance]
    split
    case h_5 => rfl
    all_goals
      rename_i hstage
      cases hrests hstage
  | giveSession m r =>
    obtain rfl : m = n := Option.some.inj htask
    refine Prod.ext ?_ rfl
    dsimp only [enter, giveSession]
    split
    · rename_i hstage
      cases hrests hstage
    · rfl
  | giveSaved m r =>
    obtain rfl : m = n := Option.some.inj htask
    refine Prod.ext ?_ rfl
    dsimp only [enter, giveSaved]
    split
    · rename_i hstage
      cases hrests hstage
    · rfl

/-- **A task that is gone is not missed.** What happens to two apps that are alike but for a task
leaves them alike, if it is not the answer for that task. -/
theorem Alike.run (h : Alike n d a b) (ha : Rests n (a.affairs [])) (hb : Rests n (b.affairs []))
    {ts : List Turn} (hts : ∀ t ∈ ts, ∀ r, t ≠ .answer n r) : Alike n d (a.run ts) (b.run ts) := by
  induction ts generalizing a b with
  | nil => exact h
  | cons t ts ih =>
    have ht := hts t List.mem_cons_self
    have hnext : Alike n d (a.turn t) (b.turn t) := by
      by_cases htask : t.task? = some n
      · rw [ha.turn_eq htask ht, hb.turn_eq htask ht]
        exact h
      · exact h.turn t htask
    exact ih hnext (ha.turn ht).1 (hb.turn ht).1 fun u hu => hts u (List.mem_cons_of_mem _ hu)

/-! ### What is overtaken -/

/-- Any number of steps. -/
abbrev Steps : App × Errands → App × Errands → Prop :=
  Relation.ReflTransGen fun c c' => ∃ l, Step l c c'

theorem Reached.steps (hr : Reached a₀ h c) (hs : Steps c c') : ∃ h', Reached a₀ h' c' := by
  induction hs with
  | refl => exact ⟨h, hr⟩
  | @tail c' c'' _ hstep ih =>
    obtain ⟨a, ws⟩ := c'
    obtain ⟨h', hr'⟩ := ih
    obtain ⟨l, hstep⟩ := hstep
    cases l with
    | some t => exact ⟨_, hr'.turn hstep⟩
    | none => exact ⟨h', hr'.errand hstep⟩

/-- **Whatever happens later, what is stale stays stale.** -/
theorem isStale_of_steps (hs : Steps c c') (hg : g ≤ c.1.pipeline.generation)
    (hstale : c.1.pipeline.isStale g = true) : c'.1.pipeline.isStale g = true := by
  suffices h : g ≤ c'.1.pipeline.generation ∧ c'.1.pipeline.isStale g = true from h.2
  induction hs with
  | refl => exact ⟨hg, hstale⟩
  | tail _ hstep ih =>
    obtain ⟨l, hstep⟩ := hstep
    exact ⟨Nat.le_trans ih.1 hstep.change.generation_le.1, hstep.change.isStale ih.1 ih.2⟩

theorem steps_run (a : App) (ts : List Turn) : Steps (a, []) (a.run ts, []) := by
  induction ts generalizing a with
  | nil => exact .refl
  | cons t ts ih =>
    refine Relation.ReflTransGen.trans ?_ (ih (a.turn t))
    refine settle_induction (P := Steps (a, [])) (fun b w ws hb => hb.tail ⟨none, ?_⟩) ?_
    · have hstep : Step none (b, [] ++ w :: ws) _ := .errand w
      exact hstep
    · have hstep : Step (some t) (a, []) ((a.enter t).1, (a.enter t).2 ++ []) := .turn t
      rw [List.append_nil] at hstep
      exact .single ⟨some t, hstep⟩

/-- A stale result ends its task, and nothing else comes of it. -/
theorem turn_answer_of_isStale (hs : a.stage? n = some s) (hg : s.awaited? = some g)
    (hstale : a.pipeline.isStale g = true) {r : Answer} (hr : s.Takes r) :
    a.turn (.answer n r) = (a.note s.staleNote).endTask n s.staleOutcome := by
  refine turn_of_enter ?_
  cases s with
  | awaitReply call q g' =>
    obtain rfl : g' = g := Option.some.inj hg
    cases r with
    | reply r =>
      simp only [enter, takeAnswer, hs, takeReply, Pipeline.receive, hstale, if_true]
      rfl
    | _ => exact hr.elim
  | awaitEntries call id g' errand =>
    obtain rfl : g' = g := Option.some.inj hg
    cases r with
    | entries r =>
      simp only [enter, takeAnswer, hs, takeEntries, Pipeline.receiveEntries, hstale, if_true]
      rfl
    | _ => exact hr.elim
  | _ => cases hg

/-- **What is overtaken stays stale**, in every app in which its task still waits. -/
theorem Reached.isStale_of_overtaken (hfresh : a₀.IsFresh) (hr : Reached a₀ h c)
    (hs : c.1.stage? n = some s) (hg : s.awaited? = some g) {l : Option Turn} (hstep : Step l c c')
    (hover : c.1.pipeline.Overtakes c'.1.pipeline) (hlater : Steps c' (a, []))
    (hs' : a.stage? n = some s) :
    Rests n (a.affairs []) ∧ ∀ us, Steps (a, []) (a.run us, []) →
      (a.run us).pipeline.isStale g = true := by
  have hle : g ≤ c.1.pipeline.generation := by
    refine (hr.sound hfresh).le n g ?_
    rw [Affairs.see, stage?_affairs, hs]
    cases s <;> first | exact hg | cases hg
  obtain ⟨h', hr'⟩ := hr.steps (Relation.ReflTransGen.head ⟨l, hstep⟩ hlater)
  have hO := hr'.orderly hfresh
  obtain ⟨t, ht, hname, -⟩ := Affairs.exists_of_stage? (A := a.affairs []) hs'
  refine ⟨⟨hO, hname ▸ hO.named.lt t ht, fun s' hs'' => ?_⟩, fun us hus => ?_⟩
  · rw [← Option.some.inj (hs'.symm.trans hs''), hg]
    rfl
  · exact isStale_of_steps (hlater.trans hus)
      (Nat.le_trans hle hover.generation_le) (hover.isStale hle)

/-- **Stale results leave no trace.** A task waits for the server; its question or load is
overtaken, and some time later it still waits. Then, whatever happens to the app from there on
(`us`, before the result comes; and after it `vs`):

* every result there can be leaves the same app;
* with the result come, the app is at every later point the app in which it has not come, but for
  the task; and so it is with another result that comes at any later point, from then on;
* what the task comes to is that a question was given up, or that a load went well. -/
theorem Reached.overtaken (hfresh : a₀.IsFresh) (hr : Reached a₀ h c) (hs : c.1.stage? n = some s)
    (hg : s.awaited? = some g) {l : Option Turn} (hstep : Step l c c')
    (hover : c.1.pipeline.Overtakes c'.1.pipeline) (hlater : Steps c' (a, []))
    (hs' : a.stage? n = some s) {us : List Turn} (hus : ∀ t ∈ us, ∀ r, t ≠ .answer n r)
    {r : Answer} (htakes : s.Takes r) :
    (∀ r', s.Takes r' → (a.run us).turn (.answer n r') = (a.run us).turn (.answer n r)) ∧
      (∀ vs, (∀ t ∈ vs, ∀ r, t ≠ .answer n r) →
        (((a.run us).turn (.answer n r)).run vs).without n s.staleNote =
            (a.run (us ++ vs)).without n s.staleNote ∧
          ∀ r' ws, s.Takes r' → (∀ t ∈ ws, ∀ r, t ≠ .answer n r) →
            (((a.run us).turn (.answer n r)).run (vs ++ ws)).without n s.staleNote =
              (((a.run (us ++ vs)).turn (.answer n r')).run ws).without n s.staleNote) ∧
      .ended n s.staleOutcome ∈ ((a.run us).turn (.answer n r)).trace := by
  obtain ⟨hrests, hstale⟩ := hr.isStale_of_overtaken hfresh hs hg hstep hover hlater hs'
  have hends : ∀ us r, (∀ t ∈ us, ∀ r, t ≠ .answer n r) → s.Takes r →
      (a.run us).turn (.answer n r) = ((a.run us).note s.staleNote).endTask n s.staleOutcome := by
    intro us r hus htakes
    exact turn_answer_of_isStale ((hrests.run hus).2.trans hs') hg (hstale us (steps_run a us))
      htakes
  -- the app in which the result came, against the one in which it is still waited for
  have hmissed : ∀ us vs r, (∀ t ∈ us, ∀ r, t ≠ .answer n r) → (∀ t ∈ vs, ∀ r, t ≠ .answer n r) →
      s.Takes r → (((a.run us).turn (.answer n r)).run vs).without n s.staleNote =
        (a.run (us ++ vs)).without n s.staleNote := by
    intro us vs r hus hvs htakes
    have hwaits := (hrests.run hus).1
    have hgone : Rests n ((((a.run us).note s.staleNote).endTask n s.staleOutcome).affairs []) := by
      rw [affairs_endTask, affairs_note]
      refine ⟨hwaits.orderly.drop ((hrests.run hus).2.trans hs') ?_ _, hwaits.lt, fun s' h => ?_⟩
      · rintro rfl
        cases hg
      · rw [Affairs.stage?_drop_self] at h
        cases h
    rw [hends us r hus htakes, run_append]
    exact (alike_iff.mp ((Alike.of_endTask _ n _ _).run hwaits hgone hvs)).symm
  refine ⟨fun r' hr' => ?_, fun vs hvs => ⟨hmissed us vs r hus hvs htakes, fun r' ws hr' hws => ?_⟩,
    ?_⟩
  · rw [hends us r' hus hr', hends us r hus htakes]
  · have hboth : ∀ (ts us : List Turn), (∀ t ∈ ts, ∀ r, t ≠ .answer n r) →
        (∀ t ∈ us, ∀ r, t ≠ .answer n r) → ∀ t ∈ ts ++ us, ∀ r, t ≠ .answer n r :=
      fun ts us hts hus t ht => (List.mem_append.mp ht).elim (hts t) (hus t)
    rw [hmissed us (vs ++ ws) r hus (hboth vs ws hvs hws) htakes,
      hmissed (us ++ vs) ws r' (hboth us vs hus hvs) hws hr', List.append_assoc]
  · rw [hends us r hus htakes]
    exact List.mem_cons_self

/-- A load that is overtaken by another: it may fail before the other arrives or succeed after it,
and it is the same. -/
theorem overtaken_of_second_load :
    let a := (blank.run [.call (.load 1), .advance 0, .call (.load 2)]).advance 1
    let late := a.turn (.answer 1 (.entries (.ok [])))
    ((a.turn (.answer 0 (.entries (.error (.network "down"))))).run
          [.answer 1 (.entries (.ok []))]).without 0 (Stage.awaitEntries 0 1 1 .load).staleNote =
        (late.turn (.answer 0 (.entries (.ok [])))).without 0
          (Stage.awaitEntries 0 1 1 .load).staleNote ∧
      .ended 0 (.loaded (.ok ())) ∈
        (a.turn (.answer 0 (.entries (.error (.network "down"))))).trace := by
  intro a late
  have hother : ∀ t ∈ [Turn.answer 1 (.entries (.ok []))], ∀ r, t ≠ .answer 0 r := by
    intro t ht r
    obtain rfl := List.mem_singleton.mp ht
    exact nofun
  have hnone : ∀ t ∈ ([] : List Turn), ∀ r, t ≠ .answer 0 r := List.forall_mem_nil _
  obtain ⟨-, hmissed, hended⟩ := Reached.overtaken (a := a) (s := .awaitEntries 0 1 1 .load)
    isFresh_blank (reached_run blank [.call (.load 1), .advance 0, .call (.load 2)]) rfl rfl
    (.turn (.advance 1)) .startLoad .refl rfl hnone (r := .entries (.error (.network "down")))
    trivial
  exact ⟨(hmissed _ hother).2 (.entries (.ok [])) [] trivial hnone, hended⟩

end App

end Parley
