import Parley.Proofs.App.Afresh
import Parley.Proofs.Chat.Ending

/-!
# What is settled comes to its end

Once it is settled what comes of a task, nothing of what is left for it depends on the server: a
reply is published, and a session is saved. Neither can get stuck. A reply that is being published is
still on the list of things to do (`Parley.App.Leads.exists_conclude`), and the list is always got
through. And if another session is in the way of the task's own, then the task that saves it is
known, and waits for nothing but to be told that it is done.

So, wherever a course has led, it can be gone on with such that the task ends
(`Parley.App.Leads.exists_finish`).
-/

namespace Parley

variable {A B : Affairs} {l : Option Turn} {n : Nat}

namespace Affairs

/-- What is published is still to be concluded. -/
def Concludes (A : Affairs) (n : Nat) : Prop :=
  A.stage? n = some .publishing → ∃ c ∈ A.closing, c.1 = n

variable {m : Nat} {s : Stage} {o : Outcome}

theorem Concludes.put (hA : A.Concludes n) (hs : s ≠ .publishing) : (A.put m s).Concludes n := by
  intro h
  obtain ⟨-, h⟩ | ⟨-, h⟩ := stage?_of_put h
  · exact absurd h.symm hs
  · exact hA h

theorem Concludes.drop (hA : A.Concludes n) (o : Outcome) : (A.drop m o).Concludes n :=
  fun h => hA (stage?_of_drop h).2

theorem Concludes.add (hA : A.Concludes n) (hs : s ≠ .publishing) : (A.add s).Concludes n := by
  intro h
  rw [stage?_add, Option.or_eq_some_iff] at h
  obtain h | ⟨-, h⟩ := h
  · exact hA h
  · split at h
    · exact absurd (Option.some.inj h) hs
    · cases h

theorem Concludes.spawn (hA : A.Concludes n) (hs : s ≠ .publishing) :
    (A.spawn s).Concludes n := by
  unfold Affairs.spawn
  split
  · exact hA.add hs
  · exact hA

/-- What is published besides is still to be concluded, once one reply is. -/
theorem Concludes.rest {us vs : List (Nat × Nat × Option Int)} {x : Nat × Option Int}
    (hA : A.Concludes n) (hclosing : A.closing = us ++ (m, x) :: vs) (hnm : n ≠ m)
    (h : A.stage? n = some .publishing) : ∃ c ∈ us ++ vs, c.1 = n := by
  obtain ⟨c, hc, rfl⟩ := hA h
  rw [hclosing, List.mem_append, List.mem_cons] at hc
  refine ⟨c, List.mem_append.mpr ?_, rfl⟩
  rcases hc with hc | rfl | hc
  · exact .inl hc
  · exact absurd rfl hnm
  · exact .inr hc

end Affairs

open Affairs in
/-- **Every change keeps what is published on the list**, until it is concluded. -/
theorem Change.concludes (hm : Change l A B) (hA : A.Concludes n) : B.Concludes n := by
  cases hm with
  | quiet | dismiss | unmount => exact hA
  | reset =>
    have hreset : Concludes { A with pipeline := A.pipeline.reset } n := hA
    exact hreset.spawn nofun
  | select id => exact hA.spawn nofun
  | call o => exact hA.add nofun
  | adopt hclosing =>
    intro h
    obtain ⟨-, h⟩ | ⟨hnm, h⟩ := stage?_of_put h
    · cases h
    · exact hA.rest hclosing hnm h
  | close hclosing =>
    intro h
    obtain ⟨hnm, h⟩ := stage?_of_drop h
    exact hA.rest hclosing hnm h
  | delivered r x hstage =>
    intro h
    obtain ⟨rfl, -⟩ | ⟨-, h⟩ := stage?_of_put h
    · exact ⟨_, List.mem_cons_self, rfl⟩
    · obtain ⟨c, hc, hname⟩ := hA h
      exact ⟨c, List.mem_cons_of_mem _ hc, hname⟩
  | ask | pose | load | save | loaded => exact hA.put nofun
  | attend hstage hs =>
    refine hA.put ?_
    rcases hs with rfl | ⟨call, rfl⟩ <;> exact nofun
  | leave | skip | saved | staleReply | failedReply | staleEntries | failedEntries =>
    exact hA.drop .quiet

namespace App

variable {a₀ a b : App} {ws : Errands} {ms later : Course} {g : Nat} {x : SavedSession}
  {o : Outcome} {s s' : Stage}

/-- **A reply that is being published is still to be concluded.** -/
theorem Leads.exists_conclude {c : App × Errands} (hfresh : a₀.IsFresh) (hc : Leads (a₀, []) ms c)
    (hn : c.1.stage? n = some .publishing) : ∃ g adopted, .act (.conclude n g adopted) ∈ c.2 := by
  have hconcludes : (c.1.affairs c.2).Concludes n := by
    clear hn
    induction hc with
    | start =>
      intro h
      rw [Affairs.stage?_of_tasks_eq_nil hfresh.tasks] at h
      cases h
    | step _ hx ih => exact hx.change.concludes ih
  obtain ⟨⟨_, g, adopted⟩, hmem, rfl⟩ := hconcludes hn
  obtain ⟨w, hw, hclosing⟩ := List.mem_filterMap.mp hmem
  exact ⟨g, adopted, eq_of_closing? hclosing ▸ hw⟩

/-- A task that saves its session can be told that it is saved, and ends. -/
theorem exists_leads_saved (hn : a.stage? n = some (.awaitSaved g x o)) : ∃ since b,
    Leads (a, []) since (b, []) ∧ b.stage? n = none ∧ b.saving = none ∧
      ∀ k, k ≠ n → b.stage? k = a.stage? k := by
  have henter : a.enter (.giveSaved n (.ok ())) =
      ({ a with saving := none, savedGeneration := g }.endTask n o, []) := by
    simp only [enter, giveSaved, hn]
  have hc := (Leads.start (c := (a, []))).turn (.giveSaved n (.ok ()))
  rw [henter] at hc
  refine ⟨_, _, hc, ?_, rfl, fun k hk => ?_⟩
  · rw [stage?_endTask, if_pos rfl]
  · rw [stage?_endTask, if_neg hk]
    rfl

/-- A task that wants its session saved has it saved, if none is being saved, or need not. -/
theorem exists_leads_save (hn : a.stage? n = some (.wantSave g x o)) (hsaving : a.saving = none) :
    ∃ since b, Leads (a, []) since (b, []) ∧ b.stage? n = none := by
  have hc := (Leads.start (c := (a, []))).turn (.advance n)
  have hfound : (a.stage? n).isSome := hn ▸ rfl
  by_cases hold : g < a.savedGeneration
  · refine ⟨_, _, hc, ?_⟩
    simp only [enter, advance, hn, startSave, hsaving, Option.isSome_none, Bool.false_eq_true,
      if_false, if_pos hold, stage?_endTask, if_true]
  · have hsaves : ((a.enter (.advance n)).1).stage? n = some (.awaitSaved g x o) := by
      simp only [enter, advance, hn, startSave, hsaving, Option.isSome_none, Bool.false_eq_true,
        if_false, if_neg hold]
      exact Affairs.stage?_put_self (A := a.affairs []) hfound
    obtain ⟨since, b, hb, hgone, -⟩ := exists_leads_saved hsaves
    exact ⟨_, b, hc.append hb, hgone⟩

/-- **A task that is gone stays gone.** -/
theorem Leads.gone {c d : App × Errands} (hlater : Leads c later d) (hn : n < c.1.nextTask)
    (hgone : c.1.stage? n = none) : d.1.stage? n = none := by
  induction hlater with
  | start => exact hgone
  | step hlater hy ih =>
    exact hy.change.stage?_eq_none (Nat.lt_of_lt_of_le hn hlater.nextTask_le) ih

/-- **An outcome that is settled stays**, as long as the task is found. -/
theorem Leads.outcome?_kept {c d : App × Errands} (hfresh : a₀.IsFresh) (hc : Leads (a₀, []) ms c)
    (hlater : Leads c later d) (hs : c.1.stage? n = some s) (ho : s.outcome? = some o)
    (hs' : d.1.stage? n = some s') : s'.outcome? = some o := by
  induction hlater generalizing s' with
  | start =>
    cases hs.symm.trans hs'
    exact ho
  | @step later a b ws vs y hlater hy ih =>
    have hO := (hc.append hlater).orderly hfresh
    cases ha : a.stage? n with
    | some s₁ => exact hy.change.outcome?_kept hO ha (ih ha) hs'
    | none =>
      have hlt := Nat.lt_of_lt_of_le (lt_nextTask (hc.orderly hfresh) hs) hlater.nextTask_le
      cases hs'.symm.trans (hy.change.stage?_eq_none hlt ha)

/-- **What is settled can come to its end**, wherever a course has led. -/
theorem Leads.exists_finish {c : App × Errands} (hfresh : a₀.IsFresh) (hc : Leads (a₀, []) ms c)
    (hs : c.1.stage? n = some s) (ho : s.outcome? = some o) :
    ∃ since b, Leads c since (b, []) ∧ b.stage? n = none := by
  -- first, everything is done that there is to do
  obtain ⟨a, ws⟩ := c
  obtain ⟨during, hduring, -⟩ := exists_leads_settle a ws
  generalize a.settle ws = a' at hduring
  have ha := hc.append hduring
  cases hs' : a'.stage? n with
  | none => exact ⟨during, a', hduring, hs'⟩
  | some s' =>
    have ho' := hc.outcome?_kept hfresh hduring hs ho hs'
    cases s' with
    | publishing =>
      obtain ⟨_, _, hmem⟩ := ha.exists_conclude hfresh hs'
      cases hmem
    | awaitSaved g x o' =>
      obtain ⟨since, b, hb, hgone, -⟩ := exists_leads_saved hs'
      exact ⟨_, b, hduring.append hb, hgone⟩
    | wantSave g x o' =>
      cases hsaving : a'.saving with
      | none =>
        obtain ⟨since, b, hb, hgone⟩ := exists_leads_save hs' hsaving
        exact ⟨_, b, hduring.append hb, hgone⟩
      | some k =>
        -- the one that saves is done first
        obtain ⟨s'', hk, hwriting⟩ := (Option.any_eq_true _ _).mp ((ha.writes hfresh k).mp hsaving)
        have hk : a'.stage? k = some s'' := hk
        have hnk : n ≠ k := by
          rintro rfl
          cases hs'.symm.trans hk
          cases hwriting
        cases s'' with
        | awaitSaved g'' x'' o'' =>
          obtain ⟨saved, b', hb', -, hsaving', hkept⟩ := exists_leads_saved hk
          obtain ⟨since, b, hb, hgone⟩ := exists_leads_save ((hkept n hnk).trans hs') hsaving'
          exact ⟨_, b, hduring.append (hb'.append hb), hgone⟩
        | _ => cases hwriting
    | _ => cases ho'

end App

end Parley
