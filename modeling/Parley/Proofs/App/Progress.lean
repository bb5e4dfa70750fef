import Parley.Proofs.App.Course
import Parley.Proofs.App.Fate
import Parley.Proofs.App.Orderly

/-!
# A task only goes on

A task never comes back to a stage that it has left, and one that has ended never comes back at all.
`Parley.Stage.progress` says how far a task has come, and every change leaves a task where it is or
takes it further (`Parley.Change.stage?_or_progress`). So whoever knows a task at two points of a
course knows where it was before the first, and where it can still come to after the second
(`Parley.App.Leads.leap`): what a task does not pass by there, it never does.
-/

namespace Parley

/-- How far a task has come that is found at a stage. One that is found no longer has come to its
end. -/
def Stage.progress : Option Stage → Nat
  | some (.start _) | some (.startLoad _ _) => 0
  | some .awaitSession => 1
  | some (.posing _ _) => 2
  | some (.awaitReply _ _ _) | some (.awaitEntries _ _ _ _) | some (.awaitSummaries _) => 3
  | some .publishing => 4
  | some (.wantSave _ _ _) => 5
  | some (.awaitSaved _ _ _) => 6
  | none => 7

/-- Names are given once, and never given back. -/
theorem Change.nextTask_le {l : Option Turn} {A B : Affairs} (hm : Change l A B) :
    A.nextTask ≤ B.nextTask := by
  cases hm with
  | reset => exact Affairs.nextTask_le_spawn { A with pipeline := A.pipeline.reset } _
  | select id => exact A.nextTask_le_spawn _
  | call o => exact Nat.le_succ _
  | _ => exact Nat.le_refl _

/-- **A task that has ended does not come back.** -/
theorem Change.stage?_eq_none {l : Option Turn} {A B : Affairs} {n : Nat} (hm : Change l A B)
    (hn : n < A.nextTask) (hnone : A.stage? n = none) : B.stage? n = none := by
  have hput : ∀ {C : Affairs} {m : Nat} {s : Stage}, C.stage? n = none →
      (C.put m s).stage? n = none := by
    intro C m s hC
    rw [Affairs.stage?_put, hC, Option.map_none, ite_self]
  have hdrop : ∀ {C : Affairs} {m : Nat} {o : Outcome}, C.stage? n = none →
      (C.drop m o).stage? n = none := by
    intro C m o hC
    rw [Affairs.stage?_drop, hC, ite_self]
  cases hm with
  | quiet | dismiss | unmount => exact hnone
  | reset =>
    have hlt : n < ({ A with pipeline := A.pipeline.reset } : Affairs).nextTask := hn
    exact (Affairs.stage?_spawn_of_lt hlt).trans hnone
  | select id => exact (Affairs.stage?_spawn_of_lt hn).trans hnone
  | call o => exact (Affairs.stage?_add_of_lt hn).trans hnone
  | adopt | ask | pose | load | attend | save | delivered | loaded => exact hput hnone
  | close | leave | skip | saved | staleReply | failedReply | staleEntries | failedEntries =>
    exact hdrop hnone

/-- **A task is left where it is, or it goes on.** -/
theorem Change.stage?_or_progress {l : Option Turn} {A B : Affairs} {n : Nat} (hm : Change l A B)
    (hO : A.Orderly) (hn : n < A.nextTask) : B.stage? n = A.stage? n ∨
      Stage.progress (A.stage? n) < Stage.progress (B.stage? n) := by
  cases hs : A.stage? n with
  | none => exact .inl (hm.stage?_eq_none hn hs)
  | some s =>
    have hfate := hm.fate n
    generalize B.stage? n = s' at hfate ⊢
    cases hfate with
    | kept h => exact .inl (h.symm.trans hs)
    | called h | cleared h | selected h => cases hs.symm.trans h
    | concluded hc hname h =>
      obtain rfl := Option.some.inj (hs.symm.trans (hname ▸ hO.publishing _ hc))
      refine .inr ?_
      cases s' with
      | none => simp [Stage.progress]
      | some s' =>
        obtain ⟨_, rfl⟩ := h s' rfl
        simp [Stage.progress]
    | asked h | posed h =>
      cases hs.symm.trans h
      simp [Stage.progress]
    | loads _ h hload =>
      cases hs.symm.trans h
      rcases hload with ⟨rfl, -⟩ | rfl | ⟨rfl, -⟩ <;> simp [Stage.progress]
    | attends h h' =>
      cases hs.symm.trans h
      rcases h' with rfl | ⟨_, rfl⟩ <;> simp [Stage.progress]
    | leaves h h' =>
      cases hs.symm.trans h
      rcases h' with rfl | ⟨_, rfl⟩ | ⟨_, rfl⟩ <;> simp [Stage.progress]
    | saves h h' | replied h h' | arrived h h' =>
      cases hs.symm.trans h
      rcases h' with rfl | rfl <;> simp [Stage.progress]
    | saved h =>
      cases hs.symm.trans h
      simp [Stage.progress]

theorem Change.progress_le {l : Option Turn} {A B : Affairs} {n : Nat} (hm : Change l A B)
    (hO : A.Orderly) (hn : n < A.nextTask) :
    Stage.progress (A.stage? n) ≤ Stage.progress (B.stage? n) := by
  rcases hm.stage?_or_progress hO hn with h | h
  · exact Nat.le_of_eq (congrArg Stage.progress h.symm)
  · exact Nat.le_of_lt h

namespace App

variable {a₀ a b : App} {n : Nat} {ws vs : Errands} {x : Happening} {c c' : App × Errands}
  {ms later : Course} {m : Moment}

theorem Leads.orderly (hfresh : a₀.IsFresh) (hc : Leads (a₀, []) ms c) :
    (c.1.affairs c.2).Orderly := by
  obtain ⟨h, hr⟩ := hc.reached .start
  exact hr.orderly hfresh

/-- A task that is found has been given its name. -/
theorem lt_nextTask (hO : (a.affairs ws).Orderly) {s : Stage} (hs : a.stage? n = some s) :
    n < a.nextTask := by
  obtain ⟨t, ht, rfl, -⟩ := Affairs.exists_of_stage? (A := a.affairs ws) hs
  exact hO.named.lt t ht

/-- **In the course of time a task only goes on.** -/
theorem Leads.progress_le (hfresh : a₀.IsFresh) (hc : Leads (a₀, []) ms c)
    (hlater : Leads c later c') (hn : n < c.1.nextTask) : n < c'.1.nextTask ∧
      Stage.progress (c.1.stage? n) ≤ Stage.progress (c'.1.stage? n) := by
  induction hlater with
  | start => exact ⟨hn, Nat.le_refl _⟩
  | step hl hx ih =>
    obtain ⟨hlt, hle⟩ := ih
    exact ⟨Nat.lt_of_lt_of_le hlt hx.change.nextTask_le,
      Nat.le_trans hle (hx.change.progress_le ((hc.append hl).orderly hfresh) hlt)⟩

/-- **What a task leaps over it never comes to.** At one moment a task goes from one stage to
another. At every other moment of the whole course at which it is found it has come no further than
the first, or has already come as far as the second. -/
theorem Leads.leap (hfresh : a₀.IsFresh) (hc : Leads (a₀, []) ms (a, ws))
    (hx : Happens x (a, ws) (b, vs)) (hlater : Leads (b, vs) later c') (hn : n < a.nextTask)
    (hm : m ∈ later ++ ⟨a, x, b⟩ :: ms) {s : Stage} (hs : m.before.stage? n = some s) :
    Stage.progress (m.after.stage? n) ≤ Stage.progress (a.stage? n) ∨ m = ⟨a, x, b⟩ ∨
      Stage.progress (b.stage? n) ≤ Stage.progress (some s) := by
  rcases List.mem_append.mp hm with hm | hm
  · obtain ⟨_, _, _, _, -, hbefore, -⟩ := hlater.exists_of_mem hm
    have hle := (hc.step hx).progress_le hfresh hbefore
      (Nat.lt_of_lt_of_le hn hx.change.nextTask_le)
    rw [hs] at hle
    exact .inr (.inr hle.2)
  · rcases List.mem_cons.mp hm with rfl | hm
    · exact .inr (.inl rfl)
    · obtain ⟨_, _, _, _, -, hbefore, hy, hafter⟩ := hc.exists_of_mem hm
      have hlt := lt_nextTask (hbefore.orderly hfresh) hs
      exact .inl ((hbefore.step hy).progress_le hfresh hafter
        (Nat.lt_of_lt_of_le hlt hy.change.nextTask_le)).2

end App

end Parley
