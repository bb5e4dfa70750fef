import Parley.Proofs.App.Change

/-!
# Tasks are kept in order

A task has a name of its own, and it has its reply published once. These are the facts about tasks
that every other statement about a conversation starts from: `Parley.Affairs.Orderly` holds of a
fresh app (`Parley.Affairs.orderly_of_isFresh`), every change keeps it (`Parley.Change.orderly`),
and so it holds of every app that can be seen (`Parley.App.Reached.orderly`).
-/

namespace Parley

namespace Affairs

/-- Names are given once, and what is being published is still to be concluded, once. -/
structure Orderly (A : Affairs) : Prop where
  named : A.Named
  publishing : ∀ c ∈ A.closing, A.stage? c.1 = some .publishing
  nodup : (A.closing.map (·.1)).Nodup

variable {A B : Affairs} {n : Nat} {s s₀ : Stage}

theorem orderly_of_isFresh {a : App} (ha : a.IsFresh) : (a.affairs []).Orderly where
  named := by constructor <;> simp [App.affairs, ha.tasks]
  publishing := nofun
  nodup := .nil

namespace Orderly

/-- Only tasks and replies matter. -/
theorem congr (hA : A.Orderly) (htasks : B.tasks = A.tasks) (hnext : B.nextTask = A.nextTask)
    (hclosing : B.closing = A.closing) : B.Orderly where
  named := ⟨htasks ▸ hA.named.nodup, by rw [htasks, hnext]; exact hA.named.lt⟩
  publishing := by
    rw [hclosing, show B.stage? = A.stage? from funext fun n => by rw [stage?, stage?, htasks]]
    exact hA.publishing
  nodup := hclosing ▸ hA.nodup

/-- A task whose reply is being published is another one than a task at any other stage. -/
theorem ne_of_mem (hA : A.Orderly) (hn : A.stage? n = some s₀) (hs₀ : s₀ ≠ .publishing)
    {c : Nat × Nat × Option Int} (hc : c ∈ A.closing) : c.1 ≠ n := by
  rintro rfl
  rw [hA.publishing c hc] at hn
  exact hs₀ (Option.some.inj hn).symm

theorem put (hA : A.Orderly) (hn : A.stage? n = some s₀) (hs₀ : s₀ ≠ .publishing) (s : Stage) :
    (A.put n s).Orderly where
  named := hA.named.put n s
  publishing c hc := by
    rw [stage?_put_of_ne (hA.ne_of_mem hn hs₀ hc)]
    exact hA.publishing c hc
  nodup := hA.nodup

theorem drop (hA : A.Orderly) (hn : A.stage? n = some s₀) (hs₀ : s₀ ≠ .publishing) (o : Outcome) :
    (A.drop n o).Orderly where
  named := hA.named.drop n o
  publishing c hc := by
    rw [stage?_drop_of_ne (hA.ne_of_mem hn hs₀ hc)]
    exact hA.publishing c hc
  nodup := hA.nodup

theorem add (hA : A.Orderly) (s : Stage) : (A.add s).Orderly where
  named := hA.named.add s
  publishing c hc := by
    rw [stage?_add, hA.publishing c hc, Option.some_or]
  nodup := hA.nodup

theorem spawn (hA : A.Orderly) (s : Stage) : (A.spawn s).Orderly := by
  unfold Affairs.spawn
  split
  · exact hA.add s
  · exact hA

/-- A task starts to have its reply published. -/
theorem publish (hA : A.Orderly) (hn : A.stage? n = some s₀) (hs₀ : s₀ ≠ .publishing)
    (x : Nat × Option Int) :
    ({ A with closing := (n, x) :: A.closing }.put n .publishing).Orderly where
  named := ⟨(hA.put hn hs₀ .publishing).named.nodup, (hA.put hn hs₀ .publishing).named.lt⟩
  publishing c hc := by
    rcases List.mem_cons.mp hc with rfl | hc
    · exact stage?_put_self (hn ▸ rfl)
    · exact (hA.put hn hs₀ .publishing).publishing c hc
  nodup := by
    refine List.nodup_cons.mpr ⟨fun hmem => ?_, hA.nodup⟩
    obtain ⟨c, hc, hname⟩ := List.mem_map.mp hmem
    exact hA.ne_of_mem hn hs₀ hc hname

/-- What is still to be concluded once one reply is. -/
theorem conclude {us vs : List (Nat × Nat × Option Int)} {x : Nat × Option Int} (hA : A.Orderly)
    (hclosing : A.closing = us ++ (n, x) :: vs) :
    A.stage? n = some .publishing ∧ (∀ c ∈ us ++ vs, c.1 ≠ n ∧ A.stage? c.1 = some .publishing) ∧
      ((us ++ vs).map (·.1)).Nodup := by
  have hnodup := hA.nodup
  have hpublishing := hA.publishing
  rw [hclosing] at hnodup hpublishing
  rw [List.map_append, List.map_cons, List.nodup_middle, ← List.map_append,
    List.nodup_cons] at hnodup
  refine ⟨hpublishing (n, x) (by simp), fun c hc => ⟨fun hname => ?_, hpublishing c ?_⟩, hnodup.2⟩
  · exact hnodup.1 (List.mem_map.mpr ⟨c, hc, hname⟩)
  · rw [List.mem_append] at hc
    rw [List.mem_append, List.mem_cons]
    exact hc.imp_right .inr

end Orderly

end Affairs

/-- **Every change keeps tasks in order.** -/
theorem Change.orderly {l : Option Turn} {A B : Affairs} (hm : Change l A B) (hA : A.Orderly) :
    B.Orderly := by
  cases hm with
  | quiet => exact hA
  | reset =>
    have hreset : Affairs.Orderly { A with pipeline := A.pipeline.reset } := hA.congr rfl rfl rfl
    exact hreset.spawn _
  | select id => exact hA.spawn _
  | dismiss | unmount => exact hA.congr rfl rfl rfl
  | call o => exact hA.add _
  | adopt hclosing =>
    obtain ⟨-, hrest, hnodup⟩ := hA.conclude hclosing
    refine ⟨⟨(hA.named.put _ _).nodup, (hA.named.put _ _).lt⟩, fun c hc => ?_, hnodup⟩
    rw [Affairs.stage?_put_of_ne (hrest c hc).1]
    exact (hrest c hc).2
  | close hclosing =>
    obtain ⟨-, hrest, hnodup⟩ := hA.conclude hclosing
    refine ⟨⟨(hA.named.drop _ .quiet).nodup, (hA.named.drop _ .quiet).lt⟩, fun c hc => ?_, hnodup⟩
    rw [Affairs.stage?_drop_of_ne (hrest c hc).1]
    exact (hrest c hc).2
  | ask hstage => exact (hA.put hstage nofun _).congr rfl rfl rfl
  | pose call hstage => exact (hA.put hstage nofun _).congr rfl rfl rfl
  | load call ht hstage hs =>
    refine (hA.put hstage ?_ _).congr rfl rfl rfl
    rcases hs with ⟨rfl, -⟩ | rfl | ⟨rfl, -⟩ <;> exact nofun
  | attend hstage => exact hA.put hstage nofun _
  | leave o hstage hs =>
    refine hA.drop hstage ?_ _
    rcases hs with rfl | ⟨call, rfl⟩ | ⟨o, rfl⟩ <;> exact nofun
  | save hstage => exact (hA.put hstage nofun _).congr rfl rfl rfl
  | skip hstage => exact hA.drop hstage nofun _
  | saved r hstage => exact (hA.drop hstage nofun .quiet).congr rfl rfl rfl
  | staleReply r hstage => exact hA.drop hstage nofun _
  | failedReply r b hstage => exact (hA.drop hstage nofun .quiet).congr rfl rfl rfl
  | delivered r x hstage => exact (hA.publish hstage nofun _).congr rfl rfl rfl
  | staleEntries r hstage => exact hA.drop hstage nofun _
  | failedEntries f b hstage => exact (hA.drop hstage nofun .quiet).congr rfl rfl rfl
  | loaded entries supply hstage => exact (hA.put hstage nofun _).congr rfl rfl rfl

/-- **In every app that can be seen tasks are in order.** -/
theorem App.Reached.orderly {a₀ : App} (hfresh : a₀.IsFresh) {h : App.History}
    {c : App × Errands} (hr : App.Reached a₀ h c) : (c.1.affairs c.2).Orderly := by
  induction hr with
  | start => exact Affairs.orderly_of_isFresh hfresh
  | turn _ hs ih => exact hs.change.orderly ih
  | errand _ hs ih => exact hs.change.orderly ih

end Parley
