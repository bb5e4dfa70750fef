import Mathlib.Logic.Function.Iterate
import Parley.Proofs.App.Course

/-!
# One thing after the other

A course lets anything happen at any time. An app that is called from one thread is in a better
position: what is to be done is done from its front, everything that something leads to before what
comes behind it. `Parley.App.Paces` says that a course leads from one state to another in that order.

Turns may still come in the middle of a delivery, since whoever handles an event may do whatever can
be done. When they may is left open: a course keeps pace with what is said to be a *free* moment.
-/

namespace Parley

namespace App

variable {a : App} {c c' c'' : App × Errands} {ms ms' : Course} {ws : Errands}
  {free : Errands → Prop}

/-- A course leads from one state to another, and what there is to do is done from its front. A turn
may come at any moment that is free, and what it leads to is done before the rest. -/
inductive Paces (free : Errands → Prop) (c : App × Errands) : Course → App × Errands → Prop
  | start : Paces free c [] c
  | turn {ms : Course} {a : App} {ws : Errands} (t : Turn) : Paces free c ms (a, ws) → free ws →
      Paces free c (⟨a, .turn t, (a.enter t).1⟩ :: ms) ((a.enter t).1, (a.enter t).2 ++ ws)
  | errand {ms : Course} {a : App} {ws : Errands} {w : Work Listener Act} :
      Paces free c ms (a, w :: ws) →
      Paces free c (⟨a, .errand w, (a.doing w).1⟩ :: ms) ((a.doing w).1, (a.doing w).2 ++ ws)

/-- Does the first of what there is to do, and takes down what happened. -/
def stride : Course × App × Errands → Course × App × Errands
  | (ms, a, []) => (ms, a, [])
  | (ms, a, w :: ws) =>
    (⟨a, .errand w, (a.doing w).1⟩ :: ms, (a.doing w).1, (a.doing w).2 ++ ws)

/-- A turn, and as many things that are done after it. -/
def stroll (n : Nat) (t : Turn) (x : Course × App × Errands) : Course × App × Errands :=
  stride^[n] (⟨x.2.1, .turn t, (x.2.1.enter t).1⟩ :: x.1, (x.2.1.enter t).1,
    (x.2.1.enter t).2 ++ x.2.2)

/-- What happens in turns that come one after the other, each with everything that it leads to. -/
def itinerary (a : App) (ts : List Turn) : Course × App × Errands :=
  ts.foldl (fun x t => stroll ((x.2.1.enter t).1.workBound (x.2.1.enter t).2) t x) ([], a, [])

theorem snd_stride (x : Course × App × Errands) : (stride x).2 = delivery.step x.2 := by
  obtain ⟨ms, a, _ | ⟨w, ws⟩⟩ := x
  · rfl
  · exact (step_cons a w ws).symm

/-- Taking down what happens changes nothing of it. -/
theorem snd_stride_iterate (n : Nat) (x : Course × App × Errands) :
    (stride^[n] x).2 = delivery.run n x.2 := by
  induction n with
  | zero => rfl
  | succ n ih => rw [Function.iterate_succ_apply', snd_stride, ih, Delivery.run_succ]

theorem snd_itinerary (a : App) (ts : List Turn) : (a.itinerary ts).2 = (a.run ts, []) := by
  induction ts using List.reverseRecOn with
  | nil => rfl
  | append_singleton ts t ih =>
    rw [itinerary, List.foldl_append, ← itinerary, List.foldl_cons, List.foldl_nil, stroll,
      snd_stride_iterate, ih, List.append_nil, run_settle, run_concat]
    rfl

namespace Paces

theorem leads (hp : Paces free c ms c') : Leads c ms c' := by
  induction hp with
  | start => exact .start
  | turn t _ _ ih => exact ih.turn t
  | errand _ ih => exact ih.errand

/-- Two courses, one after the other. -/
theorem append (hp : Paces free c ms c') (hp' : Paces free c' ms' c'') :
    Paces free c (ms' ++ ms) c'' := by
  induction hp' with
  | start => exact hp
  | turn t _ hws ih => exact ih.turn t hws
  | errand _ ih => exact ih.errand

/-- Whatever was done was the first thing to do then. -/
theorem exists_of_mem (hp : Paces free c ms c') {m : Moment} (hm : m ∈ ms)
    {w : Work Listener Act} (hw : m.happening = .errand w) : ∃ earlier ws,
      earlier ⊆ ms ∧ Paces free c earlier (m.before, w :: ws) ∧ m.after = (m.before.doing w).1 := by
  induction hp with
  | start => cases hm
  | turn t _ _ ih =>
    rcases List.mem_cons.mp hm with rfl | hm
    · cases hw
    · obtain ⟨earlier, ws, hsubset, h⟩ := ih hm
      exact ⟨earlier, ws, List.subset_cons_of_subset _ hsubset, h⟩
  | errand hp ih =>
    rcases List.mem_cons.mp hm with rfl | hm
    · cases hw
      exact ⟨_, _, List.subset_cons_self _ _, hp, rfl⟩
    · obtain ⟨earlier, ws, hsubset, h⟩ := ih hm
      exact ⟨earlier, ws, List.subset_cons_of_subset _ hsubset, h⟩

theorem stroll {x : Course × App × Errands} (hp : Paces free c x.1 x.2) (hx : free x.2.2) (t : Turn)
    (n : Nat) : Paces free c (stroll n t x).1 (stroll n t x).2 := by
  suffices hstrides : ∀ y : Course × App × Errands, Paces free c y.1 y.2 →
      Paces free c (stride^[n] y).1 (stride^[n] y).2 from hstrides _ (hp.turn t hx)
  induction n with
  | zero => exact fun _ hy => hy
  | succ n ih =>
    rintro ⟨ms, a, _ | ⟨w, ws⟩⟩ hy
    · exact ih _ hy
    · exact ih _ hy.errand

end Paces

/-- **Turns that come one after the other keep pace**, if it is free when nothing is left to do. -/
theorem paces_itinerary (hnil : free []) (a : App) (ts : List Turn) :
    Paces free (a, []) (a.itinerary ts).1 (a.run ts, []) := by
  rw [← snd_itinerary]
  induction ts using List.reverseRecOn with
  | nil => exact .start
  | append_singleton ts t ih =>
    have hfree : free (a.itinerary ts).2.2 := by
      rw [snd_itinerary]
      exact hnil
    have hstroll := ih.stroll hfree t
      (((a.itinerary ts).2.1.enter t).1.workBound ((a.itinerary ts).2.1.enter t).2)
    rw [itinerary, List.foldl_append]
    exact hstroll

end App

end Parley
