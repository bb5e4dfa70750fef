import Parley.Proofs.App.Change

/-!
# The course of an app

`Parley.App.Reached` remembers which turns led to a state, and not what was done of the things that
they left to do. That is enough to say what holds of every state, and too little to say what has
happened *since*: since a question failed, since everything started anew, since the conversation was
unmounted. A *course* is the full account. Its moments are what happened, one after the other, each
with the app that was found and the app that was left, latest first.

`Parley.App.Leads` says that a course leads from one state to another, in whatever order things are
done. The states that a course leads to are those that can be seen (`Parley.App.Leads.reached`,
`Parley.App.Reached.exists_leads`), so what is said of courses is said of all that an app can come
to.
-/

namespace Parley

/-- What happens in one step: a turn is taken, or one of the things to do is done. -/
inductive Happening where
  | turn (t : Turn)
  | errand (w : Work Listener Act)
  deriving Inhabited

/-- The turn that is taken. -/
def Happening.turn? : Happening → Option Turn
  | .turn t => some t
  | .errand _ => none

theorem Happening.turn?_eq_some {x : Happening} {t : Turn} : x.turn? = some t ↔ x = .turn t := by
  cases x <;> simp [turn?]

/-- The event that is published. -/
def published? : Work Listener Act → Option Event
  | .publish e => some e
  | _ => none

/-- What happens, with the app that it finds and the app that it leaves. -/
structure Moment where
  before : App
  happening : Happening
  after : App
  deriving Inhabited

/-- What happened, latest first. -/
abbrev Course := List Moment

namespace App

/-- Something happens in a state: a turn puts what it leaves to do in front, and anything that is
to be done may be done next. -/
inductive Happens : Happening → App × Errands → App × Errands → Prop
  | turn {a : App} {ws : Errands} (t : Turn) :
      Happens (.turn t) (a, ws) ((a.enter t).1, (a.enter t).2 ++ ws)
  | errand {a : App} {us vs : Errands} (w : Work Listener Act) :
      Happens (.errand w) (a, us ++ w :: vs) ((a.doing w).1, us ++ ((a.doing w).2 ++ vs))

/-- A course leads from one state to another. -/
inductive Leads (c : App × Errands) : Course → App × Errands → Prop
  | start : Leads c [] c
  | step {ms : Course} {a b : App} {ws vs : Errands} {x : Happening} :
      Leads c ms (a, ws) → Happens x (a, ws) (b, vs) → Leads c (⟨a, x, b⟩ :: ms) (b, vs)

variable {a₀ a b : App} {h : History} {c c' c'' : App × Errands} {ms ms' : Course} {m : Moment}
  {x : Happening} {ws vs : Errands}

theorem Happens.step (hx : Happens x c c') : Step x.turn? c c' := by
  cases hx with
  | turn t => exact .turn t
  | errand w => exact .errand w

theorem Happens.change (hx : Happens x (a, ws) (b, vs)) :
    Change x.turn? (a.affairs ws) (b.affairs vs) :=
  hx.step.change

/-- A turn, in a state with something to do. -/
theorem Leads.turn (hc : Leads c ms (a, ws)) (t : Turn) :
    Leads c (⟨a, .turn t, (a.enter t).1⟩ :: ms) ((a.enter t).1, (a.enter t).2 ++ ws) :=
  hc.step (.turn t)

/-- The first of the things to do is done. -/
theorem Leads.errand {w : Work Listener Act} (hc : Leads c ms (a, w :: ws)) :
    Leads c (⟨a, .errand w, (a.doing w).1⟩ :: ms) ((a.doing w).1, (a.doing w).2 ++ ws) := by
  have hx : Happens (.errand w) (a, [] ++ w :: ws) ((a.doing w).1, [] ++ ((a.doing w).2 ++ ws)) :=
    .errand w
  exact hc.step hx

/-- Two courses, one after the other. -/
theorem Leads.append (hc : Leads c ms c') (hc' : Leads c' ms' c'') : Leads c (ms' ++ ms) c'' := by
  induction hc' with
  | start => exact hc
  | step _ hx ih => exact ih.step hx

/-- A course can be parted anywhere. -/
theorem Leads.exists_of_append (hc : Leads c (ms' ++ ms) c'') :
    ∃ c', Leads c ms c' ∧ Leads c' ms' c'' := by
  induction ms' generalizing c'' with
  | nil => exact ⟨c'', hc, .start⟩
  | cons m ms' ih =>
    cases hc with
    | step hc hx =>
      obtain ⟨c', hms, hms'⟩ := ih hc
      exact ⟨c', hms, hms'.step hx⟩

/-- Every moment of a course is one that happened, after the course that led to it. -/
theorem Leads.exists_of_mem (hc : Leads c ms c') (hm : m ∈ ms) :
    ∃ later earlier ws vs, ms = later ++ m :: earlier ∧ Leads c earlier (m.before, ws) ∧
      Happens m.happening (m.before, ws) (m.after, vs) ∧ Leads (m.after, vs) later c' := by
  obtain ⟨later, earlier, rfl⟩ := List.append_of_mem hm
  obtain ⟨d, hd, hlater⟩ := hc.exists_of_append
  cases hd with
  | step hd hx => exact ⟨later, earlier, _, _, rfl, hd, hx, hlater⟩

/-- **What is kept by every turn, and by everything that is done, holds of the states of a course.** -/
theorem Leads.keeps {P : App → Prop} (hturn : ∀ a t, P a → P (a.enter t).1)
    (hdoing : ∀ a w, ⟨a, .errand w, (a.doing w).1⟩ ∈ ms → P a → P (a.doing w).1)
    (hc : Leads c ms c') (h : P c.1) : P c'.1 := by
  induction hc with
  | start => exact h
  | step _ hx ih =>
    have ha := ih fun a w hmem => hdoing a w (List.mem_cons_of_mem _ hmem)
    cases hx with
    | turn t => exact hturn _ t ha
    | errand w => exact hdoing _ w List.mem_cons_self ha

/-- Everything there is to do is done in the course of a delivery. -/
theorem exists_leads_settle (a : App) (ws : Errands) : ∃ during,
    Leads (a, ws) during (a.settle ws, []) ∧ ∀ m ∈ during, m.happening.turn? = none := by
  refine settle_induction (P := fun c => ∃ during,
    Leads (a, ws) during c ∧ ∀ m ∈ during, m.happening.turn? = none) (fun b w vs hb => ?_)
    ⟨[], .start, List.forall_mem_nil _⟩
  obtain ⟨during, hc, hduring⟩ := hb
  exact ⟨_, hc.errand, List.forall_mem_cons.mpr ⟨rfl, hduring⟩⟩

/-! ### Courses and what can be seen -/

/-- **What a course leads to can be seen**, if it begins where something can be seen. -/
theorem Leads.reached (hc : Leads c ms c') (hr : Reached a₀ h c) : ∃ h', Reached a₀ h' c' := by
  induction hc with
  | start => exact ⟨h, hr⟩
  | step _ hx ih =>
    obtain ⟨h', hr'⟩ := ih
    cases hx with
    | turn t => exact ⟨_, hr'.turn (.turn t)⟩
    | errand w => exact ⟨h', hr'.errand (.errand w)⟩

/-- **What can be seen has a course.** -/
theorem Reached.exists_leads (hr : Reached a₀ h c) : ∃ ms, Leads (a₀, []) ms c := by
  induction hr with
  | start => exact ⟨[], .start⟩
  | turn _ hs ih =>
    obtain ⟨ms, hc⟩ := ih
    cases hs
    exact ⟨_, hc.turn _⟩
  | errand _ hs ih =>
    obtain ⟨ms, hc⟩ := ih
    cases hs with
    | errand w => exact ⟨_, hc.step (.errand w)⟩

end App

end Parley
