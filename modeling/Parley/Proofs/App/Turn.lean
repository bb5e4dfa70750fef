import Mathlib.Data.List.Induction
import Parley.App.Drive
import Parley.Proofs.App.Settle

/-!
# What happens to an app

Whatever happens to an app comes as a *turn*: somebody calls an operation, publishes an event or
gives a command, a task goes on, an answer comes. A turn changes the app at once
(`Parley.App.enter`) and leaves something to do behind, which is done before the next one
(`Parley.App.turn`). The world decides which turn is the next, so a statement about an app is one
about all lists of turns (`Parley.App.run`). `Parley.App.follows_pumpAll` says that driving an
app against a server and a store is one such list.

An app that is called from several threads does not wait with the next turn until everything the
last one left behind is done. `Parley.App.Reached` is about all states that can be seen then: turns
come in the middle of deliveries, and what there is to do is done in any order. The states between
the turns of a list are among them (`Parley.App.reached_run`).
-/

namespace Parley

/-- What can happen to an app. -/
inductive Turn where
  /-- Somebody calls an operation. -/
  | call (o : Operation)
  | publish (e : Event)
  | tell (c : Command)
  /-- The world notes something. -/
  | jot (n : Note)
  | advance (name : Nat)
  | answer (name : Nat) (r : Answer)
  | giveSession (name : Nat) (r : Except Failure SavedSession)
  | giveSaved (name : Nat) (r : Except Failure Unit)
  deriving Inhabited

namespace App

/-! ### Turns -/

/-- What a turn changes at once, and what it leaves to do. -/
def enter (a : App) : Turn → App × Errands
  | .call o => (a.addTask (.start o), [])
  | .publish e => (a, [.publish e])
  | .tell c => (a, [.act (.command none c)])
  | .jot n => (a.note n, [])
  | .advance n => (a.advance n, [])
  | .answer n r => a.takeAnswer n r
  | .giveSession n r => (a.giveSession n r, [])
  | .giveSaved n r => (a.giveSaved n r, [])

/-- A turn, with everything that it leads to. -/
def turn (a : App) (t : Turn) : App := (a.enter t).1.settle (a.enter t).2

/-- One turn after the other. -/
def run (a : App) (ts : List Turn) : App := ts.foldl turn a

@[simp] theorem run_cons (a : App) (t : Turn) (ts : List Turn) :
    a.run (t :: ts) = (a.turn t).run ts := rfl

@[simp] theorem run_append (a : App) (ts us : List Turn) :
    a.run (ts ++ us) = (a.run ts).run us := List.foldl_append

/-- A list of turns is followed from its end. -/
theorem run_concat (a : App) (ts : List Turn) (t : Turn) :
    a.run (ts ++ [t]) = (a.run ts).turn t := run_append a ts [t]

theorem turn_answer (a : App) (n : Nat) (r : Answer) : a.turn (.answer n r) = a.answer n r := rfl

/-- A turn that leaves nothing to do. -/
theorem turn_of_enter {a b : App} {t : Turn} (h : a.enter t = (b, [])) : a.turn t = b := by
  rw [turn, h, settle_nil]

theorem turn_jot (a : App) (n : Note) : a.turn (.jot n) = a.note n := turn_of_enter rfl

theorem turn_advance (a : App) (n : Nat) : a.turn (.advance n) = a.advance n := turn_of_enter rfl

theorem turn_giveSession (a : App) (n : Nat) (r : Except Failure SavedSession) :
    a.turn (.giveSession n r) = a.giveSession n r := turn_of_enter rfl

theorem turn_giveSaved (a : App) (n : Nat) (r : Except Failure Unit) :
    a.turn (.giveSaved n r) = a.giveSaved n r := turn_of_enter rfl

theorem run_jots (a : App) (ns : List Note) : a.run (ns.map .jot) = a.notes ns := by
  induction ns generalizing a with
  | nil => rfl
  | cons n ns ih =>
    rw [List.map_cons, run_cons, turn_jot, ih]
    rfl

/-! ### Things to do -/

/-- Does one thing: the app after it, and what it leaves to do. -/
def doing (a : App) (w : Work Listener Act) : App × Errands := delivery.step (a, [w])

theorem doing_publish (a : App) (e : Event) : a.doing (.publish e) =
    (a.note (a.registry.publishNote e), (a.registry.listening e.topic).map (.deliver · e)) := by
  rw [doing, Delivery.step_publish, List.append_nil]
  rfl

theorem doing_deliver (a : App) (l : Subscription Listener) (e : Event) :
    a.doing (.deliver l e) = a.react l.listener e := by
  rw [doing, Delivery.step_deliver, List.append_nil]
  rfl

theorem doing_act (a : App) (w : Act) : a.doing (.act w) = a.perform w := by
  rw [doing, Delivery.step_act, List.append_nil]
  rfl

theorem doing_command (a : App) (who : Option Nat) (c : Command) :
    a.doing (.act (.command who c)) =
      ((a.command c).1, (a.command c).2.1 ++ [.act (.give who (a.command c).2.2)]) := by
  rw [doing_act]
  rfl

/-- The first of several things is done as if it were alone. -/
theorem step_cons (a : App) (w : Work Listener Act) (ws : Errands) :
    delivery.step (a, w :: ws) = ((a.doing w).1, (a.doing w).2 ++ ws) := by
  cases w <;> simp [doing, Delivery.step_publish, Delivery.step_deliver, Delivery.step_act]

/-- **What everything that is done keeps also holds once nothing is left to do.** -/
theorem settle_induction {P : App × Errands → Prop}
    (hdoing : ∀ a w ws, P (a, w :: ws) → P ((a.doing w).1, (a.doing w).2 ++ ws))
    {a : App} {ws : Errands} (h : P (a, ws)) : P (a.settle ws, []) := by
  rw [← run_settle]
  refine delivery.run_induction (fun b w vs hb => ?_) _ h
  rw [step_cons]
  exact hdoing b w vs hb

/-- **Things are done one after the other**: what is put behind others is done when all that they
lead to is done. -/
theorem settle_append (a : App) (us vs : Errands) :
    a.settle (us ++ vs) = (a.settle us).settle vs := by
  -- by induction on the run that does the first of them
  suffices h : ∀ (n : Nat) (a : App) (us : Errands), (delivery.run n (a, us)).2 = [] →
      a.settle (us ++ vs) = (delivery.run n (a, us)).1.settle vs by
    have hrun := run_settle a us
    rw [h (a.workBound us) a us (by rw [hrun]), hrun]
  intro n
  induction n with
  | zero =>
    intro a us hus
    obtain rfl : us = [] := hus
    rfl
  | succ n ih =>
    intro a us hus
    cases us with
    | nil => rfl
    | cons w us =>
      rw [Delivery.run_succ_cons, step_cons] at hus ⊢
      rw [List.cons_append, settle_cons, step_cons, ← List.append_assoc]
      exact ih _ _ hus

/-! ### What can be seen -/

/-- One step of an app with something to do: a turn, under its name, or any of the things to do. -/
inductive Step : Option Turn → App × Errands → App × Errands → Prop
  | turn {a : App} {ws : Errands} (t : Turn) :
      Step (some t) (a, ws) ((a.enter t).1, (a.enter t).2 ++ ws)
  | errand {a : App} {us vs : Errands} (w : Work Listener Act) :
      Step none (a, us ++ w :: vs) ((a.doing w).1, us ++ ((a.doing w).2 ++ vs))

/-- What has happened to an app so far: the turns, latest first, each with the app it found. -/
abbrev History := List (App × Turn)

/-- The states an app can be seen in after a history. -/
inductive Reached (a₀ : App) : History → App × Errands → Prop
  | start : Reached a₀ [] (a₀, [])
  | turn {h : History} {a : App} {ws : Errands} {t : Turn} {c : App × Errands} :
      Reached a₀ h (a, ws) → Step (some t) (a, ws) c → Reached a₀ ((a, t) :: h) c
  | errand {h : History} {c c' : App × Errands} :
      Reached a₀ h c → Step none c c' → Reached a₀ h c'

theorem Reached.settle {a₀ a : App} {h : History} {ws : Errands} (hr : Reached a₀ h (a, ws)) :
    Reached a₀ h (a.settle ws, []) := by
  refine settle_induction (P := Reached a₀ h) (fun b w vs hb => ?_) hr
  have hstep : Step none (b, [] ++ w :: vs) ((b.doing w).1, [] ++ ((b.doing w).2 ++ vs)) :=
    .errand w
  exact hb.errand hstep

/-- The history of turns that come one after the other. -/
def history (a : App) : List Turn → History
  | [] => []
  | t :: ts => (a.turn t).history ts ++ [(a, t)]

theorem history_concat (a : App) (ts : List Turn) (t : Turn) :
    a.history (ts ++ [t]) = (a.run ts, t) :: a.history ts := by
  induction ts generalizing a with
  | nil => rfl
  | cons u us ih => simp [history, ih]

/-- **Turns that come one after the other are seen.** -/
theorem reached_run (a : App) (ts : List Turn) : Reached a (a.history ts) (a.run ts, []) := by
  -- a history grows where the list ends
  induction ts using List.reverseRecOn with
  | nil => exact .start
  | append_singleton ts t ih =>
    have h := (ih.turn (.turn t)).settle
    rw [List.append_nil] at h
    rw [history_concat, run_concat]
    exact h

/-! ### Driving an app -/

variable {σ : Type}

/-- What is computed from an app is what a list of turns makes of it. -/
def Follows (a : App) (x : StateM σ App) : Prop := ∀ s, ∃ ts, (x.run s).1 = a.run ts

theorem Follows.pure (a : App) : a.Follows (pure a : StateM σ App) := fun _ => ⟨[], rfl⟩

theorem Follows.turn {a : App} {x : StateM σ App} (t : Turn) (h : (a.turn t).Follows x) :
    a.Follows x := by
  intro s
  obtain ⟨ts, hts⟩ := h s
  exact ⟨t :: ts, hts⟩

theorem Follows.notes {a : App} {x : StateM σ App} (ns : List Note)
    (h : (a.notes ns).Follows x) : a.Follows x := by
  intro s
  obtain ⟨ts, hts⟩ := h s
  refine ⟨ns.map .jot ++ ts, ?_⟩
  rw [hts, run_append, run_jots]

/-- What the world answers is of no account, as long as every answer is followed by turns. -/
theorem Follows.bind {a : App} {β : Type} {x : StateM σ β} {f : β → StateM σ App}
    (h : ∀ v, a.Follows (f v)) : a.Follows (x >>= f) :=
  fun s => h (x.run s).1 (x.run s).2

/-- What follows an app that is computed first follows the app it is computed from. -/
theorem Follows.trans {a : App} {x : StateM σ App} {f : App → StateM σ App} (hx : a.Follows x)
    (hf : ∀ b : App, b.Follows (f b)) : a.Follows (x >>= f) := by
  intro s
  obtain ⟨ts, hts⟩ := hx s
  obtain ⟨us, hus⟩ := hf (x.run s).1 (x.run s).2
  refine ⟨ts ++ us, ?_⟩
  rw [run_append, ← hts]
  exact hus

theorem follows_pumpStages (ports : Ports (StateM σ)) (name n : Nat) (a : App) :
    a.Follows (pumpStages ports name n a) := by
  induction n generalizing a with
  | zero =>
    rw [pumpStages]
    exact .pure a
  | succ n ih =>
    -- a task either goes on by itself or asks the server
    have hadvance : a.Follows (pumpStages ports name n (a.advance name)) := by
      refine .turn (.advance name) ?_
      rw [turn_advance]
      exact ih _
    have hask : ∀ c, a.Follows (pumpStages.putCall ports name n a c) := by
      intro c
      rw [pumpStages.putCall]
      refine .bind fun v => ?_
      obtain ⟨r, ns⟩ := v
      refine .notes ns ?_
      cases r with
      | none => exact .pure _
      | some r =>
        refine .turn (.answer name r) ?_
        rw [turn_answer]
        exact ih _
    rw [pumpStages]
    split
    · exact hadvance
    · exact hadvance
    · exact hadvance
    · exact hadvance
    · exact hask _
    · exact hask _
    · exact hask _
    · refine .bind fun v => ?_
      obtain ⟨r, ns⟩ := v
      refine .notes ns (.turn (.giveSession name r) ?_)
      rw [turn_giveSession]
      exact ih _
    · refine .bind fun v => ?_
      obtain ⟨r, ns⟩ := v
      refine .notes ns (.turn (.giveSaved name r) ?_)
      rw [turn_giveSaved]
      exact ih _
    · exact .pure a
    · exact .pure a

theorem follows_pumpReady (ports : Ports (StateM σ)) (n : Nat) (a : App) :
    a.Follows (pumpReady ports n a) := by
  induction n generalizing a with
  | zero =>
    rw [pumpReady]
    exact .pure a
  | succ n ih =>
    rw [pumpReady]
    split
    · exact (follows_pumpStages ports _ _ a).trans ih
    · exact .pure a

/-- **An app that is driven takes one turn after the other**, whatever the server and the store
do. -/
theorem follows_pumpAll (ports : Ports (StateM σ)) (a : App) : a.Follows (pumpAll ports a) :=
  follows_pumpReady ports _ a

end App

end Parley
