import Parley.Proofs.App.Pace
import Parley.Proofs.App.Seating

/-!
# Who is in control

What is to be done is done from its front (`Parley.App.Paces`), and whoever gives a command while an
event is handled is somebody whose turn it is. `Parley.App.Walks` says that a course leads from one
state to another in that order.

The store and the canvas are handed a new conversation one after the other, so there is a moment at
which the store is empty and the canvas has not yet been hidden. `Parley.Outside` says that it is
not that moment. Nobody is in control then but the bus, and what it hands to the store it hands to
the canvas next (`Parley.Paired`), so nobody sees the one without the other.
-/

namespace Parley

/-- Control is outside of the handlers in which the store and the canvas start anew: it is not the
canvas's turn to do so, after the store. -/
def Outside (ws : Errands) : Prop :=
  ∀ s e, ws.head? = some (.deliver s e) → s.listener = .canvas → e.signal ≠ .newConversation

theorem Outside.nil : Outside [] := fun _ _ => nofun

/-- Whatever the store is to be handed the canvas is handed next. -/
def Paired : Errands → Prop
  | [] => True
  | w :: ws => (∀ s e, w = .deliver s e → s.listener = .store →
      ∃ s', ws.head? = some (.deliver s' e) ∧ s'.listener = .canvas) ∧ Paired ws

namespace Paired

variable {us ws : Errands}

/-- What is not handed to anybody may be done before. -/
theorem append (hus : ∀ s e, .deliver s e ∉ us) (h : Paired ws) : Paired (us ++ ws) := by
  induction us with
  | nil => exact h
  | cons u us ih =>
    refine ⟨?_, ih fun s e hmem => hus s e (List.mem_cons_of_mem _ hmem)⟩
    rintro s e rfl
    exact absurd List.mem_cons_self (hus s e)

/-- A signal is handed to everybody who listens, one after the other. -/
theorem deliver {ls : List (Subscription Listener)} (hls : Followed (ls.map (·.listener)))
    (e : Event) (h : Paired ws) : Paired (ls.map (.deliver · e) ++ ws) := by
  induction ls with
  | nil => exact h
  | cons l ls ih =>
    obtain ⟨hl, hls⟩ := hls
    refine ⟨?_, ih hls⟩
    rintro _ _ ⟨⟩ hstore
    have hnext := hl hstore
    rw [List.head?_map, Option.map_eq_some_iff] at hnext
    obtain ⟨s', hs', hcanvas⟩ := hnext
    obtain ⟨ls', rfl⟩ := List.head?_eq_some_iff.mp hs'
    exact ⟨s', rfl, hcanvas⟩

end Paired

namespace App

variable {a b : App} {c c' : App × Errands} {ms : Course} {ws : Errands}

/-- A turn hands nothing to anybody at once. -/
theorem deliver_notMem_enter (a : App) (t : Turn) (s : Subscription Listener) (e : Event) :
    .deliver s e ∉ (a.enter t).2 := by
  intro h
  cases t with
  | answer n r =>
    simp only [enter, takeAnswer] at h
    split at h
    · simp only [takeReply] at h
      split at h
      · cases h
      · cases h
      · split at h <;> simp at h
    · cases h
    · cases h
    · cases h
  | publish | tell => simp [enter] at h
  | _ => cases h

/-- **What is done keeps the store and the canvas together.** -/
theorem Seated.paired_doing (ha : a.Seated) {w : Work Listener Act} (h : Paired ws) :
    Paired ((a.doing w).2 ++ ws) := by
  cases w with
  | publish e =>
    rw [doing_publish]
    exact .deliver (ha.followed e.topic) e h
  | deliver | act =>
    refine .append (deliver_notMem_doing ?_) h
    simp

/-! ### One after the other -/

/-- A course leads from one state to another, and what there is to do is done from its front. A turn
may come whenever control is outside of the store and the canvas, also while an event is handled by
somebody else; what it leads to is done before the rest. -/
inductive Walks (c : App × Errands) : Course → App × Errands → Prop
  | start : Walks c [] c
  | turn {ms : Course} {a : App} {ws : Errands} (t : Turn) : Walks c ms (a, ws) → Outside ws →
      Walks c (⟨a, .turn t, (a.enter t).1⟩ :: ms) ((a.enter t).1, (a.enter t).2 ++ ws)
  | errand {ms : Course} {a : App} {ws : Errands} {w : Work Listener Act} :
      Walks c ms (a, w :: ws) →
      Walks c (⟨a, .errand w, (a.doing w).1⟩ :: ms) ((a.doing w).1, (a.doing w).2 ++ ws)

theorem walks_iff_paces : Walks c ms c' ↔ Paces Outside c ms c' := by
  constructor
  · intro hw
    induction hw with
    | start => exact .start
    | turn t _ houtside ih => exact ih.turn t houtside
    | errand _ ih => exact ih.errand
  · intro hp
    induction hp with
    | start => exact .start
    | turn t _ houtside ih => exact ih.turn t houtside
    | errand _ ih => exact ih.errand

/-- Two walks, one after the other. -/
theorem Walks.append {ms' : Course} {c'' : App × Errands} (hw : Walks c ms c')
    (hw' : Walks c' ms' c'') : Walks c (ms' ++ ms) c'' :=
  walks_iff_paces.mpr ((walks_iff_paces.mp hw).append (walks_iff_paces.mp hw'))

theorem Walks.stroll {x : Course × App × Errands} (hw : Walks c x.1 x.2) (h : Outside x.2.2)
    (t : Turn) (n : Nat) : Walks c (stroll n t x).1 (stroll n t x).2 :=
  walks_iff_paces.mpr ((walks_iff_paces.mp hw).stroll h t n)

/-- **Turns that come one after the other walk.** -/
theorem exists_walks_run (a : App) (ts : List Turn) : ∃ ms, Walks (a, []) ms (a.run ts, []) :=
  ⟨_, walks_iff_paces.mpr (paces_itinerary Outside.nil a ts)⟩

end App

end Parley
