import Parley.Bus.Delivery

/-!
# Deliveries come to an end

The machine of `Parley.Delivery` is run for a bounded number of steps, and the bound is there for
Lean only: nobody should have to know it. This file says what has to be known of a system of
listeners for that. If everything that is done makes a *measure* of what is left smaller, then a
run of that many steps leaves nothing to do (`Parley.Delivery.run_snd_eq_nil`), and every longer
run comes to the same state (`Parley.Delivery.run_eq_of_snd_eq_nil`).

What holds of a state is carried through a run one step at a time
(`Parley.Delivery.run_induction`), which is how every invariant of an app gets past a delivery.
-/

namespace Parley

namespace Delivery

variable {σ η ω : Type} (d : Delivery σ η ω)

@[simp] theorem run_nil (n : Nat) (s : σ) : d.run n (s, []) = (s, []) := by
  cases n <;> rfl

@[simp] theorem run_succ_cons (n : Nat) (s : σ) (w : Work η ω) (ws : List (Work η ω)) :
    d.run (n + 1) (s, w :: ws) = d.run n (d.step (s, w :: ws)) := rfl

/-- A run goes on by one step from where it is. -/
theorem run_succ (n : Nat) (c : σ × List (Work η ω)) : d.run (n + 1) c = d.step (d.run n c) := by
  induction n generalizing c with
  | zero =>
    obtain ⟨s, _ | ⟨w, ws⟩⟩ := c
    · rfl
    · rfl
  | succ n ih =>
    obtain ⟨s, _ | ⟨w, ws⟩⟩ := c
    · rw [run_nil, run_nil]
      rfl
    · rw [run_succ_cons, ih, run_succ_cons]

/-! ### What one step does -/

theorem step_publish (s : σ) (e : Event) (ws : List (Work η ω)) :
    d.step (s, .publish e :: ws) =
      (d.announce e s, ((d.registry s).listening e.topic).map (.deliver · e) ++ ws) := rfl

theorem step_deliver (s : σ) (l : Subscription η) (e : Event) (ws : List (Work η ω)) :
    d.step (s, .deliver l e :: ws) = ((d.react l e s).1, (d.react l e s).2 ++ ws) := rfl

theorem step_act (s : σ) (w : ω) (ws : List (Work η ω)) :
    d.step (s, .act w :: ws) = ((d.perform w s).1, (d.perform w s).2 ++ ws) := rfl

/-! ### What a run does -/

/-- **What every step keeps, a run keeps.** -/
theorem run_induction {P : σ × List (Work η ω) → Prop}
    (hstep : ∀ s w ws, P (s, w :: ws) → P (d.step (s, w :: ws))) (n : Nat)
    {c : σ × List (Work η ω)} (hc : P c) : P (d.run n c) := by
  induction n generalizing c with
  | zero => exact hc
  | succ n ih =>
    obtain ⟨s, _ | ⟨w, ws⟩⟩ := c
    · rw [run_nil]
      exact hc
    · rw [run_succ_cons]
      exact ih (hstep s w ws hc)

/-- **A run that is as long as what is left leaves nothing to do**, if everything that is done leaves
less. How much is left at most (`L`) need not be read off what there is to do. -/
theorem run_snd_eq_nil_of_left {L : Nat → σ × List (Work η ω) → Prop}
    (hstep : ∀ m s w ws, L m (s, w :: ws) → ∃ m' < m, L m' (d.step (s, w :: ws)))
    {m n : Nat} {c : σ × List (Work η ω)} (hc : L m c) (hn : m ≤ n) : (d.run n c).2 = [] := by
  induction n generalizing m c with
  | zero =>
    obtain ⟨s, _ | ⟨w, ws⟩⟩ := c
    · rfl
    · obtain ⟨m', hm', -⟩ := hstep m s w ws hc
      omega
  | succ n ih =>
    obtain ⟨s, _ | ⟨w, ws⟩⟩ := c
    · rw [run_nil]
    · obtain ⟨m', hm', hleft⟩ := hstep m s w ws hc
      rw [run_succ_cons]
      exact ih hleft (by omega)

/-- **A run as long as the measure leaves nothing to do**, if every step lowers the measure. The
states in which it does may be narrowed by what the steps keep. -/
theorem run_snd_eq_nil {P : σ → Prop} (μ : σ × List (Work η ω) → Nat)
    (hstep : ∀ s w ws, P s →
      P (d.step (s, w :: ws)).1 ∧ μ (d.step (s, w :: ws)) < μ (s, w :: ws)) (n : Nat)
    {c : σ × List (Work η ω)} (hc : P c.1) (hn : μ c ≤ n) : (d.run n c).2 = [] := by
  refine d.run_snd_eq_nil_of_left (L := fun m c => P c.1 ∧ μ c ≤ m) (fun m s w ws h => ?_)
    ⟨hc, Nat.le_refl _⟩ hn
  obtain ⟨hP, hμ⟩ := hstep s w ws h.1
  exact ⟨_, Nat.lt_of_lt_of_le hμ h.2, hP, Nat.le_refl _⟩

/-- Once nothing is left to do, a longer run changes nothing. -/
theorem run_eq_of_snd_eq_nil {m n : Nat} (hmn : m ≤ n) {c : σ × List (Work η ω)}
    (hm : (d.run m c).2 = []) : d.run n c = d.run m c := by
  induction m generalizing n c with
  | zero =>
    obtain ⟨s, ws⟩ := c
    obtain rfl : ws = [] := hm
    simp
  | succ m ih =>
    obtain ⟨s, _ | ⟨w, ws⟩⟩ := c
    · simp
    · obtain ⟨k, rfl⟩ : ∃ k, n = k + 1 := ⟨n - 1, by omega⟩
      rw [run_succ_cons] at hm ⊢
      rw [run_succ_cons]
      exact ih (by omega) hm

end Delivery

end Parley
