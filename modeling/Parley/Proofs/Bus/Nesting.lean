import Parley.Proofs.Bus.Delivery

/-!
# Deliveries nest

What is done of a list of things to do is written down, one deed after the other
(`Parley.Delivery.Runs`). Everything that is done puts what it entails in front of the rest, so the
deeds of the first part of a list come before those of the second (`Parley.Delivery.Runs.parts`):
nobody has a turn before everything is done that came of the one before.

For an event that is published this comes to the law of delivery
(`Parley.Delivery.Runs.handed`): it is handed to everybody who listened when it was published, to
each once and in the order of their subscriptions, whatever they subscribe and end in the meantime;
and all that a listener publishes is delivered before the next one has its turn. Nothing is said of
what the listeners do, and the law holds at every depth.
-/

namespace Parley

namespace Delivery

variable {σ η ω : Type}

/-- Something that was done, with the state that it found and the state that it left. -/
structure Deed (σ η ω : Type) where
  before : σ
  work : Work η ω
  after : σ

variable (d : Delivery σ η ω)

/-- Things are done one after the other, and come from one state of affairs to another. -/
inductive Runs : σ × List (Work η ω) → List (Deed σ η ω) → σ × List (Work η ω) → Prop
  | nil (c : σ × List (Work η ω)) : Runs c [] c
  | cons {s : σ} {w : Work η ω} {ws : List (Work η ω)} {ds : List (Deed σ η ω)}
      {c : σ × List (Work η ω)} : Runs (d.step (s, w :: ws)) ds c →
      Runs (s, w :: ws) (⟨s, w, (d.step (s, w :: ws)).1⟩ :: ds) c

/-- An event is handed to listeners, one after the other: what is done for each of them begins with
the delivery, and ends when everything is done that came of it. -/
inductive Handed (e : Event) :
    List (Subscription η) → σ → List (List (Deed σ η ω)) → σ → Prop
  | nil (s : σ) : Handed e [] s [] s
  | cons {l : Subscription η} {ls : List (Subscription η)} {s t u : σ}
      {ds : List (Deed σ η ω)} {dss : List (List (Deed σ η ω))} :
      d.Runs (d.react l e s) ds (t, []) → Handed e ls t dss u →
      Handed e (l :: ls) s ((⟨s, .deliver l e, (d.react l e s).1⟩ :: ds) :: dss) u

variable {d} {s t : σ} {c c' c'' : σ × List (Work η ω)} {ds ds' : List (Deed σ η ω)}
  {us vs ws : List (Work η ω)} {w : Work η ω} {e : Event}

/-- What is to be done later does not matter to what is done now. -/
theorem step_append (s : σ) (w : Work η ω) (us vs : List (Work η ω)) :
    d.step (s, w :: (us ++ vs)) =
      ((d.step (s, w :: us)).1, (d.step (s, w :: us)).2 ++ vs) := by
  cases w <;> simp only [step_publish, step_deliver, step_act, List.append_assoc]

namespace Runs

theorem append (h : d.Runs c ds c') (h' : d.Runs c' ds' c'') : d.Runs c (ds ++ ds') c'' := by
  induction h with
  | nil => exact h'
  | cons _ ih => exact .cons (ih h')

theorem eq_of_nil (h : d.Runs c [] c') : c = c' := by
  cases h
  rfl

/-- Where there is nothing to do nothing is done. -/
theorem eq_nil (h : d.Runs (s, []) ds c) : ds = [] ∧ c = (s, []) := by
  cases h
  exact ⟨rfl, rfl⟩

/-- **What is done is settled by what there is to do**, if everything is done. -/
theorem unique (h : d.Runs c ds (s, [])) (h' : d.Runs c ds' (t, [])) : ds = ds' ∧ s = t := by
  induction ds generalizing c ds' with
  | nil =>
    obtain rfl := h.eq_of_nil
    obtain ⟨rfl, hend⟩ := h'.eq_nil
    exact ⟨rfl, (Prod.mk.inj hend).1.symm⟩
  | cons x ds ih =>
    cases h with
    | cons h =>
      cases h' with
      | cons h' =>
        obtain ⟨rfl, rfl⟩ := ih h h'
        exact ⟨rfl, rfl⟩

/-- The first deed is the first of the things to do, and the rest is done from there. -/
theorem of_cons {x : Deed σ η ω} (h : d.Runs (s, w :: ws) (x :: ds) c) :
    x = ⟨s, w, (d.step (s, w :: ws)).1⟩ ∧ d.Runs (d.step (s, w :: ws)) ds c := by
  cases h with
  | cons h => exact ⟨rfl, h⟩

/-- A run can be parted anywhere. -/
theorem exists_of_append (h : d.Runs c (ds ++ ds') c'') :
    ∃ c', d.Runs c ds c' ∧ d.Runs c' ds' c'' := by
  induction ds generalizing c with
  | nil => exact ⟨c, .nil c, h⟩
  | cons x ds ih =>
    cases h with
    | cons h =>
      obtain ⟨c', hds, hds'⟩ := ih h
      exact ⟨c', .cons hds, hds'⟩

/-- Something that was done was the first thing to do then. -/
theorem exists_of_split {x : Deed σ η ω} (h : d.Runs c (ds ++ x :: ds') c'') :
    ∃ ws, d.Runs c ds (x.before, x.work :: ws) ∧
      x.after = (d.step (x.before, x.work :: ws)).1 ∧
        d.Runs (d.step (x.before, x.work :: ws)) ds' c'' := by
  obtain ⟨⟨s, ws⟩, hds, hds'⟩ := exists_of_append h
  cases hds' with
  | cons hrest => exact ⟨_, hds, rfl, hrest⟩

/-- **What comes first is done first**, with everything that comes of it. -/
theorem parts (h : d.Runs (s, us ++ vs) ds (t, [])) : ∃ ds₁ ds₂ u, ds = ds₁ ++ ds₂ ∧
    d.Runs (s, us) ds₁ (u, []) ∧ d.Runs (u, vs) ds₂ (t, []) := by
  -- by induction on what is done: each deed is one of the first part until nothing is left of it
  induction ds generalizing s us with
  | nil =>
    obtain ⟨rfl, hnil⟩ := Prod.mk.inj h.eq_of_nil
    obtain ⟨rfl, rfl⟩ := List.append_eq_nil_iff.mp hnil
    exact ⟨[], [], s, rfl, .nil _, .nil _⟩
  | cons x ds ih =>
    cases us with
    | nil => exact ⟨[], _, s, rfl, .nil _, h⟩
    | cons w us =>
      rw [List.cons_append] at h
      obtain ⟨hx, hrun⟩ := of_cons h
      rw [step_append] at hx hrun
      subst hx
      obtain ⟨ds₁, ds₂, u, rfl, hfirst, hrest⟩ := ih hrun
      exact ⟨_ :: ds₁, ds₂, u, rfl, .cons hfirst, hrest⟩

/-- An event on its way is handed to one listener after the other. -/
theorem handed_of_deliver {ls : List (Subscription η)}
    (h : d.Runs (s, ls.map (.deliver · e)) ds (t, [])) :
    ∃ dss, ds = dss.flatten ∧ d.Handed e ls s dss t := by
  induction ls generalizing s ds with
  | nil =>
    cases h
    exact ⟨[], rfl, .nil _⟩
  | cons l ls ih =>
    have hparts : d.Runs (s, [.deliver l e] ++ ls.map (.deliver · e)) ds (t, []) := h
    obtain ⟨ds₁, ds₂, u, rfl, hfirst, hrest⟩ := hparts.parts
    obtain ⟨dss, rfl, hhanded⟩ := ih hrest
    cases hfirst with
    | cons hfirst =>
      rw [step_deliver, List.append_nil] at hfirst
      exact ⟨_ :: dss, rfl, .cons hfirst hhanded⟩

/-- **The law of delivery.** When an event is published, everything that is done until whatever
comes behind it has its turn is that it is handed to those who listen at that moment. -/
theorem handed (h : d.Runs (s, .publish e :: ws) ds (t, [])) : ∃ dss rest u,
    ds = ⟨s, .publish e, d.announce e s⟩ :: (dss.flatten ++ rest) ∧
      d.Handed e ((d.registry s).listening e.topic) (d.announce e s) dss u ∧
        d.Runs (u, ws) rest (t, []) := by
  cases h with
  | cons h =>
    rw [step_publish] at h
    obtain ⟨ds₁, rest, u, rfl, hfirst, hrest⟩ := parts h
    obtain ⟨dss, rfl, hhanded⟩ := handed_of_deliver hfirst
    exact ⟨dss, rest, u, rfl, hhanded, hrest⟩

end Runs

/-- **What every step keeps, a run keeps.** -/
theorem Runs.keeps {P : σ → Prop} (hstep : ∀ s w ws, P s → P (d.step (s, w :: ws)).1)
    (h : d.Runs c ds c') (hc : P c.1) : P c'.1 := by
  induction h with
  | nil => exact hc
  | cons _ ih => exact ih (hstep _ _ _ hc)

namespace Handed

variable {ls ls' : List (Subscription η)} {dss : List (List (Deed σ η ω))}

/-- What every step keeps is kept. -/
theorem keeps {P : σ → Prop} (hstep : ∀ s w ws, P s → P (d.step (s, w :: ws)).1)
    (h : d.Handed e ls s dss t) (hs : P s) : P t := by
  induction h with
  | nil => exact hs
  | cons hruns _ ih => exact ih (hruns.keeps hstep (hstep _ (.deliver _ e) [] hs))

/-- Those who come first are handed an event first. -/
theorem exists_of_append (h : d.Handed e (ls ++ ls') s dss t) : ∃ dss₁ dss₂ u,
    dss = dss₁ ++ dss₂ ∧ d.Handed e ls s dss₁ u ∧ d.Handed e ls' u dss₂ t := by
  induction ls generalizing s dss with
  | nil => exact ⟨[], dss, s, rfl, .nil s, h⟩
  | cons l ls ih =>
    cases h with
    | cons hruns h =>
      obtain ⟨dss₁, dss₂, u, rfl, hfirst, hrest⟩ := ih h
      exact ⟨_ :: dss₁, dss₂, u, rfl, .cons hruns hfirst, hrest⟩

/-- What is done for somebody begins with the delivery. -/
theorem exists_of_mem (h : d.Handed e ls s dss t) {x : Deed σ η ω} (hx : (x :: ds) ∈ dss) :
    ∃ l ∈ ls, x.work = .deliver l e := by
  induction h with
  | nil => cases hx
  | cons _ _ ih =>
    rcases List.mem_cons.mp hx with hx | hx
    · cases hx
      exact ⟨_, List.mem_cons_self, rfl⟩
    · obtain ⟨l, hl, hwork⟩ := ih hx
      exact ⟨l, List.mem_cons_of_mem _ hl, hwork⟩

end Handed

/-- What at most a number of steps does. -/
def deeds (d : Delivery σ η ω) : Nat → σ × List (Work η ω) → List (Deed σ η ω)
  | 0, _ => []
  | _, (_, []) => []
  | n + 1, (s, w :: ws) => ⟨s, w, (d.step (s, w :: ws)).1⟩ :: d.deeds n (d.step (s, w :: ws))

/-- A run for a number of steps is written down. -/
theorem runs_deeds (d : Delivery σ η ω) (n : Nat) (c : σ × List (Work η ω)) :
    d.Runs c (d.deeds n c) (d.run n c) := by
  induction n generalizing c with
  | zero => exact .nil c
  | succ n ih =>
    obtain ⟨s, _ | ⟨w, ws⟩⟩ := c
    · rw [run_nil]
      exact .nil _
    · exact .cons (ih (d.step (s, w :: ws)))

end Delivery

end Parley
