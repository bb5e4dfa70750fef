import Mathlib.Data.List.Nodup
import Parley.Proofs.Bus.Books

/-!
# A switchboard comes to rest

Listeners give orders while an event is handed to them, and some of these orders make new listeners.
Still everything comes to an end, because a standing order is carried out a limited number of times:
what is carried out now was outstanding before, and whoever is new had to be subscribed by one of the
orders that were outstanding. So the orders that are outstanding (`Parley.Switchboard.outstanding`),
together with those who listen, never get more, and the bound of `Parley.Switchboard.workBound`
suffices (`Parley.Switchboard.run_workBound`).

Those whose subscription was ended count as well until what they were promised is handed to them,
which is why the registry alone is not enough to count with (`Parley.Switchboard.Left`).
-/

namespace Parley

namespace Switchboard

open Numeral

/-- The most orders that subscriptions still have carried out. -/
def standing (b : Switchboard) (ss : List (Subscription NamedListener)) : Nat :=
  total (ss.map fun s => b.runsLeft s.id * Order.weights s.listener.orders)

/-- The most orders that are carried out on account of something to do. -/
def orderWeight : Work NamedListener Duty → Nat
  | .act (.order _ o) => o.weight
  | _ => 0

/-- All orders that are still carried out, at most. -/
def outstanding (b : Switchboard) (ss : List (Subscription NamedListener)) (ws : Duties) : Nat :=
  b.standing ss + total (ws.map orderWeight)

/-- What something to do takes besides orders, if never more than a number listen. -/
def steps (listeners : Nat) : Work NamedListener Duty → Nat
  | .publish _ => listeners + 1
  | .deliver _ _ => 1
  | .act (.give _ _) => 1
  | .act (.order _ _) => 0

/-- At most `m` things are done before a switchboard rests, if never more than `n` listen. Those in
`ss` listen, or have something handed to them yet. -/
structure LeftOf (ss : List (Subscription NamedListener)) (n m : Nat) (b : Switchboard)
    (ws : Duties) : Prop where
  nodup : (ss.map (·.id)).Nodup
  id_lt : ∀ s ∈ ss, s.id < b.registry.next
  listening : b.registry.subscriptions ⊆ ss
  pending : ∀ s e, Work.deliver s e ∈ ws → s ∈ ss
  length_le : b.registry.subscriptions.length + outstanding b ss ws ≤ n
  le : outstanding b ss ws * (n + 3) + total (ws.map (steps n)) ≤ m

/-- At most `m` things are done before a switchboard rests, if never more than `n` listen. -/
def Left (n m : Nat) (c : Switchboard × Duties) : Prop := ∃ ss, LeftOf ss n m c.1 c.2

/-! ### What is outstanding -/

/-- Nobody listens who did not before. -/
structure Thins (b b' : Switchboard) : Prop where
  next : b'.registry.next = b.registry.next
  runs : b'.runs = b.runs
  sublist : b'.registry.subscriptions.Sublist b.registry.subscriptions

/-- A subscription with orders for a number of events joins those who listen. -/
def join (b : Switchboard) (topic : Topic) (l : NamedListener) (limit : Nat) : Switchboard :=
  { b with registry := b.registry.subscribe topic l, runs := (b.registry.next, limit) :: b.runs }

theorem outstanding_eq_of_runs {b b' : Switchboard} (h : b'.runs = b.runs)
    (ss : List (Subscription NamedListener)) (ws : Duties) :
    outstanding b' ss ws = outstanding b ss ws := by
  simp only [outstanding, standing, runsLeft, h]

/-- A new subscription has the orders outstanding that it was given. -/
theorem outstanding_join (b : Switchboard) {ss : List (Subscription NamedListener)}
    (hss : ∀ s ∈ ss, s.id < b.registry.next) (topic : Topic) (l : NamedListener) (limit : Nat)
    (ws : Duties) :
    outstanding (b.join topic l limit) (⟨b.registry.next, topic, l⟩ :: ss) ws =
      limit * Order.weights l.orders + outstanding b ss ws := by
  have hothers : standing (b.join topic l limit) ss = standing b ss := by
    refine congrArg total (List.map_congr_left fun s hs => ?_)
    rw [runsLeft, join, List.find?_cons, beq_eq_false_iff_ne.mpr (Nat.ne_of_gt (hss s hs))]
    rfl
  have hself : (b.join topic l limit).runsLeft b.registry.next = limit := by
    rw [runsLeft, join, List.find?_cons, beq_self_eq_true]
    rfl
  rw [outstanding, standing, List.map_cons, total_cons, hself, ← standing, hothers, outstanding,
    Nat.add_assoc]

/-- What is done leaves less if it takes more steps off than it adds, where each of the orders that
it takes off the outstanding ones stands for as many as an order can cause. -/
theorem LeftOf.step {ss : List (Subscription NamedListener)} {n m k : Nat} {b b' : Switchboard}
    {w : Work NamedListener Duty} {ws next : Duties} (h : LeftOf ss n m b (w :: ws))
    (ss' : List (Subscription NamedListener))
    (hnodup : (ss'.map (·.id)).Nodup) (hid : ∀ s ∈ ss', s.id < b'.registry.next)
    (hlistening : b'.registry.subscriptions ⊆ ss') (hss : ss ⊆ ss')
    (hpending : ∀ s e, Work.deliver s e ∈ next → s ∈ ss')
    (hlength : b'.registry.subscriptions.length ≤ b.registry.subscriptions.length + k)
    (hout : outstanding b' ss' (next ++ ws) + k = outstanding b ss (w :: ws))
    (hsteps : total (next.map (steps n)) < k * (n + 3) + steps n w) :
    ∃ m' < m, Left n m' (b', next ++ ws) := by
  have hle := h.le
  have hn := h.length_le
  rw [← hout, Nat.add_mul, List.map_cons, total_cons] at hle
  refine ⟨outstanding b' ss' (next ++ ws) * (n + 3) + total ((next ++ ws).map (steps n)), ?_,
    ss', hnodup, hid, hlistening, fun s e hmem => ?_, ?_, Nat.le_refl _⟩
  · rw [List.map_append, total_append]
    omega
  · rcases List.mem_append.mp hmem with hmem | hmem
    · exact hpending s e hmem
    · exact hss (h.pending s e (List.mem_cons_of_mem w hmem))
  · change b'.registry.subscriptions.length + outstanding b' ss' (next ++ ws) ≤ n
    omega

variable {n m : Nat} {b : Switchboard} {ws : Duties}

/-- An order that subscribes stands for what the new subscription may have carried out. -/
theorem LeftOf.join {ss : List (Subscription NamedListener)} {b' : Switchboard}
    {name : Option String} {o : Order} {r : OrderResult} {topic : Topic} {l : NamedListener}
    {limit : Nat} (h : LeftOf ss n m b (.act (.order name o) :: ws))
    (hlt : limit * Order.weights l.orders < o.weight) (hthins : Thins (b.join topic l limit) b') :
    ∃ m' < m, Left n m' (b', [.act (.give name r)] ++ ws) := by
  obtain ⟨k, hk⟩ := Nat.exists_eq_add_of_lt hlt
  have hlistening : b'.registry.subscriptions ⊆
      b.registry.subscriptions ++ [⟨b.registry.next, topic, l⟩] := hthins.sublist.subset
  have hlength : b'.registry.subscriptions.length ≤ b.registry.subscriptions.length + 1 := by
    simpa [Switchboard.join, Registry.subscribe] using hthins.sublist.length_le
  have hnext : b'.registry.next = b.registry.next + 1 := hthins.next
  refine h.step (⟨b.registry.next, topic, l⟩ :: ss) (k := k + 1) ?_ ?_ ?_
    (List.subset_cons_self _ _) ?_ (by omega) ?_ ?_
  · refine List.nodup_cons.mpr ⟨fun hmem => ?_, h.nodup⟩
    obtain ⟨s, hs, hid⟩ := List.mem_map.mp hmem
    exact absurd hid (Nat.ne_of_lt (h.id_lt s hs))
  · rw [hnext]
    rintro s (_ | ⟨_, hs⟩)
    · exact Nat.lt_succ_self _
    · exact Nat.lt_succ_of_lt (h.id_lt s hs)
  · intro s hs
    rcases List.mem_append.mp (hlistening hs) with hs | hs
    · exact List.mem_cons_of_mem _ (h.listening hs)
    · exact List.mem_singleton.mp hs ▸ List.mem_cons_self
  · intro s e hmem
    cases List.mem_singleton.mp hmem
  · rw [outstanding_eq_of_runs hthins.runs, outstanding_join b h.id_lt]
    simp only [outstanding, List.cons_append, List.nil_append, List.map_cons, total_cons,
      orderWeight]
    omega
  · simp only [List.map_cons, List.map_nil, total_cons, total_nil, steps, Nat.add_mul]
    omega

end Switchboard

end Parley
