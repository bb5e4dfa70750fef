import Parley.Chat.Pipeline

/-!
# Generations count from anywhere

A conversation compares its generation with the one that something belongs to, and goes on to the
next; it does nothing else with it. So it is of no account where generations are counted from: a
conversation that is some generations *ahead* of another (`Parley.Pipeline.ahead`) does the same, as
long as what comes back to it is ahead by as much. What is not ahead, because it belongs to a time
before, is stale.
-/

namespace Parley

namespace Pipeline

variable (p : Pipeline) {k g : Nat}

/-- The same conversation, some generations ahead. -/
def ahead (k : Nat) : Pipeline := { p with generation := p.generation + k }

theorem reset_ahead : (p.ahead k).reset = p.reset.ahead k := by
  simp only [reset, ahead, Nat.add_right_comm]

theorem startLoad_ahead : (p.ahead k).startLoad = p.startLoad.ahead k := by
  simp only [startLoad, ahead, Nat.add_right_comm]

theorem send?_ahead (persona : Option String) (text : String) (s : Supply) :
    (p.ahead k).send? persona text s =
      (p.send? persona text s).map fun x => (x.1.ahead k, x.2) := by
  unfold send?
  rw [apply_ite (Option.map fun x : Pipeline × Question × Supply => (x.1.ahead k, x.2))]
  rfl

theorem retry?_ahead (persona : Option String) :
    Pipeline.retry? (p.ahead k) persona =
      ( p.retry? persona).map fun x => (x.1.ahead k, x.2) := by
  unfold retry?
  rw [apply_ite (Option.map fun x : Pipeline × Question => (x.1.ahead k, x.2)), Option.map_map]
  rfl

theorem pose_ahead : (p.ahead k).pose (g + k) = (p.pose g).ahead k := by
  simp only [pose, ahead, Nat.add_right_cancel_iff]
  split <;> rfl

/-- A question of a time before is put, and that is all. -/
theorem pose_of_lt (hg : g < k) : (p.ahead k).pose g = p.ahead k := by
  refine if_neg ?_
  simp only [ahead]
  omega

theorem isStale_ahead : (p.ahead k).isStale (g + k) = p.isStale g := by
  simp only [isStale, ahead]
  congr 1
  rw [Bool.eq_iff_iff]
  simp

theorem isStale_of_lt (hg : g < k) : (p.ahead k).isStale g = true := by
  simp only [isStale, ahead, Bool.or_eq_true, bne_iff_ne, ne_eq]
  omega

/-- What comes of an answer that is stale. -/
theorem receive_of_isStale (hg : p.isStale g = true) (r : Except Failure Reply) (s : Supply) :
    p.receive g r s = (p, .stale, [⟨.debug, "Discarding stale reply"⟩], s) :=
  if_pos hg

theorem receiveEntries_of_isStale (hg : p.isStale g = true) (id : Int)
    (r : Except Failure (List HistoryEntry)) (s : Supply) :
    p.receiveEntries id g r s =
      (p, .stale, [⟨.debug, "Discarding stale history for " ++ numberText id⟩], s) :=
  if_pos hg

/-- **The answer to a question comes to the same ahead.** -/
theorem receive_ahead (r : Except Failure Reply) (s : Supply) :
    (p.ahead k).receive (g + k) r s =
      ((p.receive g r s).1.ahead k, (p.receive g r s).2) := by
  unfold receive
  rw [isStale_ahead]
  split
  · rfl
  · dsimp only
    split <;> rfl

theorem receiveEntries_ahead (id : Int) (r : Except Failure (List HistoryEntry)) (s : Supply) :
    (p.ahead k).receiveEntries id (g + k) r s =
      ((p.receiveEntries id g r s).1.ahead k, (p.receiveEntries id g r s).2) := by
  unfold receiveEntries
  rw [isStale_ahead]
  split
  · rfl
  · cases r <;> rfl

end Pipeline

end Parley
