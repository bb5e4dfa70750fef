import Mathlib.Data.List.Nodup
import Parley.Proofs.App.Turn

/-!
# The affairs of a conversation

Most of what an app does is none of the conversation's business: artifacts come and go, the canvas
opens, observers hear of it. `Parley.App.affairs` is what is left of an app, and of what it has to
do, if one looks at the conversation alone: the conversation itself, the tasks, and what was saved
and what failed according to the trace.

Nothing here is about a particular step. The equations say what the small changes of which every
step is made come to in the affairs, and `Parley.Affairs.stage?` is how a task is found there: as
long as names are not given twice (`Parley.Affairs.Named`) the tasks are a finite map.
-/

namespace Parley

/-- What concerns a conversation and its session. -/
structure Affairs where
  pipeline : Pipeline
  tasks : List Task
  nextTask : Nat
  canSpawn : Bool
  savedGeneration : Nat
  saving : Option Nat
  /-- The sessions that were handed over to be saved, each with its generation, latest first. -/
  saves : List (Nat × SavedSession)
  /-- The tasks whose question failed. -/
  failures : List (Nat × BannerKind)
  /-- The tasks whose reply is being published, each with its generation and the number of the
  conversation if it is new. -/
  closing : List (Nat × Nat × Option Int)

/-! ### What the trace and the list of things to do say -/

/-- The session that was handed over. -/
def Observation.save? : Observation → Option (Nat × SavedSession)
  | .saved g s => some (g, s)
  | _ => none

/-- The task whose question failed. -/
def Observation.failure? : Observation → Option (Nat × BannerKind)
  | .ended n (.sent (.failed k)) => some (n, k)
  | _ => none

theorem Observation.eq_of_failure? {o : Observation} {n : Nat} {k : BannerKind}
    (h : o.failure? = some (n, k)) : o = .ended n (.sent (.failed k)) := by
  unfold failure? at h
  split at h
  · cases h
    rfl
  · cases h

/-- The reply that is to be concluded. -/
def closing? : Work Listener Act → Option (Nat × Nat × Option Int)
  | .act (.conclude n g adopted) => some (n, g, adopted)
  | _ => none

theorem eq_of_closing? {w : Work Listener Act} {n g : Nat} {adopted : Option Int}
    (h : closing? w = some (n, g, adopted)) : w = .act (.conclude n g adopted) := by
  unfold closing? at h
  split at h
  · cases h
    rfl
  · cases h

namespace App

/-- The sessions that were handed over to be saved, latest first. -/
def saves (a : App) : List (Nat × SavedSession) := a.trace.filterMap Observation.save?

/-- The session that was handed over last. -/
def lastSaved? (a : App) : Option SavedSession := a.saves.head?.map (·.2)

/-- An app in which nothing has happened to the conversation. -/
structure IsFresh (a : App) : Prop where
  pipeline : a.pipeline = {}
  tasks : a.tasks = []
  saving : a.saving = none
  savedGeneration : a.savedGeneration = 0
  saves : a.saves = []

/-- An app that is alone, with nobody on its bus. -/
def blank : App where
  profile := ⟨none, 1, 10⟩
  plotter := none
  canSpawn := true
  supply := default

theorem isFresh_blank : blank.IsFresh := ⟨rfl, rfl, rfl, rfl, rfl⟩

theorem IsFresh.enlist {a : App} (ha : a.IsFresh) (part : Part) (l : Listener) (topic : Topic) :
    (a.enlist part l topic).IsFresh :=
  ⟨ha.pipeline, ha.tasks, ha.saving, ha.savedGeneration, ha.saves⟩

theorem IsFresh.note {a : App} (ha : a.IsFresh) (n : Note) : (a.note n).IsFresh :=
  ⟨ha.pipeline, ha.tasks, ha.saving, ha.savedGeneration, ha.saves⟩

/-- **An app is fresh once its parts are on the bus.** -/
theorem IsFresh.mount {a : App} (ha : a.IsFresh) (address : String) :
    (a.mount address).IsFresh := by
  suffices h : ∀ (seats : List (Part × Listener × Topic)) (b : App), b.IsFresh →
      (seats.foldl (fun b seat => b.enlist seat.1 seat.2.1 seat.2.2) b).IsFresh from
    (h seats a ha).note _
  intro seats
  induction seats with
  | nil => exact fun b hb => hb
  | cons seat seats ih =>
    intro b hb
    rw [List.foldl_cons]
    exact ih _ (hb.enlist seat.1 seat.2.1 seat.2.2)

/-- The affairs of an app with something to do. -/
def affairs (a : App) (ws : Errands) : Affairs where
  pipeline := a.pipeline
  tasks := a.tasks
  nextTask := a.nextTask
  canSpawn := a.canSpawn
  savedGeneration := a.savedGeneration
  saving := a.saving
  saves := a.saves
  failures := a.trace.filterMap Observation.failure?
  closing := ws.filterMap closing?

end App

/-- The entries of a conversation are waited for. -/
def Stage.isLoading : Stage → Bool
  | .awaitEntries _ _ _ _ => true
  | _ => false

namespace Affairs

/-- The stage of the task of a name. -/
def stage? (A : Affairs) (n : Nat) : Option Stage :=
  (A.tasks.find? (·.name = n)).map Task.stage

/-- Puts a task into a stage. -/
def put (A : Affairs) (n : Nat) (s : Stage) : Affairs :=
  { A with tasks := A.tasks.map fun t => if t.name = n then { t with stage := s } else t }

/-- Removes a task that has come to its end. -/
def drop (A : Affairs) (n : Nat) (o : Outcome) : Affairs :=
  { A with
    tasks := A.tasks.filter (·.name ≠ n)
    failures := (Observation.ended n o).failure?.toList ++ A.failures }

/-- Adds a task. -/
def add (A : Affairs) (s : Stage) : Affairs :=
  { A with tasks := A.tasks ++ [⟨A.nextTask, s⟩], nextTask := A.nextTask + 1 }

/-- Adds a task in the background, if there is something to run it. -/
def spawn (A : Affairs) (s : Stage) : Affairs := if A.canSpawn then A.add s else A

end Affairs

namespace Affairs

variable (A : Affairs) (s : Stage)

@[simp] theorem pipeline_spawn : (A.spawn s).pipeline = A.pipeline := by
  unfold spawn
  split <;> rfl

@[simp] theorem failures_spawn : (A.spawn s).failures = A.failures := by
  unfold spawn
  split <;> rfl

end Affairs

/-! ### Small changes, in the affairs -/

namespace App

variable (a : App) (ws : Errands)

@[simp] theorem stage?_affairs (n : Nat) : (a.affairs ws).stage? n = a.stage? n := rfl

@[simp] theorem affairs_note (n : Note) : (a.note n).affairs ws = a.affairs ws := rfl

@[simp] theorem affairs_notes (ns : List Note) : (a.notes ns).affairs ws = a.affairs ws := by
  induction ns generalizing a with
  | nil => rfl
  | cons n ns ih => exact ih (a.note n)

theorem affairs_setStage (n : Nat) (s : Stage) :
    (a.setStage n s).affairs ws = (a.affairs ws).put n s := rfl

theorem affairs_endTask (n : Nat) (o : Outcome) :
    (a.endTask n o).affairs ws = (a.affairs ws).drop n o := by
  simp only [affairs, Affairs.drop, endTask, observe, saves, List.filterMap_cons]
  cases (Observation.ended n o).failure? <;> rfl

theorem affairs_unsubscribe (id : Nat) : (a.unsubscribe id).affairs ws = a.affairs ws := by
  unfold unsubscribe
  split <;> rfl

theorem affairs_dismissPart (part : Part) : (a.dismissPart part).affairs ws = a.affairs ws := by
  have h : ∀ (ids : List Nat) (b : App), (ids.foldl unsubscribe b).affairs ws = b.affairs ws := by
    intro ids
    induction ids with
    | nil => exact fun _ => rfl
    | cons id ids ih => exact fun b => (ih _).trans (affairs_unsubscribe b ws id)
  exact h _ _

theorem affairs_changeCanvas (f : Canvas → Canvas) :
    (a.changeCanvas f).1.affairs ws = a.affairs ws :=
  affairs_notes _ ws _

theorem affairs_openArtifact (id : String) :
    (a.openArtifact id).1.affairs ws = a.affairs ws := by
  unfold openArtifact
  split
  · exact affairs_changeCanvas a ws (·.select _)
  · rfl

theorem affairs_ingest (batch : List Artifact) : (a.ingest batch).1.affairs ws = a.affairs ws :=
  affairs_notes _ ws _

theorem affairs_clearStore : a.clearStore.affairs ws = a.affairs ws :=
  affairs_notes _ ws _

/-- What is published is not seen, and neither are the commands of observers. -/
theorem affairs_append {vs : Errands} (h : vs.filterMap closing? = []) (us : Errands) :
    a.affairs (us ++ (vs ++ ws)) = a.affairs (us ++ ws) := by
  simp [affairs, h]

end App

/-! ### Finding tasks -/

namespace Affairs

variable {A : Affairs} {m n : Nat} {s : Stage}

/-- A task that is found has the name it was looked for by. -/
theorem exists_of_stage? (h : A.stage? n = some s) : ∃ t ∈ A.tasks, t.name = n ∧ t.stage = s := by
  obtain ⟨t, ht, rfl⟩ := Option.map_eq_some_iff.mp h
  exact ⟨t, List.mem_of_find?_eq_some ht, by simpa using List.find?_some ht, rfl⟩

/-- Without tasks there is none to be found. -/
theorem stage?_of_tasks_eq_nil (h : A.tasks = []) (n : Nat) : A.stage? n = none := by
  rw [stage?, h]
  rfl

theorem stage?_put (A : Affairs) (m n : Nat) (s : Stage) : (A.put n s).stage? m =
    if m = n then (A.stage? m).map fun _ => s else A.stage? m := by
  have hname : ((fun t : Task => decide (t.name = m)) ∘
      fun t => if t.name = n then { t with stage := s } else t) =
      fun t => decide (t.name = m) := by
    funext t
    by_cases ht : t.name = n <;> simp [ht]
  simp only [stage?, put, List.find?_map, hname, Option.map_map]
  cases hfound : A.tasks.find? (·.name = m) with
  | none => simp
  | some t =>
    obtain rfl : t.name = m := by simpa using List.find?_some hfound
    by_cases ht : t.name = n <;> simp [ht]

theorem stage?_put_self (h : (A.stage? n).isSome) : (A.put n s).stage? n = some s := by
  obtain ⟨s', hs'⟩ := Option.isSome_iff_exists.mp h
  rw [stage?_put, if_pos rfl, hs', Option.map_some]

theorem stage?_put_of_ne (h : m ≠ n) : (A.put n s).stage? m = A.stage? m := by
  rw [stage?_put, if_neg h]

/-- A task that is found after one came to a stage is the one, or it was there before. -/
theorem stage?_of_put {s' : Stage} (h : (A.put n s).stage? m = some s') :
    m = n ∧ s' = s ∨ m ≠ n ∧ A.stage? m = some s' := by
  rw [stage?_put] at h
  split at h
  · rename_i hmn
    obtain ⟨-, -, rfl⟩ := Option.map_eq_some_iff.mp h
    exact .inl ⟨hmn, rfl⟩
  · rename_i hmn
    exact .inr ⟨hmn, h⟩

theorem stage?_drop (A : Affairs) (m n : Nat) (o : Outcome) :
    (A.drop n o).stage? m = if m = n then none else A.stage? m := by
  simp only [stage?, drop, List.find?_filter]
  by_cases h : m = n
  · subst h
    simp
  · rw [if_neg h]
    congr 2
    funext t
    by_cases ht : t.name = m <;> simp [ht, h]

theorem stage?_drop_self {o : Outcome} : (A.drop n o).stage? n = none := by
  rw [stage?_drop, if_pos rfl]

theorem stage?_drop_of_ne {o : Outcome} (h : m ≠ n) : (A.drop n o).stage? m = A.stage? m := by
  rw [stage?_drop, if_neg h]

/-- A task that is found after one ended was there before. -/
theorem stage?_of_drop {o : Outcome} (h : (A.drop n o).stage? m = some s) :
    m ≠ n ∧ A.stage? m = some s := by
  rw [stage?_drop] at h
  split at h
  · cases h
  · rename_i hmn
    exact ⟨hmn, h⟩

theorem stage?_add (A : Affairs) (m : Nat) (s : Stage) : (A.add s).stage? m =
    (A.stage? m).or (if m = A.nextTask then some s else none) := by
  simp only [stage?, add, List.find?_append]
  by_cases h : m = A.nextTask
  · subst h
    cases A.tasks.find? _ <;> simp
  · have h' : A.nextTask ≠ m := fun e => h e.symm
    cases A.tasks.find? _ <;> simp [h, h']

/-- A task that is there is left alone by one that is added. -/
theorem stage?_add_of_lt (h : n < A.nextTask) : (A.add s).stage? n = A.stage? n := by
  rw [stage?_add, if_neg (Nat.ne_of_lt h), Option.or_none]

theorem stage?_spawn_of_lt (h : n < A.nextTask) : (A.spawn s).stage? n = A.stage? n := by
  unfold spawn
  split
  · exact stage?_add_of_lt h
  · rfl

/-- A task that is found is kept by one that is added. -/
theorem stage?_spawn_of_some {s' : Stage} (h : A.stage? n = some s) :
    (A.spawn s').stage? n = some s := by
  unfold spawn
  split
  · rw [stage?_add, h, Option.some_or]
  · exact h

/-- A task that is found after one is added was there before, or it is the one. -/
theorem stage?_of_spawn {s' : Stage} (h : (A.spawn s').stage? n = some s) :
    A.stage? n = some s ∨ s = s' := by
  unfold spawn at h
  split at h
  · rw [stage?_add, Option.or_eq_some_iff] at h
    rcases h with h | ⟨-, h⟩
    · exact .inl h
    · split at h
      · exact .inr (Option.some.inj h).symm
      · cases h
  · exact .inl h

theorem nextTask_le_spawn (A : Affairs) (s : Stage) : A.nextTask ≤ (A.spawn s).nextTask := by
  unfold spawn
  split
  · exact Nat.le_succ _
  · exact Nat.le_refl _

/-- Names are given in their order, each of them once. -/
structure Named (A : Affairs) : Prop where
  nodup : (A.tasks.map Task.name).Nodup
  lt : ∀ t ∈ A.tasks, t.name < A.nextTask

namespace Named

theorem stage?_eq_none (hA : A.Named) (h : A.nextTask ≤ n) : A.stage? n = none := by
  cases hs : A.stage? n with
  | none => rfl
  | some s =>
    obtain ⟨t, ht, rfl, -⟩ := exists_of_stage? hs
    have := hA.lt t ht
    omega

/-- Under names that are given once, the tasks are a finite map. -/
theorem mem_tasks_iff (hA : A.Named) {t : Task} :
    t ∈ A.tasks ↔ A.stage? t.name = some t.stage := by
  constructor
  · intro ht
    cases hfound : A.tasks.find? (·.name = t.name) with
    | none => simpa using List.find?_eq_none.mp hfound t ht
    | some u =>
      have hu : u.name = t.name := by simpa using List.find?_some hfound
      obtain rfl := List.inj_on_of_nodup_map hA.nodup (List.mem_of_find?_eq_some hfound) ht hu
      rw [stage?, hfound, Option.map_some]
  · intro h
    obtain ⟨u, hu, hname, hstage⟩ := exists_of_stage? h
    obtain ⟨name, stage⟩ := t
    obtain ⟨rfl, rfl⟩ : u.name = name ∧ u.stage = stage := ⟨hname, hstage⟩
    exact hu

theorem put (hA : A.Named) (n : Nat) (s : Stage) : (A.put n s).Named := by
  have hnames : (A.put n s).tasks.map Task.name = A.tasks.map Task.name := by
    simp only [Affairs.put, List.map_map]
    refine List.map_congr_left fun t _ => ?_
    by_cases ht : t.name = n <;> simp [ht]
  refine ⟨hnames ▸ hA.nodup, fun t ht => ?_⟩
  obtain ⟨u, hu, hname⟩ := List.mem_map.mp (hnames ▸ List.mem_map_of_mem ht)
  exact hname ▸ hA.lt u hu

theorem drop (hA : A.Named) (n : Nat) (o : Outcome) : (A.drop n o).Named :=
  ⟨hA.nodup.sublist (List.filter_sublist.map _),
    fun t ht => hA.lt t ((List.mem_filter.mp ht).1)⟩

theorem add (hA : A.Named) (s : Stage) : (A.add s).Named := by
  have hlt : ∀ t ∈ A.tasks ++ [⟨A.nextTask, s⟩], t.name < A.nextTask + 1 := by
    intro t ht
    rcases List.mem_append.mp ht with ht | ht
    · exact Nat.lt_succ_of_lt (hA.lt t ht)
    · obtain rfl := List.mem_singleton.mp ht
      exact Nat.lt_succ_self _
  refine ⟨?_, hlt⟩
  have hfresh : A.nextTask ∉ A.tasks.map Task.name := by
    intro hmem
    obtain ⟨t, ht, hname⟩ := List.mem_map.mp hmem
    exact absurd (hA.lt t ht) (by omega)
  have hne : ∀ t ∈ A.tasks, t.name ≠ A.nextTask := fun t ht h => hfresh (h ▸ List.mem_map_of_mem ht)
  simpa [Affairs.add, List.nodup_append] using ⟨hA.nodup, hne⟩

end Named

end Affairs

end Parley
