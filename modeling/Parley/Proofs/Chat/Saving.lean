import Parley.Proofs.Chat.Exchange

/-!
# The session that is saved in the end

Whenever the number of a conversation is set, a session with it waits to be saved: in the background
when a new conversation starts, within the load that brought it, or after the reply that brought it
is published. Sessions are saved one at a time and in any order, except that none is saved after one
of a later generation. So the last one saved is of the generation in which the number was set last;
but a reply sets the number within the generation that there is. `Parley.App.lastSaved_iff` is what
comes of that: once there is nothing left to do, the session saved last has the number of the
conversation, unless it was *left behind* (`Parley.App.LeavesBehind`): it already waited when a
reply brought the number, and was carried out after all. A session that is cleared in the background
can be left behind like this (`Parley.App.lastSaved_of_late_clear`), but never by a load.

The invariant is `Parley.Saving`. It follows the generation in which the number was set last, and
says that a session with the number of the conversation is on its way in it, or else the session
saved last is of it.
-/

namespace Parley

/-- A session of the present generation waits to be saved. -/
def Affairs.Waits (A : Affairs) (session : SavedSession) : Prop :=
  ∃ n o, A.stage? n = some (.wantSave A.pipeline.generation session o)

namespace App

/-- An app in the middle of a turn, when a number of things are done. -/
def midTurn (a : App) (t : Turn) (n : Nat) : App × Errands := delivery.run n (a.enter t)

/-- In the course of the turns, and be it in the middle of one, the number of the conversation
changes. -/
def Renumbers (a₀ : App) (ts : List Turn) : Prop :=
  ∃ us t vs n, ts = us ++ t :: vs ∧
    ((a₀.run us).midTurn t n).1.pipeline.conversation ≠ (a₀.run us).pipeline.conversation

/-- A session waits to be saved, as in the affairs of the conversation. -/
def Waits (a : App) (session : SavedSession) : Prop := (a.affairs []).Waits session

/-- A session is left behind: it waited to be saved when a reply brought the number that the
conversation has had ever since. -/
def LeavesBehind (a₀ : App) (ts : List Turn) (session : SavedSession) : Prop :=
  ∃ us n r vs, ts = us ++ .answer n (.reply r) :: vs ∧ (a₀.run us).Waits session ∧
    (a₀.run us).pipeline.conversation ≠ (a₀.run ts).pipeline.conversation ∧
    ((a₀.run us).enter (.answer n (.reply r))).1.pipeline.conversation =
      (a₀.run ts).pipeline.conversation ∧
    ∀ vs', vs' <+: vs →
      (a₀.run (us ++ .answer n (.reply r) :: vs')).pipeline.conversation =
        (a₀.run ts).pipeline.conversation

end App

/-- A session is to be saved or is being saved. -/
def Stage.isSaving : Stage → Bool
  | .wantSave _ _ _ | .awaitSaved _ _ _ => true
  | _ => false

namespace Affairs

variable {A B : Affairs} {m n L : Nat} {s s₀ : Stage}

/-- A session of a generation with the number of the conversation is to be saved. -/
def Owes (A : Affairs) (L : Nat) : Prop :=
  (∃ n s o, A.stage? n = some (.wantSave L s o) ∧ s.conversation = A.pipeline.conversation) ∨
    ∃ n id, (n, L, some id) ∈ A.closing ∧ A.pipeline.conversation = some id

/-- A task that saves nothing comes to another such stage. -/
theorem saving_put (hn : A.stage? n = some s₀) (hs₀ : s₀.isSaving = false)
    (hs : s.isSaving = false) {s' : Stage} (hs' : s'.isSaving = true) :
    (A.put n s).stage? m = some s' ↔ A.stage? m = some s' := by
  refine ⟨fun h => ?_, fun h => ?_⟩
  · rcases stage?_of_put h with ⟨-, rfl⟩ | ⟨-, h⟩
    · cases hs.symm.trans hs'
    · exact h
  · rwa [stage?_put_of_ne]
    rintro rfl
    obtain rfl := Option.some.inj (hn.symm.trans h)
    cases hs₀.symm.trans hs'

theorem saving_drop {o : Outcome} (hn : A.stage? n = some s₀) (hs₀ : s₀.isSaving = false)
    {s' : Stage} (hs' : s'.isSaving = true) :
    (A.drop n o).stage? m = some s' ↔ A.stage? m = some s' := by
  refine ⟨fun h => (stage?_of_drop h).2, fun h => ?_⟩
  rwa [stage?_drop_of_ne]
  rintro rfl
  obtain rfl := Option.some.inj (hn.symm.trans h)
  cases hs₀.symm.trans hs'

theorem saving_add (hA : A.Named) (hs : s.isSaving = false) {s' : Stage}
    (hs' : s'.isSaving = true) : (A.add s).stage? m = some s' ↔ A.stage? m = some s' := by
  rw [stage?_add]
  split
  · rename_i hm
    rw [hm, hA.stage?_eq_none (Nat.le_refl _), Option.none_or]
    refine ⟨fun h => ?_, nofun⟩
    obtain rfl := Option.some.inj h
    cases hs.symm.trans hs'
  · rw [Option.or_none]

end Affairs

/-! ### The invariant -/

/-- How what is saved stands to the conversation: its number was set last in the generation `L`.
Of the sessions of that generation with another number, `P` holds. If anything was ever set (`T`),
the number is on its way or a session of `L` was saved last. -/
structure Saving (T : Prop) (P : SavedSession → Prop) (L : Nat) (A : Affairs) : Prop where
  canSpawn : A.canSpawn = true
  le : L ≤ A.pipeline.generation
  /-- A load sets the number in a generation in which it was not set. -/
  loading : ∀ n call id errand,
    A.stage? n = some (.awaitEntries call id A.pipeline.generation errand) →
      L < A.pipeline.generation
  waiting : ∀ n g s o, A.stage? n = some (.wantSave g s o) →
    g ≤ L ∧ (g = L → s.conversation = A.pipeline.conversation ∨ P s)
  closing : ∀ n g id, (n, g, some id) ∈ A.closing →
    g ≤ L ∧ (g = L → A.pipeline.conversation = some id)
  writing : ∀ n g s o, A.stage? n = some (.awaitSaved g s o) →
    A.saving = some n ∧ A.saves.head? = some (g, s)
  savedGeneration : A.savedGeneration ≤ L
  saved : ∀ g s, A.saves.head? = some (g, s) → g ≤ L ∧ A.savedGeneration ≤ g ∧
    (A.saving = none → A.savedGeneration = g) ∧
    (g = L → A.Owes L ∨ s.conversation = A.pipeline.conversation ∨ P s)
  owed : T → A.Owes L ∨ ∃ s, A.saves.head? = some (L, s)

namespace Saving

variable {T T' : Prop} {P P' : SavedSession → Prop} {L n : Nat} {A B : Affairs}

theorem of_isFresh {a : App} (ha : a.IsFresh) (hspawn : a.canSpawn = true) :
    Saving False P 0 (a.affairs []) := by
  have hnone : ∀ n, (a.affairs []).stage? n = none := Affairs.stage?_of_tasks_eq_nil ha.tasks
  have hsaves : (a.affairs []).saves = [] := ha.saves
  refine ⟨hspawn, Nat.zero_le _, fun n call id errand hs => ?_, fun n g s o hs => ?_,
    fun _ _ _ h => ?_, fun n g s o hs => ?_, Nat.le_of_eq ha.savedGeneration, fun g s h => ?_,
    False.elim⟩
  · cases (hnone n).symm.trans hs
  · cases (hnone n).symm.trans hs
  · cases h
  · cases (hnone n).symm.trans hs
  · rw [hsaves] at h
    cases h

theorem imp (hA : Saving T P L A) (hT : T' → T) (hP : ∀ s, P s → P' s) : Saving T' P' L A where
  canSpawn := hA.canSpawn
  le := hA.le
  loading := hA.loading
  waiting n g s o hs := ⟨(hA.waiting n g s o hs).1, fun hg =>
    ((hA.waiting n g s o hs).2 hg).imp_right (hP s)⟩
  closing := hA.closing
  writing := hA.writing
  savedGeneration := hA.savedGeneration
  saved g s h := by
    obtain ⟨hle, hsaved, hdone, hlast⟩ := hA.saved g s h
    exact ⟨hle, hsaved, hdone, fun hg => (hlast hg).imp_right (Or.imp_right (hP s))⟩
  owed h := hA.owed (hT h)

/-- **Nothing is set and nothing is saved**, whatever else is done. -/
theorem same (hA : Saving T P L A) (hspawn : B.canSpawn = A.canSpawn)
    (hgeneration : A.pipeline.generation ≤ B.pipeline.generation)
    (hconversation : B.pipeline.conversation = A.pipeline.conversation)
    (hloading : ∀ n call id errand,
      B.stage? n = some (.awaitEntries call id B.pipeline.generation errand) →
        L < B.pipeline.generation)
    (hstage : ∀ m s, s.isSaving = true → (B.stage? m = some s ↔ A.stage? m = some s))
    (hclosing : ∀ n g id, (n, g, some id) ∈ B.closing ↔ (n, g, some id) ∈ A.closing)
    (hsaving : B.saving = A.saving) (hsaves : B.saves = A.saves)
    (hsaved : B.savedGeneration = A.savedGeneration) : Saving T P L B := by
  have howes : A.Owes L → B.Owes L := by
    rintro (⟨n, s, o, hs, hnumber⟩ | ⟨n, id, hmem, hnumber⟩)
    · exact .inl ⟨n, s, o, (hstage n (.wantSave L s o) rfl).mpr hs,
        hnumber.trans hconversation.symm⟩
    · exact .inr ⟨n, id, (hclosing _ _ _).mpr hmem, hconversation.trans hnumber⟩
  refine ⟨hspawn.trans hA.canSpawn, Nat.le_trans hA.le hgeneration, hloading, fun n g s o hs => ?_,
    fun n g id h => ?_, fun n g s o hs => ?_, hsaved ▸ hA.savedGeneration, fun g s h => ?_,
    fun h => ?_⟩
  · rw [hconversation]
    exact hA.waiting n g s o ((hstage n (.wantSave g s o) rfl).mp hs)
  · rw [hconversation]
    exact hA.closing n g id ((hclosing n g id).mp h)
  · rw [hsaving, hsaves]
    exact hA.writing n g s o ((hstage n (.awaitSaved g s o) rfl).mp hs)
  · rw [hsaves] at h
    rw [hsaving, hsaved, hconversation]
    obtain ⟨hle, hsaved, hdone, hlast⟩ := hA.saved g s h
    exact ⟨hle, hsaved, hdone, fun hg => (hlast hg).imp_left howes⟩
  · rw [hsaves]
    exact (hA.owed h).imp_left howes

/-- A task that saves nothing comes to a stage at which it saves nothing and loads nothing. Of
what is being published, what brings no number may come or go. -/
theorem put {s s₀ : Stage} (hA : Saving T P L A) (hn : A.stage? n = some s₀)
    (hs₀ : s₀.isSaving = false) (hs : s.isSaving = false) (hs' : s.isLoading = false)
    {p : Pipeline} (hgeneration : p.generation = A.pipeline.generation)
    (hconversation : p.conversation = A.pipeline.conversation)
    {closing : List (Nat × Nat × Option Int)}
    (hclosing : ∀ n g id, (n, g, some id) ∈ closing ↔ (n, g, some id) ∈ A.closing) :
    Saving T P L ({ A with pipeline := p, closing }.put n s) := by
  refine hA.same rfl (Nat.le_of_eq hgeneration.symm) hconversation (fun m call id errand hm => ?_)
    (fun _ _ => Affairs.saving_put (A := { A with pipeline := p, closing }) hn hs₀ hs)
    hclosing rfl rfl rfl
  rcases Affairs.stage?_of_put hm with ⟨-, heq⟩ | ⟨-, hm⟩
  · rw [← heq] at hs'
    cases hs'
  · have hm : A.stage? m = some (.awaitEntries call id p.generation errand) := hm
    rw [hgeneration] at hm
    exact hgeneration ▸ hA.loading m call id errand hm

/-- A task that saves nothing ends. -/
theorem drop {s₀ : Stage} (hA : Saving T P L A) (hn : A.stage? n = some s₀)
    (hs₀ : s₀.isSaving = false) {o : Outcome} {p : Pipeline}
    (hgeneration : p.generation = A.pipeline.generation)
    (hconversation : p.conversation = A.pipeline.conversation)
    {closing : List (Nat × Nat × Option Int)}
    (hclosing : ∀ n g id, (n, g, some id) ∈ closing ↔ (n, g, some id) ∈ A.closing) :
    Saving T P L ({ A with pipeline := p, closing }.drop n o) := by
  refine hA.same rfl (Nat.le_of_eq hgeneration.symm) hconversation (fun m call id errand hm => ?_)
    (fun _ _ => Affairs.saving_drop (A := { A with pipeline := p, closing }) hn hs₀)
    hclosing rfl rfl rfl
  have hm : A.stage? m = some (.awaitEntries call id p.generation errand) :=
    (Affairs.stage?_of_drop hm).2
  rw [hgeneration] at hm
  exact hgeneration ▸ hA.loading m call id errand hm

/-- A task is added that saves nothing and loads nothing yet. -/
theorem add {s : Stage} (hA : Saving T P L A) (hO : A.Orderly) (hs : s.isSaving = false)
    (hs' : s.isLoading = false) : Saving T P L (A.add s) := by
  refine hA.same rfl (Nat.le_refl _) rfl (fun m call id errand hm => ?_)
    (fun _ _ => Affairs.saving_add hO.named hs) (fun _ _ _ => Iff.rfl) rfl rfl rfl
  have hspawn : A.spawn s = A.add s := if_pos hA.canSpawn
  have hm : (A.spawn s).stage? m = some (.awaitEntries call id A.pipeline.generation errand) :=
    hspawn ▸ hm
  rcases Affairs.stage?_of_spawn hm with hm | heq
  · exact hA.loading m call id errand hm
  · rw [← heq] at hs'
    cases hs'

/-- A load begins with a generation of its own, in which nothing is set before it arrives. -/
theorem load {s s₀ : Stage} (hA : Saving T P L A) (hn : A.stage? n = some s₀)
    (hs₀ : s₀.isSaving = false) (hs : s.isSaving = false) :
    Saving T P L ({ A with pipeline := A.pipeline.startLoad }.put n s) := by
  have hlt := Nat.lt_succ_of_le hA.le
  exact hA.same rfl (Nat.le_succ _) rfl (fun _ _ _ _ _ => hlt)
    (fun _ _ => Affairs.saving_put (A := { A with pipeline := A.pipeline.startLoad }) hn hs₀ hs)
    (fun _ _ _ => Iff.rfl) rfl rfl rfl

/-- **The number is set**, in the present generation. Whatever waits to be saved in it is either the
number that is set, or it waited before and is left behind. -/
theorem set {L' : Nat} (hA : Saving T P L A) (hle : L ≤ L')
    (hlate : L = L' → A.closing = [] ∧ ∀ n s o, A.stage? n = some (.wantSave L s o) → P' s)
    (hspawn : B.canSpawn = A.canSpawn) (hgeneration : B.pipeline.generation = L')
    (hloading : ∀ n call id errand, B.stage? n ≠ some (.awaitEntries call id L' errand))
    (hwaiting : ∀ n g s o, B.stage? n = some (.wantSave g s o) →
      A.stage? n = some (.wantSave g s o) ∨ g = L' ∧ s.conversation = B.pipeline.conversation)
    (hclosing : ∀ n g id, (n, g, some id) ∈ B.closing →
      (n, g, some id) ∈ A.closing ∨ g = L' ∧ B.pipeline.conversation = some id)
    (hwriting : ∀ n g s o,
      B.stage? n = some (.awaitSaved g s o) → A.stage? n = some (.awaitSaved g s o))
    (hsaving : B.saving = A.saving) (hsaves : B.saves = A.saves)
    (hsaved : B.savedGeneration = A.savedGeneration) (howes : B.Owes L') :
    Saving T' P' L' B where
  canSpawn := hspawn.trans hA.canSpawn
  le := Nat.le_of_eq hgeneration.symm
  loading n call id errand hs := absurd (hgeneration ▸ hs) (hloading n call id errand)
  waiting n g s o hs := by
    rcases hwaiting n g s o hs with hs | ⟨rfl, hnumber⟩
    · have hg := (hA.waiting n g s o hs).1
      refine ⟨Nat.le_trans hg hle, fun hgL => ?_⟩
      obtain rfl : g = L := by omega
      exact .inr ((hlate hgL).2 n s o hs)
    · exact ⟨Nat.le_refl _, fun _ => .inl hnumber⟩
  closing n g id h := by
    rcases hclosing n g id h with h | ⟨rfl, hnumber⟩
    · have hg := (hA.closing n g id h).1
      refine ⟨Nat.le_trans hg hle, fun hgL => ?_⟩
      rw [(hlate (by omega)).1] at h
      cases h
    · exact ⟨Nat.le_refl _, fun _ => hnumber⟩
  writing n g s o hs := by
    rw [hsaving, hsaves]
    exact hA.writing n g s o (hwriting n g s o hs)
  savedGeneration := hsaved ▸ Nat.le_trans hA.savedGeneration hle
  saved g s h := by
    rw [hsaves] at h
    obtain ⟨hg, hsavedLe, hdone, -⟩ := hA.saved g s h
    rw [hsaved, hsaving]
    exact ⟨Nat.le_trans hg hle, hsavedLe, hdone, fun _ => .inl howes⟩
  owed _ := .inl howes

/-- Starting anew sets the number in a generation of its own. -/
theorem reset {qs : List (Nat × Message)} (hA : Saving T P L A) (hO : A.Orderly)
    (hS : Sound qs A) :
    Saving T' P' (A.pipeline.generation + 1) ({ A with pipeline := A.pipeline.reset }.spawn
      (.wantSave (A.pipeline.generation + 1) {} .quiet)) := by
  have hle := hA.le
  have hspawn : { A with pipeline := A.pipeline.reset }.spawn
      (.wantSave (A.pipeline.generation + 1) {} .quiet) =
      { A with pipeline := A.pipeline.reset }.add
        (.wantSave (A.pipeline.generation + 1) {} .quiet) := if_pos hA.canSpawn
  have hnew : ({ A with pipeline := A.pipeline.reset }.add
      (.wantSave (A.pipeline.generation + 1) {} .quiet)).stage? A.nextTask =
      some (.wantSave (A.pipeline.generation + 1) {} .quiet) := by
    have hnone : ({ A with pipeline := A.pipeline.reset } : Affairs).stage? A.nextTask = none :=
      hO.named.stage?_eq_none (Nat.le_refl _)
    rw [Affairs.stage?_add, hnone, Option.none_or, if_pos rfl]
  have hold : ∀ {m s}, ({ A with pipeline := A.pipeline.reset }.spawn
      (.wantSave (A.pipeline.generation + 1) {} .quiet)).stage? m = some s →
      A.stage? m = some s ∨ s = .wantSave (A.pipeline.generation + 1) {} .quiet :=
    Affairs.stage?_of_spawn
  rw [hspawn] at hold ⊢
  refine hA.set (by omega) (fun h => by omega) rfl rfl (fun m call id errand hs => ?_)
    (fun m g s o hs => ?_) (fun _ _ _ h => .inl h) (fun m g s o hs => ?_) rfl rfl rfl
    (.inl ⟨_, _, _, hnew, rfl⟩)
  · rcases hold hs with hs | hs
    · have hahead := hS.le m (A.pipeline.generation + 1) (by rw [Affairs.see, hs]; rfl)
      exact absurd hahead (Nat.not_succ_le_self _)
    · cases hs
  · rcases hold hs with hs | hs
    · exact .inl hs
    · cases hs
      exact .inr ⟨rfl, rfl⟩
  · rcases hold hs with hs | hs
    · exact hs
    · cases hs

/-- While a task has an exchange under way, no other task loads anything. -/
theorem not_awaitEntries {qs : List (Nat × Message)} {s s₀ : Stage} (hS : Sound qs A)
    (hn : A.stage? n = some s₀) (hs₀ : s₀.exchange? = some A.pipeline.generation)
    (hs : s.exchange? = none) {m call : Nat} {id : Int} {errand : Errand} :
    (A.put n s).stage? m ≠ some (.awaitEntries call id A.pipeline.generation errand) := by
  intro h
  rcases Affairs.stage?_of_put h with ⟨-, rfl⟩ | ⟨hne, h⟩
  · cases hs
  · refine hne (hS.unique m n ?_ ?_)
    · rw [Affairs.see, h]
      rfl
    · rw [Affairs.see, hn]
      exact hs₀

/-- A load sets the number in the generation that began with it. -/
theorem loaded {qs : List (Nat × Message)} {call g : Nat} {id : Int} {errand : Errand}
    {o : Outcome} {p : Pipeline} (hA : Saving T P L A) (hS : Sound qs A)
    (hn : A.stage? n = some (.awaitEntries call id g errand))
    (hg : A.pipeline.generation = g) (hgeneration : p.generation = g)
    (hconversation : p.conversation = some id) :
    Saving T' P' g ({ A with pipeline := p }.put n (.wantSave g ⟨some id⟩ o)) := by
  subst hg
  have hlt := hA.loading n call id errand hn
  have hself : ({ A with pipeline := p }.put n
      (.wantSave A.pipeline.generation ⟨some id⟩ o)).stage? n =
      some (.wantSave A.pipeline.generation ⟨some id⟩ o) :=
    Affairs.stage?_put_self (Option.isSome_of_mem hn)
  refine hA.set (Nat.le_of_lt hlt) (fun h => by omega) rfl hgeneration
    (fun m call' id' errand' => not_awaitEntries (A := A) hS hn rfl rfl) (fun m g s o hs => ?_)
    (fun _ _ _ h => .inl h) (fun m g s o hs => ?_) rfl rfl rfl
    (.inl ⟨n, _, _, hself, hconversation.symm⟩)
  · rcases Affairs.stage?_of_put hs with ⟨-, hs⟩ | ⟨-, hs⟩
    · cases hs
      exact .inr ⟨rfl, hconversation.symm⟩
    · exact .inl hs
  · rcases Affairs.stage?_of_put hs with ⟨-, hs⟩ | ⟨-, hs⟩
    · cases hs
    · exact hs

/-- A reply that brings another number sets it in the generation that there is. What waited to be
saved in that generation is left behind. -/
theorem delivered {qs : List (Nat × Message)} {call g : Nat} {q : Question} {id : Int}
    {p : Pipeline} (hA : Saving T P L A) (hS : Sound qs A)
    (hn : A.stage? n = some (.awaitReply call q g)) (hg : A.pipeline.generation = g)
    (hgeneration : p.generation = g) (hconversation : p.conversation = some id)
    (hclosing : A.closing = []) :
    Saving T' A.Waits g
      ({ A with pipeline := p, closing := (n, g, some id) :: A.closing }.put n .publishing) := by
  subst hg
  refine hA.set hA.le (fun hL => ⟨hclosing, fun m s o hs => ⟨m, o, hL ▸ hs⟩⟩) rfl hgeneration
    (fun m call' id' errand' => not_awaitEntries (A := A) hS hn rfl rfl) (fun m g s o hs => ?_)
    (fun m g id' h => ?_) (fun m g s o hs => ?_) rfl rfl rfl
    (.inr ⟨n, id, List.mem_cons_self, hconversation⟩)
  · rcases Affairs.stage?_of_put hs with ⟨-, hs⟩ | ⟨-, hs⟩
    · cases hs
    · exact .inl hs
  · rcases List.mem_cons.mp h with h | h
    · cases h
      exact .inr ⟨rfl, hconversation⟩
    · exact .inl h
  · rcases Affairs.stage?_of_put hs with ⟨-, hs⟩ | ⟨-, hs⟩
    · cases hs
    · exact hs

/-- What a reply brought is to be saved once it is published. -/
theorem adopt {us vs : List (Nat × Nat × Option Int)} {g : Nat} {id : Int} {o : Outcome}
    (hA : Saving T P L A) (hO : A.Orderly) (hclosing : A.closing = us ++ (n, g, some id) :: vs) :
    Saving T P L ({ A with closing := us ++ vs }.put n (.wantSave g ⟨some id⟩ o)) := by
  have hmem : (n, g, some id) ∈ A.closing := by
    rw [hclosing]
    simp
  have hn : A.stage? n = some .publishing := hO.publishing _ hmem
  have hself : ({ A with closing := us ++ vs }.put n (.wantSave g ⟨some id⟩ o)).stage? n =
      some (.wantSave g ⟨some id⟩ o) := Affairs.stage?_put_self (Option.isSome_of_mem hn)
  have hkept : ∀ {m s}, A.stage? m = some s → s ≠ .publishing →
      ({ A with closing := us ++ vs }.put n (.wantSave g ⟨some id⟩ o)).stage? m = some s := by
    intro m s hm hs
    rw [Affairs.stage?_put_of_ne]
    · exact hm
    · rintro rfl
      exact hs (Option.some.inj (hm.symm.trans hn))
  have howes : A.Owes L →
      ({ A with closing := us ++ vs }.put n (.wantSave g ⟨some id⟩ o)).Owes L := by
    rintro (⟨m, s, o', hm, hnumber⟩ | ⟨m, id', hm, hnumber⟩)
    · exact .inl ⟨m, s, o', hkept hm nofun, hnumber⟩
    · rw [hclosing, List.mem_append, List.mem_cons] at hm
      rcases hm with hm | hm | hm
      · exact .inr ⟨m, id', List.mem_append_left _ hm, hnumber⟩
      · cases hm
        exact .inl ⟨n, _, o, hself, hnumber.symm⟩
      · exact .inr ⟨m, id', List.mem_append_right _ hm, hnumber⟩
  refine ⟨hA.canSpawn, hA.le, fun m call id' errand hs => ?_, fun m g' s o' hs => ?_,
    fun m g' id' h => ?_, fun m g' s o' hs => ?_, hA.savedGeneration, fun g' s h => ?_,
    fun h => (hA.owed h).imp_left howes⟩
  · rcases Affairs.stage?_of_put hs with ⟨-, hs⟩ | ⟨-, hs⟩
    · cases hs
    · exact hA.loading m call id' errand hs
  · rcases Affairs.stage?_of_put hs with ⟨-, hs⟩ | ⟨-, hs⟩
    · cases hs
      obtain ⟨hle, hnumber⟩ := hA.closing n g id hmem
      exact ⟨hle, fun hg => .inl (hnumber hg).symm⟩
    · exact hA.waiting m g' s o' hs
  · have h : (m, g', some id') ∈ us ++ vs := h
    refine hA.closing m g' id' ?_
    rw [hclosing, List.mem_append, List.mem_cons]
    exact (List.mem_append.mp h).imp_right .inr
  · rcases Affairs.stage?_of_put hs with ⟨-, hs⟩ | ⟨-, hs⟩
    · cases hs
    · exact hA.writing m g' s o' hs
  · obtain ⟨hle, hsaved, hdone, hlast⟩ := hA.saved g' s h
    exact ⟨hle, hsaved, hdone, fun hg => (hlast hg).imp_left howes⟩

/-- A session is saved: if it was all that was owed, it is of the generation that counts. -/
theorem save {g : Nat} {s : SavedSession} {o : Outcome} (hA : Saving T P L A)
    (hn : A.stage? n = some (.wantSave g s o)) (hsaving : A.saving = none)
    (hg : A.savedGeneration ≤ g) :
    Saving T P L
      ({ A with saving := some n, saves := (g, s) :: A.saves }.put n (.awaitSaved g s o)) := by
  obtain ⟨hle, hnumber⟩ := hA.waiting n g s o hn
  have hkept : ∀ {m s'}, m ≠ n → A.stage? m = some s' →
      ({ A with saving := some n, saves := (g, s) :: A.saves }.put n (.awaitSaved g s o)).stage? m =
        some s' := fun hne hm => (Affairs.stage?_put_of_ne hne).trans hm
  refine ⟨hA.canSpawn, hA.le, fun m call id errand hs => ?_, fun m g' s' o' hs => ?_, hA.closing,
    fun m g' s' o' hs => ?_, hA.savedGeneration, fun g' s' h => ?_, fun h => ?_⟩
  · rcases Affairs.stage?_of_put hs with ⟨-, hs⟩ | ⟨-, hs⟩
    · cases hs
    · exact hA.loading m call id errand hs
  · rcases Affairs.stage?_of_put hs with ⟨-, hs⟩ | ⟨-, hs⟩
    · cases hs
    · exact hA.waiting m g' s' o' hs
  · rcases Affairs.stage?_of_put hs with ⟨rfl, heq⟩ | ⟨-, hs⟩
    · cases heq
      exact ⟨rfl, rfl⟩
    · exact nomatch hsaving.symm.trans (hA.writing m g' s' o' hs).1
  · cases h
    exact ⟨hle, hg, fun h => (nomatch h), fun hgL => .inr (hnumber hgL)⟩
  · rcases hA.owed h with (⟨m, s', o', hm, hnumber'⟩ | ⟨m, id, hm, hnumber'⟩) | ⟨s', hs'⟩
    · by_cases hne : m = n
      · subst hne
        cases hm.symm.trans hn
        exact .inr ⟨s, rfl⟩
      · exact .inl (.inl ⟨m, s', o', hkept hne hm, hnumber'⟩)
    · exact .inl (.inr ⟨m, id, hm, hnumber'⟩)
    · -- nothing of a later generation waits, so this is another one of the same
      have hdone := (hA.saved L s' hs').2.2.1 hsaving
      obtain rfl : g = L := by omega
      exact .inr ⟨s, rfl⟩

/-- A session that is skipped is of an earlier generation, so it was not owed. -/
theorem skip {g : Nat} {s : SavedSession} {o : Outcome} (hA : Saving T P L A)
    (hn : A.stage? n = some (.wantSave g s o)) (hg : g < A.savedGeneration) :
    Saving T P L (A.drop n o) := by
  have howes : A.Owes L → (A.drop n o).Owes L := by
    rintro (⟨m, s', o', hm, hnumber⟩ | h)
    · refine .inl ⟨m, s', o', ?_, hnumber⟩
      rw [Affairs.stage?_drop_of_ne]
      · exact hm
      · rintro rfl
        cases hm.symm.trans hn
        exact absurd hA.savedGeneration (Nat.not_le_of_lt hg)
    · exact .inr h
  refine ⟨hA.canSpawn, hA.le,
    fun m call id errand hs => hA.loading m call id errand (Affairs.stage?_of_drop hs).2,
    fun m g' s' o' hs => hA.waiting m g' s' o' (Affairs.stage?_of_drop hs).2, hA.closing,
    fun m g' s' o' hs => hA.writing m g' s' o' (Affairs.stage?_of_drop hs).2, hA.savedGeneration,
    fun g' s' h => ?_, fun h => (hA.owed h).imp_left howes⟩
  obtain ⟨hle, hsaved, hdone, hlast⟩ := hA.saved g' s' h
  exact ⟨hle, hsaved, hdone, fun hg => (hlast hg).imp_left howes⟩

/-- A session was saved. -/
theorem done {g : Nat} {s : SavedSession} {o : Outcome} (hA : Saving T P L A)
    (hn : A.stage? n = some (.awaitSaved g s o)) :
    Saving T P L ({ A with saving := none, savedGeneration := g }.drop n o) := by
  obtain ⟨hsaving, hhead⟩ := hA.writing n g s o hn
  have howes : A.Owes L → ({ A with saving := none, savedGeneration := g }.drop n o).Owes L := by
    rintro (⟨m, s', o', hm, hnumber⟩ | h)
    · refine .inl ⟨m, s', o', ?_, hnumber⟩
      rw [Affairs.stage?_drop_of_ne]
      · exact hm
      · rintro rfl
        cases hm.symm.trans hn
    · exact .inr h
  refine ⟨hA.canSpawn, hA.le,
    fun m call id errand hs => hA.loading m call id errand (Affairs.stage?_of_drop hs).2,
    fun m g' s' o' hs => hA.waiting m g' s' o' (Affairs.stage?_of_drop hs).2, hA.closing,
    fun m g' s' o' hs => ?_, (hA.saved g s hhead).1, fun g' s' h => ?_,
    fun h => (hA.owed h).imp_left howes⟩
  · -- only one session is being saved at a time
    obtain ⟨hne, hm⟩ := Affairs.stage?_of_drop hs
    exact absurd (Option.some.inj ((hA.writing m g' s' o' hm).1.symm.trans hsaving)) hne
  · cases hhead.symm.trans h
    obtain ⟨hle, -, -, hlast⟩ := hA.saved g s hhead
    exact ⟨hle, Nat.le_refl _, fun _ => rfl, fun hg => (hlast hg).imp_left howes⟩

end Saving

/-! ### Every change -/

/-- What is left behind after a step: what was before, as long as the number stays the same, and
what waited when a reply set another one. -/
def Affairs.IsBehind (A B : Affairs) (l : Option Turn) (P : SavedSession → Prop)
    (s : SavedSession) : Prop :=
  P s ∧ B.pipeline.conversation = A.pipeline.conversation ∨
    (∃ n r, l = some (.answer n (.reply r))) ∧
      B.pipeline.conversation ≠ A.pipeline.conversation ∧ A.Waits s

/-- **Every change keeps it.** A number may be set, and then only what a reply leaves behind is left
of what was saved in its generation. -/
theorem Change.saving {T : Prop} {P : SavedSession → Prop} {L : Nat} {l : Option Turn}
    {A B : Affairs} {qs : List (Nat × Message)} (hm : Change l A B) (hA : Saving T P L A)
    (hO : A.Orderly) (hS : Sound qs A) (hclosing : l = none ∨ A.closing = []) :
    ∃ L', Saving (T ∨ B.pipeline.conversation ≠ A.pipeline.conversation)
      (A.IsBehind B l P) L' B := by
  -- whatever does not set the number
  have hsame : ∀ {B}, B.pipeline.conversation = A.pipeline.conversation → Saving T P L B →
      ∃ L', Saving (T ∨ B.pipeline.conversation ≠ A.pipeline.conversation)
        (A.IsBehind B l P) L' B :=
    fun hnumber hB => ⟨L, hB.imp (fun h => h.resolve_right fun hne => hne hnumber)
      fun s hs => .inl ⟨hs, hnumber⟩⟩
  have hkept : ∀ {p : Pipeline}, p.generation = A.pipeline.generation →
      p.conversation = A.pipeline.conversation → Saving T P L { A with pipeline := p } := by
    intro p hgeneration hnumber
    refine hA.same rfl (Nat.le_of_eq hgeneration.symm) hnumber (fun m call id errand hs => ?_)
      (fun _ _ _ => Iff.rfl) (fun _ _ _ => Iff.rfl) rfl rfl rfl
    have hs : A.stage? m = some (.awaitEntries call id p.generation errand) := hs
    rw [hgeneration] at hs
    exact hgeneration ▸ hA.loading m call id errand hs
  have hstill : ∀ n g id, (n, g, some id) ∈ A.closing ↔ (n, g, some id) ∈ A.closing :=
    fun _ _ _ => Iff.rfl
  cases hm with
  | quiet => exact hsame rfl hA
  | reset => exact ⟨_, hA.reset hO hS⟩
  | select id =>
    have hspawn : A.spawn (.startLoad id .select) = A.add (.startLoad id .select) :=
      if_pos hA.canSpawn
    rw [hspawn]
    exact hsame rfl (hA.add hO rfl rfl)
  | dismiss => exact hsame rfl (hkept rfl rfl)
  | unmount => exact hsame rfl (hkept rfl rfl)
  | adopt hclosing => exact hsame rfl (hA.adopt hO hclosing)
  | @close _ us vs n g hclosing =>
    have hn : A.stage? n = some .publishing := hO.publishing (n, g, none) (by simp [hclosing])
    refine hsame rfl (hA.drop hn rfl rfl rfl fun m g' id => ?_)
    simp [hclosing]
  | call o => exact hsame rfl (hA.add hO rfl rfl)
  | ask hn => refine hsame rfl (hA.put hn rfl rfl rfl ?_ ?_ hstill) <;> rfl
  | @pose _ n g q call hn =>
    have hpose : (A.pipeline.pose g).generation = A.pipeline.generation ∧
        (A.pipeline.pose g).conversation = A.pipeline.conversation := by
      unfold Pipeline.pose
      split <;> exact ⟨rfl, rfl⟩
    exact hsame hpose.2 (hA.put hn rfl rfl rfl hpose.1 hpose.2 hstill)
  | load call ht hn hs =>
    refine hsame rfl (hA.load hn ?_ rfl)
    rcases hs with ⟨rfl, -⟩ | rfl | ⟨rfl, -⟩ <;> rfl
  | attend hn hs =>
    refine hsame rfl (hA.put hn rfl ?_ ?_ rfl rfl hstill)
    · rcases hs with rfl | ⟨_, rfl⟩ <;> rfl
    · rcases hs with rfl | ⟨_, rfl⟩ <;> rfl
  | leave o hn hs =>
    refine hsame rfl (hA.drop hn ?_ rfl rfl hstill)
    rcases hs with rfl | ⟨_, rfl⟩ | ⟨_, rfl⟩ <;> rfl
  | save hn hsaving hg => exact hsame rfl (hA.save hn hsaving hg)
  | skip hn hsaving hg => exact hsame rfl (hA.skip hn hg)
  | saved r hn => exact hsame rfl (hA.done hn)
  | staleReply r hn => exact hsame rfl (hA.drop hn rfl rfl rfl hstill)
  | failedReply r b hn => refine hsame rfl (hA.drop hn rfl ?_ ?_ hstill) <;> rfl
  | @delivered _ n call g q r x adopted hn hstale hadopted =>
    obtain ⟨-, hg⟩ := Pipeline.isStale_eq_false.mp hstale
    cases adopted with
    | none =>
      refine hsame rfl (hA.put hn rfl rfl rfl ?_ ?_ fun m g' id => ?_)
      · rfl
      · rfl
      · simp
    | some id =>
      -- whatever waits to be saved in this generation has another number now
      have hnothing : A.closing = [] := hclosing.resolve_left nofun
      refine ⟨g, Saving.imp (hA.delivered hS hn hg ?_ ?_ hnothing) (fun _ => trivial)
        fun s hs => ?_⟩
      · exact hg
      · rfl
      · exact .inr ⟨⟨n, r, rfl⟩, fun h => hadopted id rfl h.symm, hs⟩
  | staleEntries r hn => exact hsame rfl (hA.drop hn rfl rfl rfl hstill)
  | failedEntries f b hn => refine hsame rfl (hA.drop hn rfl ?_ ?_ hstill) <;> rfl
  | loaded entries supply hn hstale =>
    obtain ⟨-, hg⟩ := Pipeline.isStale_eq_false.mp hstale
    exact ⟨_, hA.loaded hS hn hg hg rfl⟩

/-! ### The end -/

namespace App

variable {a a₀ : App} {h : History} {T : Prop} {P : SavedSession → Prop} {L : Nat}
  {ts : List Turn} {session : SavedSession}

/-- In the end of a turn everything is done. -/
theorem midTurn_workBound (a : App) (t : Turn) :
    a.midTurn t ((a.enter t).1.workBound (a.enter t).2) = (a.turn t, []) :=
  run_settle _ _

/-- What is changed in the middle of a turn is changed before everything is done. -/
theorem exists_midTurn_le {t : Turn} {p : App → Prop} {n : Nat} (hn : p (a.midTurn t n).1) :
    ∃ m ≤ (a.enter t).1.workBound (a.enter t).2, p (a.midTurn t m).1 := by
  rcases Nat.le_total n ((a.enter t).1.workBound (a.enter t).2) with hle | hle
  · exact ⟨n, hle, hn⟩
  · have hall := midTurn_workBound a t
    have hsame : a.midTurn t n = a.midTurn t ((a.enter t).1.workBound (a.enter t).2) :=
      delivery.run_eq_of_snd_eq_nil hle (congrArg Prod.snd hall)
    exact ⟨_, Nat.le_refl _, hsame ▸ hn⟩

/-- **What a turn does to what is saved**, at every point of it. What was left behind before stays
so as long as no number is set, and what a reply leaves behind as long as no other one is. -/
theorem Reached.saving_midTurn (hfresh : a₀.IsFresh) (hr : Reached a₀ h (a, []))
    (hA : Saving T P L (a.affairs [])) (t : Turn) (n : Nat) :
    (∃ h', Reached a₀ h' (a.midTurn t n)) ∧ ∃ L', Saving
      (T ∨ ∃ m ≤ n, (a.midTurn t m).1.pipeline.conversation ≠ a.pipeline.conversation)
      (fun s => (P s ∧ (a.enter t).1.pipeline.conversation = a.pipeline.conversation ∨
          (∃ k r, t = .answer k (.reply r)) ∧
            (a.enter t).1.pipeline.conversation ≠ a.pipeline.conversation ∧ a.Waits s) ∧
        (a.midTurn t n).1.pipeline.conversation = (a.enter t).1.pipeline.conversation)
      L' ((a.midTurn t n).1.affairs (a.midTurn t n).2) := by
  induction n with
  | zero =>
    have hstep : Step (some t) (a, []) (a.enter t) := by
      have hstep : Step (some t) (a, []) ((a.enter t).1, (a.enter t).2 ++ []) := .turn t
      rwa [List.append_nil] at hstep
    obtain ⟨L', hB⟩ := hstep.change.saving hA (hr.orderly hfresh) (hr.sound hfresh) (.inr rfl)
    refine ⟨⟨_, hr.turn hstep⟩, L', hB.imp (Or.imp_right ?_) fun s hs => ⟨?_, rfl⟩⟩
    · rintro ⟨m, hm, hne⟩
      obtain rfl : m = 0 := Nat.le_zero.mp hm
      exact hne
    · rcases hs with hs | ⟨⟨k, r, ht⟩, hne, hs⟩
      · exact .inl hs
      · exact .inr ⟨⟨k, r, Option.some.inj ht⟩, hne, hs⟩
  | succ n ih =>
    obtain ⟨⟨h', hr'⟩, L', hB⟩ := ih
    have hsucc : a.midTurn t (n + 1) = delivery.step (a.midTurn t n) := delivery.run_succ n _
    -- a change that is seen now was seen before, or it is made now
    have hchange : (∃ m ≤ n + 1,
        (a.midTurn t m).1.pipeline.conversation ≠ a.pipeline.conversation) →
        (∃ m ≤ n, (a.midTurn t m).1.pipeline.conversation ≠ a.pipeline.conversation) ∨
          (a.midTurn t (n + 1)).1.pipeline.conversation ≠
            (a.midTurn t n).1.pipeline.conversation := by
      rintro ⟨m, hm, hne⟩
      rcases Nat.le_succ_iff.mp hm with hm | rfl
      · exact .inl ⟨m, hm, hne⟩
      · by_cases hnow : (a.midTurn t (n + 1)).1.pipeline.conversation =
            (a.midTurn t n).1.pipeline.conversation
        · exact .inl ⟨n, Nat.le_refl _, hnow ▸ hne⟩
        · exact .inr hnow
    obtain ⟨b, ws, hbw⟩ : ∃ b ws, a.midTurn t n = (b, ws) := ⟨_, _, rfl⟩
    rw [hbw] at hr' hB hsucc hchange
    cases ws with
    | nil =>
      have hsucc : a.midTurn t (n + 1) = (b, []) := hsucc
      rw [hsucc] at hchange ⊢
      refine ⟨⟨h', hr'⟩, L', hB.imp (Or.imp_right fun hm => ?_) fun s hs => hs⟩
      exact (hchange hm).resolve_right fun hne => hne rfl
    | cons w ws =>
      rw [step_cons] at hsucc
      have hstep : Step none (b, [] ++ w :: ws) ((b.doing w).1, [] ++ ((b.doing w).2 ++ ws)) :=
        .errand w
      have hstep : Step none (b, w :: ws) (a.midTurn t (n + 1)) := hsucc ▸ hstep
      have hchanges : Change none (b.affairs (w :: ws))
          ((a.midTurn t (n + 1)).1.affairs (a.midTurn t (n + 1)).2) := hstep.change
      obtain ⟨L'', hC⟩ :=
        hchanges.saving hB (hr'.orderly hfresh) (hr'.sound hfresh) (.inl rfl)
      refine ⟨⟨h', hr'.errand hstep⟩, L'', hC.imp (fun hm => ?_) fun s hs => ?_⟩
      · rcases hm with hm | hm
        · exact .inl (.inl hm)
        · exact (hchange hm).imp_left .inr
      · rcases hs with ⟨⟨hs, hnumber⟩, hsame⟩ | ⟨⟨_, _, ht⟩, -⟩
        · exact ⟨hs, hsame.trans hnumber⟩
        · cases ht

/-- What was left behind stays so if the number stays the same. -/
theorem LeavesBehind.concat {t : Turn} (hs : a₀.LeavesBehind ts session)
    (hsame : ((a₀.run ts).turn t).pipeline.conversation = (a₀.run ts).pipeline.conversation) :
    a₀.LeavesBehind (ts ++ [t]) session := by
  obtain ⟨us, n, r, vs, rfl, hwaits, hne, hbrings, hkept⟩ := hs
  refine ⟨us, n, r, vs ++ [t], by simp, hwaits, ?_, ?_, fun vs' hvs' => ?_⟩
  · rw [run_concat, hsame]
    exact hne
  · rw [run_concat, hsame]
    exact hbrings
  · rcases List.prefix_concat_iff.mp hvs' with rfl | hvs'
    · simp
    · rw [run_concat, hsame]
      exact hkept vs' hvs'

/-- **What is saved stands to the conversation as it should**, after every list of turns. -/
theorem saving_run (hfresh : a₀.IsFresh) (hspawn : a₀.canSpawn = true) (ts : List Turn) :
    ∃ L, Saving (a₀.Renumbers ts) (a₀.LeavesBehind ts) L ((a₀.run ts).affairs []) := by
  induction ts using List.reverseRecOn with
  | nil =>
    refine ⟨0, (Saving.of_isFresh hfresh hspawn).imp ?_ fun _ hs => hs⟩
    rintro ⟨us, t, vs, n, hts, -⟩
    simp at hts
  | append_singleton ts t ih =>
    obtain ⟨L, hA⟩ := ih
    obtain ⟨-, L', hB⟩ := (reached_run a₀ ts).saving_midTurn hfresh hA t
      (((a₀.run ts).enter t).1.workBound ((a₀.run ts).enter t).2)
    rw [midTurn_workBound] at hB
    rw [run_concat]
    refine ⟨L', hB.imp ?_ fun s hs => ?_⟩
    · rintro ⟨us, t', vs, n, hts, hne⟩
      rcases List.eq_nil_or_concat vs with rfl | ⟨vs, t'', rfl⟩
      · obtain ⟨rfl, ht⟩ := List.append_inj' hts rfl
        cases ht
        obtain ⟨m, hm, hne⟩ := exists_midTurn_le
          (p := fun b => b.pipeline.conversation ≠ (a₀.run ts).pipeline.conversation) hne
        exact .inr ⟨m, hm, hne⟩
      · have hts : ts ++ [t] = (us ++ t' :: vs) ++ [t''] := by simpa using hts
        obtain ⟨rfl, -⟩ := List.append_inj' hts rfl
        exact .inl ⟨us, t', vs, n, rfl, hne⟩
    · -- it was left behind before, or it is by this reply
      obtain ⟨⟨hs, hsame⟩ | ⟨⟨k, r, rfl⟩, hne, hs⟩, hnumber⟩ := hs
      · exact hs.concat (hnumber.trans hsame)
      · refine ⟨ts, k, r, [], rfl, hs, ?_, ?_, fun vs' hvs' => ?_⟩
        · rw [run_concat]
          exact fun h => hne (hnumber.symm.trans h.symm)
        · rw [run_concat]
          exact hnumber.symm
        · rw [List.prefix_nil.mp hvs']

/-- **The session that is saved in the end.** If the number of the conversation ever changed, and no
task is left, then the session that was saved last has the number of the conversation, if and only
if it is not one that was left behind with another number. -/
theorem lastSaved_iff (hfresh : a₀.IsFresh) (hspawn : a₀.canSpawn = true)
    (hrest : (a₀.run ts).tasks = []) (hchanged : a₀.Renumbers ts) :
    (a₀.run ts).lastSaved? = some ⟨(a₀.run ts).pipeline.conversation⟩ ↔
      ¬ ∃ s, (a₀.run ts).lastSaved? = some s ∧
        s.conversation ≠ (a₀.run ts).pipeline.conversation ∧ a₀.LeavesBehind ts s := by
  obtain ⟨L, hA⟩ := saving_run hfresh hspawn ts
  have hnone : ∀ n, ((a₀.run ts).affairs []).stage? n = none :=
    Affairs.stage?_of_tasks_eq_nil hrest
  have hpaid : ¬ ((a₀.run ts).affairs []).Owes L := by
    rintro (⟨n, s, o, hs, -⟩ | ⟨n, id, hmem, -⟩)
    · cases (hnone n).symm.trans hs
    · cases hmem
  -- nothing is owed any longer, so a session of the last generation was saved last
  obtain ⟨s, hs⟩ := (hA.owed hchanged).resolve_left hpaid
  have hlast : (a₀.run ts).lastSaved? = some s := by
    have hs : (a₀.run ts).saves.head? = some (L, s) := hs
    rw [lastSaved?, hs]
    rfl
  have hcase := ((hA.saved L s hs).2.2.2 rfl).resolve_left hpaid
  constructor
  · rintro heq ⟨s', hs', hne, -⟩
    obtain rfl := Option.some.inj (heq.symm.trans hs')
    exact hne rfl
  · intro hnot
    rw [hlast]
    by_contra hne
    have hnumber : s.conversation ≠ (a₀.run ts).pipeline.conversation := by
      intro heq
      exact hne (congrArg some (heq ▸ rfl))
    exact hnot ⟨s, hlast, hnumber, hcase.resolve_left hnumber⟩

/-- A session that is to be cleared is skipped once a conversation was loaded and saved. -/
theorem lastSaved_of_load_after_reset :
    let ts := [.tell .reset, .call (.load 42), .advance 1, .answer 1 (.entries (.ok [])),
      .advance 1, .giveSaved 1 (.ok ()), .advance 0]
    (blank.run ts).lastSaved? = some ⟨(blank.run ts).pipeline.conversation⟩ := by
  intro ts
  have hchanged : blank.Renumbers ts := by
    refine ⟨ts.take 3, .answer 1 (.entries (.ok [])), ts.drop 4, 0, rfl, ?_⟩
    exact fun h => (nomatch (show some (42 : Int) = none from h))
  refine (lastSaved_iff isFresh_blank rfl rfl hchanged).mpr ?_
  rintro ⟨s, -, -, us, n, r, vs, hts, -⟩
  have hreply : Turn.answer n (.reply r) ∈ ts := by
    rw [hts]
    simp
  simp [ts] at hreply

/-- A new conversation is started, a question is asked and answered, and only then is the session
cleared that waited for it: the conversation has a number, and the session has none. -/
theorem lastSaved_of_late_clear :
    let ts := [.tell .reset, .call (.send "hi"), .advance 1, .advance 1,
      .answer 1 (.reply (.ok ⟨some (.number (.integer 5)), some (.string "x"), none, none, none,
        none⟩)),
      .advance 1, .giveSaved 1 (.ok ()), .advance 0, .giveSaved 0 (.ok ())]
    blank.Renumbers ts ∧ (blank.run ts).tasks = [] ∧
      (blank.run ts).pipeline.conversation = some 5 ∧ (blank.run ts).lastSaved? = some ⟨none⟩ := by
  intro ts
  refine ⟨⟨ts.take 4, .answer 1 (.reply (.ok ⟨some (.number (.integer 5)), some (.string "x"), none,
    none, none, none⟩)), ts.drop 5, 0, rfl, ?_⟩, rfl, rfl, rfl⟩
  exact fun h => (nomatch (show some (5 : Int) = none from h))

end App

end Parley
