import Parley.Proofs.App.Orderly
import Parley.Proofs.Chat.Ahead

/-!
# Tasks that are left over

When a conversation starts anew it has things under way, and they go on: answers to old questions
come, and sessions are saved that nobody needs any more. This file compares its affairs with those
of a conversation that has nothing of the kind. They *mirror* the others
(`Parley.Affairs.Mirrors`) if they are some generations ahead and some tasks are *left over*, and
every other task is at the same stage. What is left over belongs to an earlier generation
(`Parley.Stage.IsSpent`).

The delicate part is what is saved. One session is saved at a time, so a task that is left over may
be in the way of another; but it cannot make the session of another look old, because its own is
older (`Parley.Affairs.Mirrors.lt_savedGeneration`). That the task which is saving is known to be the
one is an invariant of all that can happen (`Parley.Affairs.Writes`, `Parley.Change.writes`).
-/

namespace Parley

/-! ### Tasks -/

/-- Two tasks are at the same stage, the second one `k` generations ahead. Their calls may have
different numbers. -/
inductive Stage.Mirrors (k : Nat) : Stage → Stage → Prop
  | start (o : Operation) : Mirrors k (.start o) (.start o)
  | startLoad (id : Int) (errand : Errand) : Mirrors k (.startLoad id errand) (.startLoad id errand)
  | posing (q : Question) (g : Nat) : Mirrors k (.posing q g) (.posing q (g + k))
  | awaitReply (call call' : Nat) (q : Question) (g : Nat) :
    Mirrors k (.awaitReply call q g) (.awaitReply call' q (g + k))
  | publishing : Mirrors k .publishing .publishing
  | awaitEntries (call call' : Nat) (id : Int) (g : Nat) (errand : Errand) :
    Mirrors k (.awaitEntries call id g errand) (.awaitEntries call' id (g + k) errand)
  | awaitSummaries (call call' : Nat) : Mirrors k (.awaitSummaries call) (.awaitSummaries call')
  | awaitSession : Mirrors k .awaitSession .awaitSession
  | wantSave (g : Nat) (s : SavedSession) (o : Outcome) :
    Mirrors k (.wantSave g s o) (.wantSave (g + k) s o)
  | awaitSaved (g : Nat) (s : SavedSession) (o : Outcome) :
    Mirrors k (.awaitSaved g s o) (.awaitSaved (g + k) s o)

/-- Whatever a task does at a stage, it does for a time before the generation `k`. -/
def Stage.IsSpent (k : Nat) : Stage → Prop
  | .posing _ g | .awaitReply _ _ g | .awaitEntries _ _ g _ => g < k
  | .wantSave g _ _ | .awaitSaved g _ _ => g ≤ k
  | .publishing | .awaitSummaries _ => True
  | .start _ | .startLoad _ _ | .awaitSession => False

/-- A session is being saved. -/
def Stage.isWriting : Stage → Bool
  | .awaitSaved _ _ _ => true
  | _ => false

namespace Affairs

/-- The tasks of two affairs are the same, but for tasks that are left over in the second ones. -/
structure Matches (left : List Nat) (k : Nat) (A B : Affairs) : Prop where
  stages : ∀ n, n ∉ left → Option.Rel (Stage.Mirrors k) (A.stage? n) (B.stage? n)
  gone : ∀ n ∈ left, A.stage? n = none
  spent : ∀ n ∈ left, ∀ s, B.stage? n = some s → s.IsSpent k

/-- Affairs that are `k` generations ahead of others, with tasks left over.

A task that is left over may be saving its session, and then nobody else is. It is saved before
anything of the present is, so the generations of what is saved are in the same order. -/
structure Mirrors (left : List Nat) (k : Nat) (A B : Affairs) : Prop where
  pipeline : B.pipeline = A.pipeline.ahead k
  tasks : A.Matches left k B
  nextTask : B.nextTask = A.nextTask
  earlier : ∀ n ∈ left, n < A.nextTask
  saving : A.saving = B.saving.filter (· ∉ left)
  writing : ∀ n s, B.stage? n = some s → s.isWriting = true → B.saving = some n
  saved_le : B.savedGeneration ≤ A.savedGeneration + k
  saved_eq : A.savedGeneration = 0 ∨ B.savedGeneration = A.savedGeneration + k
  unsaved : ∀ n ∈ left, B.saving = some n → A.savedGeneration = 0

variable {left : List Nat} {k n g : Nat} {A A' B B' : Affairs} {s s' : Stage} {o o' : Outcome}

namespace Matches

/-- A task that is not left over is there in both or in neither. -/
theorem stage_cases (h : A.Matches left k B) (hn : n ∉ left) :
    A.stage? n = none ∧ B.stage? n = none ∨
      ∃ s s', A.stage? n = some s ∧ B.stage? n = some s' ∧ s.Mirrors k s' := by
  have hrel := h.stages n hn
  cases hA : A.stage? n <;> cases hB : B.stage? n <;> rw [hA, hB] at hrel <;> cases hrel
  · exact .inl ⟨rfl, rfl⟩
  · rename_i hs
    exact .inr ⟨_, _, rfl, rfl, hs⟩

/-- A new task. -/
theorem add (h : A.Matches left k B) (hnext : B.nextTask = A.nextTask)
    (hearlier : ∀ n ∈ left, n < A.nextTask) (hs : s.Mirrors k s') :
    (A.add s).Matches left k (B.add s') := by
  refine ⟨fun n hn => ?_, fun n hn => ?_, fun n hn u hu => ?_⟩
  · rw [stage?_add, stage?_add, hnext]
    rcases h.stage_cases hn with ⟨hA, hB⟩ | ⟨u, u', hA, hB, hu⟩
    · rw [hA, hB, Option.none_or, Option.none_or]
      split
      · exact .some hs
      · exact .none
    · rw [hA, hB]
      exact .some hu
  · rw [stage?_add_of_lt (hearlier n hn)]
    exact h.gone n hn
  · rw [stage?_add_of_lt (hnext.symm ▸ hearlier n hn)] at hu
    exact h.spent n hn u hu

/-- A task comes to another stage. -/
theorem put (h : A.Matches left k B) (hn : n ∉ left) (hs : s.Mirrors k s') :
    (A.put n s).Matches left k (B.put n s') := by
  have hother : ∀ m ∈ left, m ≠ n := fun m hm hmn => hn (hmn ▸ hm)
  refine ⟨fun m hm => ?_, fun m hm => ?_, fun m hm u hu => ?_⟩
  · rw [stage?_put, stage?_put]
    rcases h.stage_cases hm with ⟨hA, hB⟩ | ⟨u, u', hA, hB, hu⟩
    · rw [hA, hB, Option.map_none, ite_self, Option.map_none, ite_self]
      exact .none
    · rw [hA, hB]
      split
      · exact .some hs
      · exact .some hu
  · rw [stage?_put_of_ne (hother m hm)]
    exact h.gone m hm
  · rw [stage?_put_of_ne (hother m hm)] at hu
    exact h.spent m hm u hu

/-- A task ends. -/
theorem drop (h : A.Matches left k B) (hn : n ∉ left) :
    (A.drop n o).Matches left k (B.drop n o') := by
  have hother : ∀ m ∈ left, m ≠ n := fun m hm hmn => hn (hmn ▸ hm)
  refine ⟨fun m hm => ?_, fun m hm => ?_, fun m hm u hu => h.spent m hm u (stage?_of_drop hu).2⟩
  · rw [stage?_drop, stage?_drop]
    split
    · exact .none
    · exact h.stages m hm
  · rw [stage?_drop_of_ne (hother m hm)]
    exact h.gone m hm

/-- A task that is left over comes to another stage. -/
theorem putLeft (h : A.Matches left k B) (hn : n ∈ left) (hs : s'.IsSpent k) :
    A.Matches left k (B.put n s') := by
  refine ⟨fun m hm => ?_, h.gone, fun m hm u hu => ?_⟩
  · have hmn : m ≠ n := fun hmn => hm (hmn ▸ hn)
    rw [stage?_put_of_ne hmn]
    exact h.stages m hm
  · rcases stage?_of_put hu with ⟨-, rfl⟩ | ⟨-, hu⟩
    · exact hs
    · exact h.spent m hm u hu

/-- A task that is left over ends. -/
theorem dropLeft (h : A.Matches left k B) (hn : n ∈ left) :
    A.Matches left k (B.drop n o') := by
  refine ⟨fun m hm => ?_, h.gone, fun m hm u hu => h.spent m hm u (stage?_of_drop hu).2⟩
  have hmn : m ≠ n := fun hmn => hm (hmn ▸ hn)
  rw [stage?_drop_of_ne hmn]
  exact h.stages m hm

end Matches

namespace Mirrors

/-- What was saved and what failed is of no account. -/
theorem congr (h : A.Mirrors left k B)
    (hA : A' = { A with
      canSpawn := A'.canSpawn, saves := A'.saves, failures := A'.failures, closing := A'.closing })
    (hB : B' = { B with
      canSpawn := B'.canSpawn, saves := B'.saves, failures := B'.failures, closing := B'.closing }) :
    A'.Mirrors left k B' := by
  rw [hA, hB]
  exact ⟨h.pipeline, ⟨h.tasks.stages, h.tasks.gone, h.tasks.spent⟩, h.nextTask, h.earlier, h.saving,
    h.writing, h.saved_le, h.saved_eq, h.unsaved⟩

theorem withPipeline (h : A.Mirrors left k B) (p : Pipeline) :
    Mirrors left k { A with pipeline := p } { B with pipeline := p.ahead k } :=
  ⟨rfl, ⟨h.tasks.stages, h.tasks.gone, h.tasks.spent⟩, h.nextTask, h.earlier, h.saving, h.writing,
    h.saved_le, h.saved_eq, h.unsaved⟩

/-- Other tasks, of which none but those before is saving. -/
theorem withTasks (h : A.Mirrors left k B) (htasks : A'.Matches left k B')
    (hA : A' = { A with tasks := A'.tasks, failures := A'.failures })
    (hB : B' = { B with tasks := B'.tasks, failures := B'.failures })
    (hold : ∀ n s, B'.stage? n = some s → s.isWriting = true → B.stage? n = some s) :
    A'.Mirrors left k B' := by
  obtain ⟨hstages, hgone, hspent⟩ := htasks
  rw [hA, hB]
  exact ⟨h.pipeline, ⟨hstages, hgone, hspent⟩, h.nextTask, h.earlier, h.saving,
    fun n s hs hwrites => h.writing n s (hold n s hs hwrites) hwrites, h.saved_le, h.saved_eq,
    h.unsaved⟩

/-- A new task. -/
theorem add (h : A.Mirrors left k B) (hs : s.Mirrors k s') (hw : s'.isWriting = false) :
    (A.add s).Mirrors left k (B.add s') := by
  refine ⟨h.pipeline, h.tasks.add h.nextTask h.earlier hs, congrArg (· + 1) h.nextTask,
    fun n hn => Nat.lt_succ_of_lt (h.earlier n hn), h.saving, fun n u hu hwrites => ?_, h.saved_le,
    h.saved_eq, h.unsaved⟩
  rw [stage?_add, Option.or_eq_some_iff] at hu
  rcases hu with hu | ⟨-, hu⟩
  · exact h.writing n u hu hwrites
  · split at hu
    · cases hu
      cases hw.symm.trans hwrites
    · cases hu

/-- What is saving after a task came to a stage at which it is not was saving before. -/
theorem stage?_of_put_writing (hw : s'.isWriting = false) {m : Nat} {u : Stage}
    (hu : (B.put n s').stage? m = some u) (hwrites : u.isWriting = true) : B.stage? m = some u := by
  rcases stage?_of_put hu with ⟨-, rfl⟩ | ⟨-, hu⟩
  · cases hw.symm.trans hwrites
  · exact hu

/-- A task comes to another stage. -/
theorem put (h : A.Mirrors left k B) (hn : n ∉ left) (hs : s.Mirrors k s')
    (hw : s'.isWriting = false) : (A.put n s).Mirrors left k (B.put n s') :=
  h.withTasks (h.tasks.put hn hs) rfl rfl fun _ _ => stage?_of_put_writing hw

/-- A task that is left over comes to another stage. -/
theorem putLeft (h : A.Mirrors left k B) (hn : n ∈ left) (hs : s'.IsSpent k)
    (hw : s'.isWriting = false) : A.Mirrors left k (B.put n s') :=
  h.withTasks (h.tasks.putLeft hn hs) rfl rfl fun _ _ => stage?_of_put_writing hw

/-- A task ends. -/
theorem drop (h : A.Mirrors left k B) (hn : n ∉ left) (o : Outcome) :
    (A.drop n o).Mirrors left k (B.drop n o) :=
  h.withTasks (h.tasks.drop hn) rfl rfl fun _ _ hu _ => (stage?_of_drop hu).2

/-- A task that is left over ends. -/
theorem dropLeft (h : A.Mirrors left k B) (hn : n ∈ left) (o : Outcome) :
    A.Mirrors left k (B.drop n o) :=
  h.withTasks (h.tasks.dropLeft hn) rfl rfl fun _ _ hu _ => (stage?_of_drop hu).2

/-! ### Saving -/

/-- While nothing is being saved nobody is saving; so after a task begins to, it is the only one. -/
theorem writing_put (h : A.Mirrors left k B) (hB : B.saving = none) {m : Nat} {u : Stage}
    (hu : (B.put n s').stage? m = some u) (hwrites : u.isWriting = true) : n = m := by
  rcases stage?_of_put hu with ⟨hm, -⟩ | ⟨-, hu⟩
  · exact hm.symm
  · cases hB.symm.trans (h.writing m u hu hwrites)

/-- A task begins to save its session. -/
theorem save (h : A.Mirrors left k B) (hn : n ∉ left) (hB : B.saving = none)
    (hs : s.Mirrors k s') :
    Mirrors left k ({ A with saving := some n }.put n s) ({ B with saving := some n }.put n s') := by
  obtain ⟨hstages, hgone, hspent⟩ := h.tasks.put hn hs
  refine ⟨h.pipeline, ⟨hstages, hgone, hspent⟩, h.nextTask, h.earlier, ?_,
    fun m u hu hwrites => congrArg some (h.writing_put hB hu hwrites), h.saved_le, h.saved_eq,
    fun m hm hmn => ?_⟩
  · exact (if_pos (by simpa using hn)).symm
  · cases hmn
    exact absurd hm hn

/-- A task that is left over begins to save its session. Nothing of the present was saved yet, or
its session would be too old. -/
theorem saveLeft (h : A.Mirrors left k B) (hn : n ∈ left) (hB : B.saving = none)
    (hs : s'.IsSpent k) (hg : g ≤ k) (hsaved : B.savedGeneration ≤ g) :
    A.Mirrors left k ({ B with saving := some n }.put n s') := by
  obtain ⟨hstages, hgone, hspent⟩ := h.tasks.putLeft hn hs
  refine ⟨h.pipeline, ⟨hstages, hgone, hspent⟩, h.nextTask, h.earlier, ?_,
    fun m u hu hwrites => congrArg some (h.writing_put hB hu hwrites), h.saved_le, h.saved_eq,
    fun _ _ _ => ?_⟩
  · rw [h.saving, hB]
    exact (if_neg (by simpa using hn)).symm
  · have := h.saved_le
    rcases h.saved_eq with h0 | heq <;> omega

/-- A session is saved. -/
theorem saved (h : A.Mirrors left k B) (hn : n ∉ left) (hwrites : B.saving = some n) (g : Nat)
    (o : Outcome) : Mirrors left k ({ A with saving := none, savedGeneration := g }.drop n o)
      ({ B with saving := none, savedGeneration := g + k }.drop n o) := by
  have htasks : (A.drop n o).Matches left k (B.drop n o) := h.tasks.drop hn
  obtain ⟨hstages, hgone, hspent⟩ := htasks
  refine ⟨h.pipeline, ⟨hstages, hgone, hspent⟩, h.nextTask, h.earlier, rfl, fun m u hu hu' => ?_,
    Nat.le_refl _, .inr rfl, fun _ _ => nofun⟩
  -- nobody else was saving
  obtain ⟨hmn, hu⟩ := stage?_of_drop hu
  exact absurd (Option.some.inj (hwrites.symm.trans (h.writing m u hu hu'))).symm hmn

/-- The session of a task that is left over is saved. -/
theorem savedLeft (h : A.Mirrors left k B) (hn : n ∈ left) (hwrites : B.saving = some n)
    (hg : g ≤ k) (o : Outcome) :
    A.Mirrors left k ({ B with saving := none, savedGeneration := g }.drop n o) := by
  have htasks : A.Matches left k (B.drop n o) := h.tasks.dropLeft hn
  obtain ⟨hstages, hgone, hspent⟩ := htasks
  have hunsaved := h.unsaved n hn hwrites
  refine ⟨h.pipeline, ⟨hstages, hgone, hspent⟩, h.nextTask, h.earlier, ?_, fun m u hu hu' => ?_,
    Nat.le_trans hg (Nat.le_add_left _ _), .inl hunsaved, fun _ _ => nofun⟩
  · rw [h.saving, hwrites]
    exact if_neg (by simpa using hn)
  · obtain ⟨hmn, hu⟩ := stage?_of_drop hu
    exact absurd (Option.some.inj (hwrites.symm.trans (h.writing m u hu hu'))).symm hmn

/-- **The generations of what is saved are in the same order.** -/
theorem lt_savedGeneration (h : A.Mirrors left k B) :
    g + k < B.savedGeneration ↔ g < A.savedGeneration := by
  have := h.saved_le
  rcases h.saved_eq with h0 | heq <;> omega

end Mirrors

/-! ### Who is saving -/

variable {m : Nat} {s₀ : Stage}

/-- The task of a name is saving its session. -/
def IsWriting (A : Affairs) (n : Nat) : Bool := (A.stage? n).any Stage.isWriting

theorem isWriting_put (hn : A.stage? n = some s₀) (hs₀ : s₀.isWriting = false)
    (hs : s.isWriting = false) (m : Nat) : (A.put n s).IsWriting m = A.IsWriting m := by
  rw [IsWriting, IsWriting, stage?_put]
  split
  · rename_i hmn
    rw [hmn, hn]
    exact hs.trans hs₀.symm
  · rfl

theorem isWriting_drop (hn : A.stage? n = some s₀) (hs₀ : s₀.isWriting = false) (m : Nat) :
    (A.drop n o).IsWriting m = A.IsWriting m := by
  rw [IsWriting, IsWriting, stage?_drop]
  split
  · rename_i hmn
    rw [hmn, hn]
    exact hs₀.symm
  · rfl

theorem isWriting_add (hs : s.isWriting = false) (m : Nat) :
    (A.add s).IsWriting m = A.IsWriting m := by
  rw [IsWriting, IsWriting, stage?_add]
  cases A.stage? m with
  | some s' => rfl
  | none =>
    rw [Option.none_or]
    split
    · exact hs
    · rfl

theorem isWriting_spawn (hs : s.isWriting = false) (m : Nat) :
    (A.spawn s).IsWriting m = A.IsWriting m := by
  unfold Affairs.spawn
  split
  · exact isWriting_add hs m
  · rfl

/-- One task at most is saving its session, and it is the one that is known to. -/
def Writes (A : Affairs) : Prop := ∀ n, A.saving = some n ↔ A.IsWriting n = true

/-- Nobody begins to save and nobody is done with it. -/
theorem Writes.congr (hA : A.Writes) (hsaving : B.saving = A.saving)
    (hwriting : ∀ m, B.IsWriting m = A.IsWriting m) : B.Writes := by
  intro m
  rw [hsaving, hwriting]
  exact hA m

theorem writes_of_isFresh {a : App} (ha : a.IsFresh) : (a.affairs []).Writes := by
  intro n
  have hsaving : (a.affairs []).saving = none := ha.saving
  rw [hsaving, IsWriting, stage?_of_tasks_eq_nil ha.tasks]
  exact ⟨nofun, nofun⟩

end Affairs

open Affairs in
/-- **Sessions are saved one at a time.** -/
theorem Change.writes {l : Option Turn} {A B : Affairs} (hm : Change l A B) (hO : A.Orderly)
    (hA : A.Writes) : B.Writes := by
  cases hm with
  | quiet | dismiss | unmount => exact hA
  | reset | select =>
    refine hA.congr ?_ (isWriting_spawn rfl)
    unfold Affairs.spawn
    split <;> rfl
  | call o => exact hA.congr rfl (isWriting_add rfl)
  | adopt hclosing =>
    exact hA.congr rfl (isWriting_put (hO.conclude hclosing).1 rfl rfl)
  | close hclosing =>
    exact hA.congr rfl (isWriting_drop (o := .quiet) (hO.conclude hclosing).1 rfl)
  | ask hstage => exact hA.congr rfl (isWriting_put hstage rfl rfl)
  | pose call hstage => exact hA.congr rfl (isWriting_put hstage rfl rfl)
  | load call ht hstage hs =>
    refine hA.congr rfl (isWriting_put hstage ?_ rfl)
    rcases hs with ⟨rfl, -⟩ | rfl | ⟨rfl, -⟩ <;> rfl
  | attend hstage hs =>
    refine hA.congr rfl (isWriting_put hstage rfl ?_)
    rcases hs with rfl | ⟨call, rfl⟩ <;> rfl
  | leave o hstage hs =>
    refine hA.congr rfl (isWriting_drop hstage ?_)
    rcases hs with rfl | ⟨call, rfl⟩ | ⟨o, rfl⟩ <;> rfl
  | skip hstage => exact hA.congr rfl (isWriting_drop hstage rfl)
  | staleReply r hstage => exact hA.congr rfl (isWriting_drop hstage rfl)
  | failedReply r b hstage => exact hA.congr rfl (isWriting_drop (o := .quiet) hstage rfl)
  | delivered r x hstage => exact hA.congr rfl (isWriting_put hstage rfl rfl)
  | staleEntries r hstage => exact hA.congr rfl (isWriting_drop hstage rfl)
  | failedEntries f b hstage => exact hA.congr rfl (isWriting_drop (o := .quiet) hstage rfl)
  | loaded entries supply hstage => exact hA.congr rfl (isWriting_put hstage rfl rfl)
  | @save _ n _ _ _ hstage hsaving =>
    intro m
    have hnone : A.IsWriting m = false := by
      rw [← Bool.not_eq_true, ← hA m, hsaving]
      exact nofun
    by_cases hmn : m = n
    · subst hmn
      refine iff_of_true rfl ?_
      rw [IsWriting, stage?_put_self (hstage ▸ rfl)]
      rfl
    · refine iff_of_false (fun h => hmn (Option.some.inj h).symm) ?_
      rw [IsWriting, stage?_put_of_ne hmn, Bool.not_eq_true]
      exact hnone
  | @saved _ n _ _ _ r hstage =>
    intro m
    have hsaving : A.saving = some n := (hA n).mpr (by rw [IsWriting, hstage]; rfl)
    refine iff_of_false nofun fun h => ?_
    -- nobody else was saving
    by_cases hmn : m = n
    · rw [IsWriting, hmn, stage?_drop_self] at h
      cases h
    · rw [IsWriting, stage?_drop_of_ne hmn] at h
      exact hmn (Option.some.inj (((hA m).mpr h).symm.trans hsaving))

end Parley
