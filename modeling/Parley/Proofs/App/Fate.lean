import Parley.Proofs.App.Change

/-!
# What can become of a task

`Parley.Change` is about all the affairs of a conversation at once. `Parley.Fate` is what it says
about one task: where the task stands before and after. A task is left where it is, or it is the one
that the change is about, and then it goes on to one of few stages, or ends.

Whatever is said of a single task follows from `Parley.Change.fate` by looking at the stage it
stands at before, or at the one after.
-/

namespace Parley

/-- The stage of a task after a change of the affairs from `A` to `B`. -/
inductive Fate (A B : Affairs) (n : Nat) : Option Turn → Option Stage → Prop
  /-- The change is about something else. -/
  | kept {l : Option Turn} {s : Option Stage} (hs : A.stage? n = s) : Fate A B n l s
  | called {o : Operation} (hnone : A.stage? n = none) :
      Fate A B n (some (.call o)) (some (.start o))
  /-- It is to save that everything has started anew. -/
  | cleared (hnone : A.stage? n = none) (hpipeline : B.pipeline = A.pipeline.reset) :
      Fate A B n none (some (.wantSave (A.pipeline.generation + 1) {} .quiet))
  | selected {id : Int} (hnone : A.stage? n = none) :
      Fate A B n none (some (.startLoad id .select))
  /-- Its reply is published. -/
  | concluded {c : Nat × Nat × Option Int} {s : Option Stage} (hc : c ∈ A.closing) (hn : c.1 = n)
      (hs : ∀ s', s = some s' → ∃ id, s' = .wantSave c.2.1 ⟨some id⟩ (.sent .delivered)) :
      Fate A B n none s
  | asked {o : Operation} {q : Question} (hs : A.stage? n = some (.start o)) :
      Fate A B n (some (.advance n)) (some (.posing q A.pipeline.generation))
  | posed {q : Question} {g call : Nat} (hs : A.stage? n = some (.posing q g)) :
      Fate A B n (some (.advance n)) (some (.awaitReply call q g))
  | loads {t : Turn} {s : Stage} {call : Nat} {id : Int} {errand : Errand}
      (ht : t = .advance n ∨ ∃ r, t = .giveSession n r) (hs : A.stage? n = some s)
      (hload : s = .start (.load id) ∧ errand = .load ∨ s = .startLoad id errand ∨
        s = .awaitSession ∧ errand = .restore)
      (hpipeline : B.pipeline = A.pipeline.startLoad) :
      Fate A B n (some t) (some (.awaitEntries call id (A.pipeline.generation + 1) errand))
  | attends {o : Operation} {s : Stage} (hs : A.stage? n = some (.start o))
      (hs' : s = .awaitSession ∨ ∃ call, s = .awaitSummaries call) :
      Fate A B n (some (.advance n)) (some s)
  | leaves {t : Turn} {s : Stage} (hs : A.stage? n = some s)
      (hs' : s = .awaitSession ∨ (∃ call, s = .awaitSummaries call) ∨ ∃ o, s = .start o) :
      Fate A B n (some t) none
  /-- Its session is saved, or need not be. -/
  | saves {g : Nat} {session : SavedSession} {o : Outcome} {s : Option Stage}
      (hs : A.stage? n = some (.wantSave g session o))
      (hs' : s = none ∨ s = some (.awaitSaved g session o)) : Fate A B n (some (.advance n)) s
  | saved {g : Nat} {session : SavedSession} {o : Outcome} {r : Except Failure Unit}
      (hs : A.stage? n = some (.awaitSaved g session o)) : Fate A B n (some (.giveSaved n r)) none
  | replied {call g : Nat} {q : Question} {r : Except Failure Reply} {s : Option Stage}
      (hs : A.stage? n = some (.awaitReply call q g)) (hs' : s = none ∨ s = some .publishing) :
      Fate A B n (some (.answer n (.reply r))) s
  | arrived {call g : Nat} {id : Int} {errand : Errand} {r : Except Failure (List HistoryEntry)}
      {s : Option Stage} (hs : A.stage? n = some (.awaitEntries call id g errand))
      (hs' : s = none ∨ s = some (.wantSave g ⟨some id⟩ (App.loadOutcome id (.ok ()) errand))) :
      Fate A B n (some (.answer n (.entries r))) s

namespace Fate

variable {A B : Affairs} {m n : Nat} {l : Option Turn} {s : Stage} {o : Outcome}

/-- A task comes to another stage: it is this one, or this one is kept. -/
theorem put (h : m = n → Fate A B n l (some s)) : Fate A B n l ((A.put m s).stage? n) := by
  rw [Affairs.stage?_put]
  split
  · rename_i hmn
    cases hs : A.stage? n with
    | none => exact .kept hs
    | some s' => exact h hmn.symm
  · exact .kept rfl

/-- A task ends: it is this one, or this one is kept. -/
theorem drop (h : m = n → Fate A B n l none) : Fate A B n l ((A.drop m o).stage? n) := by
  by_cases hmn : m = n
  · rw [hmn, Affairs.stage?_drop_self]
    exact h hmn
  · exact .kept (Affairs.stage?_drop_of_ne (Ne.symm hmn)).symm

/-- A task is added: it is this one, or this one is kept. -/
theorem add (h : A.stage? n = none → Fate A B n l (some s)) :
    Fate A B n l ((A.add s).stage? n) := by
  rw [Affairs.stage?_add]
  cases hs : A.stage? n with
  | some s' => exact .kept hs
  | none =>
    rw [Option.none_or]
    split
    · exact h hs
    · exact .kept hs

theorem spawn (h : A.stage? n = none → Fate A B n l (some s)) :
    Fate A B n l ((A.spawn s).stage? n) := by
  unfold Affairs.spawn
  split
  · exact add h
  · exact .kept rfl

end Fate

/-- **What a change makes of a task.** -/
theorem Change.fate {l : Option Turn} {A B : Affairs} (hm : Change l A B) (n : Nat) :
    Fate A B n l (B.stage? n) := by
  cases hm with
  | quiet | dismiss | unmount => exact .kept rfl
  | reset =>
    have hspawn : ∀ s, Affairs.stage? ({ A with pipeline := A.pipeline.reset }.spawn s) n =
        (A.spawn s).stage? n := by
      intro s
      unfold Affairs.spawn
      dsimp only
      split <;> rfl
    rw [hspawn]
    exact .spawn fun h => .cleared h (Affairs.pipeline_spawn _ _)
  | select id => exact .spawn .selected
  | call o => exact .add .called
  | adopt hclosing =>
    have hc := hclosing ▸ List.mem_append_right _ List.mem_cons_self
    refine .put (A := A) fun hmn => .concluded hc hmn ?_
    rintro s' ⟨⟩
    exact ⟨_, rfl⟩
  | close hclosing =>
    have hc := hclosing ▸ List.mem_append_right _ List.mem_cons_self
    refine .drop (A := A) (o := .quiet) fun hmn => .concluded hc hmn fun s' h => ?_
    cases h
  | ask hstage =>
    refine .put (A := A) ?_
    rintro rfl
    exact .asked hstage
  | pose call hstage =>
    refine .put (A := A) ?_
    rintro rfl
    exact .posed hstage
  | load call ht hstage hs =>
    refine .put (A := A) ?_
    rintro rfl
    exact .loads ht hstage hs rfl
  | attend hstage hs =>
    refine .put ?_
    rintro rfl
    exact .attends hstage hs
  | leave o hstage hs =>
    refine .drop ?_
    rintro rfl
    exact .leaves hstage hs
  | save hstage =>
    refine .put (A := A) ?_
    rintro rfl
    exact .saves hstage (.inr rfl)
  | skip hstage =>
    refine .drop ?_
    rintro rfl
    exact .saves hstage (.inl rfl)
  | saved r hstage =>
    refine .drop (A := A) (o := .quiet) ?_
    rintro rfl
    exact .saved hstage
  | staleReply r hstage | failedReply r b hstage =>
    refine .drop (A := A) (o := .quiet) ?_
    rintro rfl
    exact .replied hstage (.inl rfl)
  | delivered r x hstage =>
    refine .put (A := A) ?_
    rintro rfl
    exact .replied hstage (.inr rfl)
  | staleEntries r hstage | failedEntries f b hstage =>
    refine .drop (A := A) (o := .quiet) ?_
    rintro rfl
    exact .arrived hstage (.inl rfl)
  | loaded entries supply hstage =>
    refine .put (A := A) ?_
    rintro rfl
    exact .arrived hstage (.inr rfl)

end Parley
