import Parley.Proofs.Chat.Crossing
import Parley.Proofs.Chat.Transcript

/-!
# What a task leaves behind

Besides what it does to the conversation, a task can leave things behind for others: events to be
published, and sessions to be saved. It never touches what is stored and shown
(`Parley.App.surroundings_enter`). It leaves events to be published in one turn only, in which it
takes in the reply to its question (`Parley.App.enter_errands`), and it hands over a session in one
turn only, in which it comes to wait until that is saved (`Parley.Change.saves_cases`).

A task only goes on, so one that is known to have leapt over that turn leaves nothing behind, in the
whole of a course (`Parley.App.Leads.isQuiet`, `Parley.App.Leads.savesNothing`). And as long as it
has an exchange of the present generation under way, the messages wait for it
(`Parley.App.Leads.exchange_kept`).
-/

namespace Parley

/-! ### Publishing and saving -/

namespace Course

/-- Nothing that a task does is published, and it leaves alone what is stored and shown. -/
def IsQuiet (ms : Course) (n : Nat) : Prop :=
  ∀ m ∈ ms, ∀ t, m.happening = .turn t → t.task? = some n →
    (m.before.enter t).2 = [] ∧ m.after.store = m.before.store ∧
      m.after.canvas = m.before.canvas

/-- A task hands over no session to be saved. -/
def SavesNothing (ms : Course) (n : Nat) : Prop :=
  ∀ m ∈ ms, ∀ t, m.happening = .turn t → t.task? = some n → m.after.saves = m.before.saves

/-- A task hands over a session of a generation to be saved. -/
def HandsOver (ms : Course) (n g : Nat) (session : SavedSession) : Prop :=
  ∃ m ∈ ms, m.happening = .turn (.advance n) ∧
    m.after.saves = (g, session) :: m.before.saves

end Course

namespace Change

variable {l : Option Turn} {A B : Affairs} {n g : Nat}

/-- **When a session is handed over**: when a task comes to wait until it is saved. -/
theorem saves_cases (hm : Change l A B) : B.saves = A.saves ∨ ∃ n g s o,
    l = some (.advance n) ∧ A.stage? n = some (.wantSave g s o) ∧
      B.stage? n = some (.awaitSaved g s o) ∧ B.saves = (g, s) :: A.saves := by
  cases hm with
  | reset =>
    refine .inl ?_
    unfold Affairs.spawn
    split <;> rfl
  | select id =>
    refine .inl ?_
    unfold Affairs.spawn
    split <;> rfl
  | save hstage =>
    exact .inr ⟨_, _, _, _, rfl, hstage, Affairs.stage?_put_self (hstage ▸ rfl), rfl⟩
  | _ => exact .inl rfl

/-- **Where an exchange under way comes from**: its task had it before, or had asked nothing yet,
and now its question is accepted, or its conversation starts to load. -/
theorem exchange_before (hm : Change l A B) (hsee : B.see Stage.exchange? n = some g) :
    A.see Stage.exchange? n = some g ∨ Stage.progress (A.stage? n) ≤ 1 ∧
      ((∃ o q g', l = some (.advance n) ∧ A.stage? n = some (.start o) ∧
          B.stage? n = some (.posing q g')) ∨
        ∃ t s call id g' errand, l = some t ∧ t.task? = some n ∧ A.stage? n = some s ∧
          s.isLoading = false ∧ B.stage? n = some (.awaitEntries call id g' errand)) := by
  obtain ⟨s, hs, hg⟩ := Option.bind_eq_some_iff.mp hsee
  have hfate := hm.fate n
  rw [hs] at hfate
  cases hfate with
  | kept h =>
    refine .inl ?_
    rw [Affairs.see, h]
    exact hg
  | asked h =>
    rw [h]
    exact .inr ⟨Nat.zero_le _, .inl ⟨_, _, _, rfl, rfl, hs⟩⟩
  | posed h =>
    refine .inl ?_
    rw [Affairs.see, h]
    exact hg
  | loads ht h hload =>
    obtain ⟨htask, hloading⟩ := load_of_turn ht hload
    rw [h]
    refine .inr ⟨?_, .inr ⟨_, _, _, _, _, _, rfl, htask, rfl, hloading, hs⟩⟩
    rcases hload with ⟨rfl, -⟩ | rfl | ⟨rfl, -⟩ <;> simp [Stage.progress]
  -- a task that comes to any other stage has no exchange under way
  | called | cleared | selected => cases hg
  | concluded _ _ h =>
    obtain ⟨_, rfl⟩ := h s rfl
    cases hg
  | attends _ h => rcases h with rfl | ⟨_, rfl⟩ <;> cases hg
  | saves _ h | replied _ h | arrived _ h => rcases h with h | h <;> cases h; cases hg

end Change

namespace App

variable {a₀ a b : App} {n g : Nat} {ws vs : Errands} {x : Happening} {c c' : App × Errands}
  {ms later : Course}

/-- **When a task leaves something to be published**: when it takes in the reply to its question. -/
theorem enter_errands {t : Turn} (ht : t.task? = some n) : (a.enter t).2 = [] ∨
    ∃ call q g, a.stage? n = some (.awaitReply call q g) ∧
      (a.enter t).1.stage? n = some .publishing := by
  cases t with
  | call | publish | tell | jot => cases ht
  | advance | giveSession | giveSaved => exact .inl rfl
  | answer k r =>
    obtain rfl : k = n := Option.some.inj ht
    cases hs : a.stage? k with
    | none =>
      refine .inl ?_
      simp only [enter, takeAnswer, hs]
    | some s =>
      cases s with
      | awaitReply call q g =>
        cases r with
        | reply r =>
          obtain ⟨-, h⟩ | ⟨-, _, _, _, h⟩ | ⟨-, _, _, _, _, -, -, -, -, h⟩ := enter_reply hs r
          · exact .inl (congrArg Prod.snd h)
          · exact .inl (congrArg Prod.snd h)
          · exact .inr ⟨call, q, g, rfl, stage?_of_eq_setStage (congrArg Prod.fst h) (hs ▸ rfl)⟩
        | entries | summaries =>
          refine .inl ?_
          simp only [enter, takeAnswer, hs]
      | _ =>
        refine .inl ?_
        cases r <;> simp only [enter, takeAnswer, hs]

theorem Leads.nextTask_le (hc : Leads c ms c') : c.1.nextTask ≤ c'.1.nextTask := by
  induction hc with
  | start => exact Nat.le_refl _
  | step _ hx ih => exact Nat.le_trans ih hx.change.nextTask_le

/-! ### Whole courses -/

/-- **A task that leaps over the reply is quiet**, before and after. -/
theorem Leads.isQuiet (hfresh : a₀.IsFresh) (hc : Leads (a₀, []) ms (a, ws))
    (hx : Happens x (a, ws) (b, vs)) (hlater : Leads (b, vs) later c') (hn : n < a.nextTask)
    (ha : Stage.progress (a.stage? n) ≤ 3) (hb : 5 ≤ Stage.progress (b.stage? n)) :
    Course.IsQuiet (later ++ ⟨a, x, b⟩ :: ms) n := by
  rintro ⟨before, _, after⟩ hm t rfl htask
  have hwhole : Leads (a₀, []) (later ++ ⟨a, x, b⟩ :: ms) c' := (hc.step hx).append hlater
  obtain ⟨_, _, us, _, -, hbefore, hy, -⟩ := hwhole.exists_of_mem hm
  dsimp only at hbefore hy ⊢
  cases hy with
  | turn =>
    refine ⟨?_, store_enter before t⟩
    rcases enter_errands htask with h | ⟨call, q, g, hs, hs'⟩
    · exact h
    · -- the task would take in the reply to its question, on one side of the leap or the other
      rcases hc.leap hfresh hx hlater hn hm hs with h | h | h
      · rw [hs'] at h
        exact absurd (Nat.le_trans h ha) (by decide)
      · cases h
        rw [hs'] at hb
        exact absurd hb (by decide)
      · exact absurd (Nat.le_trans hb h) (by simp [Stage.progress])

/-- **A task that ends before it has anything to save saves nothing.** -/
theorem Leads.savesNothing (hfresh : a₀.IsFresh) (hc : Leads (a₀, []) ms (a, ws))
    (hx : Happens x (a, ws) (b, vs)) (hlater : Leads (b, vs) later c') (hn : n < a.nextTask)
    (ha : Stage.progress (a.stage? n) ≤ 4) (hb : b.stage? n = none) :
    Course.SavesNothing (later ++ ⟨a, x, b⟩ :: ms) n := by
  intro m hm t hhappening htask
  have hwhole : Leads (a₀, []) (later ++ ⟨a, x, b⟩ :: ms) c' := (hc.step hx).append hlater
  obtain ⟨_, _, us, _, -, hbefore, hy, -⟩ := hwhole.exists_of_mem hm
  rcases hy.change.saves_cases with h | ⟨k, g, s, o, hl, hs, hs', -⟩
  · exact h
  · rw [hhappening] at hl
    obtain rfl : t = .advance k := Option.some.inj hl
    obtain rfl : k = n := Option.some.inj htask
    have hs : m.before.stage? k = some (.wantSave g s o) := hs
    have hs' : m.after.stage? k = some (.awaitSaved g s o) := hs'
    rcases hc.leap hfresh hx hlater hn hm hs with h | rfl | h
    · rw [hs'] at h
      exact absurd (Nat.le_trans h ha) (by simp [Stage.progress])
    · cases hs'.symm.trans hb
    · rw [hb] at h
      exact absurd h (by simp [Stage.progress])

/-- **Where a task is alone and leaves nothing behind, there is nothing behind it.** -/
theorem Leads.undisturbed (hlater : Leads c later c') (hquiet : later.IsQuiet n)
    (hsaves : later.SavesNothing n)
    (halone : ∀ m ∈ later, ∃ t, m.happening = .turn t ∧ t.task? = some n) :
    c'.1.store = c.1.store ∧ c'.1.canvas = c.1.canvas ∧ c'.1.saves = c.1.saves ∧ c'.2 = c.2 := by
  induction hlater with
  | start => exact ⟨rfl, rfl, rfl, rfl⟩
  | @step later a b ws vs x hl hx ih =>
    obtain ⟨hstore, hcanvas, hsaved, herrands⟩ :=
      ih (fun m hm => hquiet m (List.mem_cons_of_mem _ hm))
        (fun m hm => hsaves m (List.mem_cons_of_mem _ hm))
        (fun m hm => halone m (List.mem_cons_of_mem _ hm))
    obtain ⟨t, rfl, ht⟩ := halone _ List.mem_cons_self
    obtain ⟨herrands', hstore', hcanvas'⟩ := hquiet _ List.mem_cons_self t rfl ht
    have hsaved' := hsaves _ List.mem_cons_self t rfl ht
    refine ⟨hstore'.trans hstore, hcanvas'.trans hcanvas, hsaved'.trans hsaved, ?_⟩
    cases hx with
    | turn =>
      dsimp only at herrands'
      rw [herrands']
      exact herrands

/-- What is mounted has been mounted all the time. -/
theorem Leads.alive_iff (hlater : Leads c later c') : c'.1.pipeline.alive = true ↔
    c.1.pipeline.alive = true ∧ ∀ m ∈ later, m.happening.unmounts = false := by
  induction hlater with
  | start => simp
  | step _ hx ih =>
    rw [hx.generation.2, Bool.and_eq_true, ih, Bool.not_eq_true', List.forall_mem_cons,
      and_comm (a := _ = false), and_assoc]

/-- **The messages wait for the exchange under way**, for as long as it is. A task that has begun to
ask has had that exchange all the time, and its generation has been the present one. -/
theorem Leads.exchange_kept (hfresh : a₀.IsFresh) (hc : Leads (a₀, []) ms c)
    (hlater : Leads c later c') (hn : n < c.1.nextTask)
    (hbegun : 2 ≤ Stage.progress (c.1.stage? n))
    (hsee : (c'.1.affairs c'.2).see Stage.exchange? n = some c'.1.pipeline.generation) :
    c'.1.pipeline.generation = c.1.pipeline.generation ∧
      c'.1.pipeline.conversation = c.1.pipeline.conversation ∧
      c'.1.pipeline.transcript = c.1.pipeline.transcript := by
  induction hlater with
  | start => exact ⟨rfl, rfl, rfl⟩
  | @step _ a b ws vs x hl hx ih =>
    have hlead := hc.append hl
    rcases hx.change.exchange_before hsee with h | ⟨h, -⟩
    · obtain ⟨_, hr⟩ := hlead.reached .start
      obtain ⟨hg, hconversation, htranscript⟩ :=
        hx.change.exchange_kept (hr.sound hfresh) h hsee rfl
      obtain ⟨hg', hconversation', htranscript'⟩ := ih (h.trans (congrArg some hg.symm))
      exact ⟨hg.symm.trans hg', hconversation.trans hconversation',
        htranscript.trans htranscript'⟩
    · have hle := (hc.progress_le hfresh hl hn).2
      exact absurd (Nat.le_trans hbegun (Nat.le_trans hle h)) (by decide)

end App

end Parley
