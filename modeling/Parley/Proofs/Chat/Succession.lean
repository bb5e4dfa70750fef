import Parley.Proofs.App.Leftover
import Parley.Proofs.App.Pace
import Parley.Proofs.Chat.Loading

/-!
# In what order sessions are saved

Sessions wait to be saved, each in a task of its own, and nothing is said about the order in which
these tasks come to their turn. A task that goes on while no session is being saved *runs*: it hands
its session over, or it skips it, because one of a later generation was handed over before
(`Parley.Moment.runs?`). A task that goes on in the meantime still waits.

What is handed over is decided by the requests that ran and by nothing else:
`Parley.SaveRequest.attempted` goes through them once, and `Parley.App.Leads.saves_eq` says that
what it keeps is what was handed over, in that order. Whether a session could in fact be saved is
not asked. So an old session does not come back when a later one failed to be saved.

The app remembers one generation, and takes it down only when it is done with a session; while a
session is being saved, the generation of that session counts. The invariant `Parley.App.Keeps` says
that either way it is the latest generation of all requests that ran (`Parley.SaveRequest.latest`),
those that were skipped included.
-/

namespace Parley

/-! ### Requests, latest first -/

/-- A request to save a session of a generation, and the task that makes it. -/
structure SaveRequest where
  task : Nat
  generation : Nat
  session : SavedSession
  deriving DecidableEq

namespace SaveRequest

/-- What is handed over to be saved. -/
def entry (r : SaveRequest) : Nat × SavedSession := (r.generation, r.session)

/-- **The requests that are carried out**, of some that run one after the other: those before which
no request of a later generation ran. -/
def attempted : List SaveRequest → List SaveRequest
  | [] => []
  | r :: rs => if ∀ q ∈ rs, q.generation ≤ r.generation then r :: attempted rs else attempted rs

/-- The latest generation of requests. -/
def latest (rs : List SaveRequest) : Nat := (rs.map generation).foldr max 0

variable {r : SaveRequest} {rs : List SaveRequest} {g : Nat}

theorem latest_cons (r : SaveRequest) (rs : List SaveRequest) :
    latest (r :: rs) = max r.generation (latest rs) := rfl

theorem latest_le_iff : latest rs ≤ g ↔ ∀ q ∈ rs, q.generation ≤ g := by
  induction rs with
  | nil => exact iff_of_true (Nat.zero_le g) (List.forall_mem_nil _)
  | cons r rs ih => rw [latest_cons, Nat.max_le, ih, List.forall_mem_cons]

theorem lt_latest_iff : g < latest rs ↔ ∃ q ∈ rs, g < q.generation := by
  rw [← Nat.not_le, latest_le_iff]
  simp only [not_forall, Nat.not_le, exists_prop]

theorem attempted_cons_of_le (h : latest rs ≤ r.generation) :
    attempted (r :: rs) = r :: attempted rs :=
  if_pos (latest_le_iff.mp h)

theorem attempted_cons_of_lt (h : r.generation < latest rs) :
    attempted (r :: rs) = attempted rs :=
  if_neg fun hall => Nat.not_le_of_lt h (latest_le_iff.mpr hall)

theorem attempted_sublist (rs : List SaveRequest) : (attempted rs).Sublist rs := by
  induction rs with
  | nil => exact .slnil
  | cons r rs ih =>
    unfold attempted
    split
    · exact ih.cons_cons r
    · exact ih.cons r

/-- **Each request that is carried out is of a later generation than those before it**, where no two
are of the same. -/
theorem pairwise_attempted (h : (rs.map generation).Nodup) :
    ((attempted rs).map generation).Pairwise (· > ·) := by
  induction rs with
  | nil => exact .nil
  | cons r rs ih =>
    rw [List.map_cons, List.nodup_cons] at h
    unfold attempted
    split
    · rename_i hall
      refine List.pairwise_cons.mpr ⟨fun g hg => ?_, ih h.2⟩
      obtain ⟨q, hq, rfl⟩ := List.mem_map.mp hg
      have hmem := (attempted_sublist rs).subset hq
      refine Nat.lt_of_le_of_ne (hall q hmem) fun heq => h.1 ?_
      exact heq ▸ List.mem_map_of_mem hmem
    · exact ih h.2

/-- **The last request that is carried out is the one of the latest generation**, whenever that
ran. -/
theorem head?_attempted (h : (rs.map generation).Nodup) (hr : r ∈ rs)
    (hlatest : latest rs ≤ r.generation) : (attempted rs).head? = some r := by
  induction rs with
  | nil => cases hr
  | cons q rs ih =>
    rw [latest_cons, Nat.max_le] at hlatest
    rw [List.map_cons, List.nodup_cons] at h
    rcases List.mem_cons.mp hr with rfl | hr
    · rw [attempted_cons_of_le hlatest.2]
      rfl
    · -- what ran after the request is of an earlier generation
      have hne : q.generation ≠ r.generation := fun heq => h.1 (heq ▸ List.mem_map_of_mem hr)
      have hlt : q.generation < latest rs :=
        lt_latest_iff.mpr ⟨r, hr, Nat.lt_of_le_of_ne hlatest.1 hne⟩
      rw [attempted_cons_of_lt hlt]
      exact ih h.2 hr hlatest.2

end SaveRequest

/-! ### Requests in a course -/

/-- A request waits for its turn. -/
def App.Wants (a : App) (r : SaveRequest) : Prop :=
  ∃ o, a.stage? r.task = some (.wantSave r.generation r.session o)

namespace Moment

variable {m : Moment} {r : SaveRequest}

/-- **The request that runs**: its task goes on, and no session is being saved. -/
def runs? (m : Moment) : Option SaveRequest :=
  match m.happening with
  | .turn (.advance n) =>
    match m.before.saving, m.before.stage? n with
    | none, some (.wantSave g session _) => some ⟨n, g, session⟩
    | _, _ => none
  | _ => none

theorem runs?_eq_some : m.runs? = some r ↔
    m.happening = .turn (.advance r.task) ∧ m.before.saving = none ∧ m.before.Wants r := by
  obtain ⟨n, g, session⟩ := r
  unfold runs?
  constructor
  · intro h
    split at h
    · rename_i hhappening
      split at h
      · rename_i hsaving hstage
        cases h
        exact ⟨hhappening, hsaving, _, hstage⟩
      · cases h
    · cases h
  · rintro ⟨hhappening, hsaving, o, hstage⟩
    simp only [hhappening, hsaving, hstage]

/-- A request is carried out: its session is handed over, and its task waits until it is saved. -/
structure Attempts (m : Moment) (r : SaveRequest) : Prop where
  saves : m.after.saves = r.entry :: m.before.saves
  saving : m.after.saving = some r.task
  waits : ∃ o, m.after.stage? r.task = some (.awaitSaved r.generation r.session o)

/-- A request is skipped: its task ends, and nothing else happens to what is saved. -/
structure Skips (m : Moment) (r : SaveRequest) : Prop where
  saves : m.after.saves = m.before.saves
  saving : m.after.saving = none
  savedGeneration : m.after.savedGeneration = m.before.savedGeneration
  ends : m.after.stage? r.task = none

theorem Attempts.not_skips (h : m.Attempts r) : ¬ m.Skips r := fun h' =>
  List.cons_ne_self _ _ (h.saves.symm.trans h'.saves)

end Moment

/-- The requests that ran, latest first. -/
def Course.ran (ms : Course) : List SaveRequest := ms.filterMap Moment.runs?

namespace Course

variable {m : Moment} {ms : Course} {r : SaveRequest}

theorem ran_cons_of_none (h : m.runs? = none) : Course.ran (m :: ms) = Course.ran ms :=
  List.filterMap_cons_none h

theorem ran_cons_of_some (h : m.runs? = some r) : Course.ran (m :: ms) = r :: Course.ran ms :=
  List.filterMap_cons_some h

theorem mem_ran_cons : r ∈ Course.ran (m :: ms) ↔ m.runs? = some r ∨ r ∈ Course.ran ms := by
  simp only [Course.ran, List.mem_filterMap, List.exists_mem_cons_iff]

end Course

/-! ### One step -/

namespace Change

variable {l : Option Turn} {A B : Affairs} {n g : Nat} {s : SavedSession} {o : Outcome}

/-- **What may become of what is being saved**: nothing, or a task that wants its session saved goes
on, or the session that was handed over last is done with. -/
theorem saving_cases (hm : Change l A B) :
    (B.saving = A.saving ∧ B.savedGeneration = A.savedGeneration ∧ B.saves = A.saves) ∨
      (∃ n g s o, l = some (.advance n) ∧ A.saving = none ∧
        A.stage? n = some (.wantSave g s o)) ∨
      ∃ n s o, A.stage? n = some (.awaitSaved B.savedGeneration s o) ∧ B.saving = none ∧
        B.saves = A.saves := by
  cases hm with
  | reset | select =>
    refine .inl ?_
    unfold Affairs.spawn
    split <;> exact ⟨rfl, rfl, rfl⟩
  | save hstage hsaving => exact .inr (.inl ⟨_, _, _, _, rfl, hsaving, hstage⟩)
  | saved r hstage => exact .inr (.inr ⟨_, _, _, hstage, rfl, rfl⟩)
  | _ => exact .inl ⟨rfl, rfl, rfl⟩

/-- A task that waits until its session is saved did so before, or wanted it saved. -/
theorem awaitSaved_before (hm : Change l A B) (h : B.stage? n = some (.awaitSaved g s o)) :
    A.stage? n = some (.awaitSaved g s o) ∨ A.stage? n = some (.wantSave g s o) := by
  have hfate := hm.fate n
  generalize hs' : B.stage? n = s' at hfate
  obtain rfl := hs'.symm.trans h
  cases hfate with
  | kept h => exact .inl h
  | saves hs hs' =>
    rcases hs' with h | h
    · cases h
    · cases h
      exact .inr hs
  | concluded _ _ hconcluded =>
    obtain ⟨_, h⟩ := hconcluded _ rfl
    cases h
  | attends _ h => rcases h with h | ⟨_, h⟩ <;> cases h
  | replied _ h => rcases h with h | h <;> cases h
  | arrived _ h => rcases h with h | h <;> cases h

end Change

namespace App

variable {a b : App} {ws vs : Errands} {x : Happening} {r : SaveRequest} {c d : App × Errands}
  {ms : Course} {m : Moment}

/-- A task that wants its session saved goes on. -/
theorem enter_of_wants (hr : a.Wants r) : ∃ o,
    a.enter (.advance r.task) = (a.startSave r.task r.generation r.session o, []) := by
  obtain ⟨o, hstage⟩ := hr
  exact ⟨o, by simp only [enter, advance, hstage]⟩

/-- **What becomes of a request that runs**: it is skipped if it is of an earlier generation than
the one that the app remembers, and carried out otherwise. -/
theorem runs_cases (hr : a.Wants r) (hsaving : a.saving = none) (x : Happening) :
    r.generation < a.savedGeneration ∧ (Moment.mk a x (a.enter (.advance r.task)).1).Skips r ∨
      a.savedGeneration ≤ r.generation ∧
        (Moment.mk a x (a.enter (.advance r.task)).1).Attempts r := by
  obtain ⟨o, henter⟩ := enter_of_wants hr
  have hidle : ¬ a.saving.isSome = true := by simp [hsaving]
  rw [henter, startSave, if_neg hidle]
  rcases Nat.lt_or_ge r.generation a.savedGeneration with hg | hg
  · rw [if_pos hg]
    exact .inl ⟨hg, rfl, hsaving, rfl, stage?_of_eq_endTask rfl⟩
  · have hfound : (a.stage? r.task).isSome := by
      obtain ⟨o, hstage⟩ := hr
      exact hstage ▸ rfl
    rw [if_neg (Nat.not_lt_of_le hg)]
    exact .inr ⟨hg, rfl, rfl, o, Affairs.stage?_put_self (A := a.affairs []) hfound⟩

/-- **What becomes of a request that runs**, in a course. -/
theorem Happens.runs_cases (hx : Happens x (a, ws) (b, vs))
    (hr : (Moment.mk a x b).runs? = some r) :
    r.generation < a.savedGeneration ∧ (Moment.mk a x b).Skips r ∨
      a.savedGeneration ≤ r.generation ∧ (Moment.mk a x b).Attempts r := by
  obtain ⟨rfl, hsaving, hwants⟩ := Moment.runs?_eq_some.mp hr
  cases hx
  exact App.runs_cases hwants hsaving _

/-- **A request waits until it runs.** -/
theorem Happens.wants (hx : Happens x (a, ws) (b, vs)) (hO : (a.affairs ws).Orderly)
    (hr : a.Wants r) : b.Wants r ∨ (Moment.mk a x b).runs? = some r := by
  obtain ⟨o, hstage⟩ := hr
  rcases hx.wantSave hO hstage with h | ⟨rfl, -⟩
  · exact .inl ⟨o, h⟩
  · cases hsaving : a.saving with
    | none => exact .inr (Moment.runs?_eq_some.mpr ⟨rfl, hsaving, o, hstage⟩)
    | some n =>
      -- the task has gone on in vain
      obtain ⟨o', henter⟩ := enter_of_wants ⟨o, hstage⟩
      have hsome : a.saving.isSome = true := hsaving ▸ rfl
      cases hx
      rw [henter, startSave, if_pos hsome]
      exact .inl ⟨o, hstage⟩

/-! ### The invariant -/

/-- An app in which requests may wait, and none has run. -/
structure IsUnsaved (a : App) : Prop where
  orderly : (a.affairs []).Orderly
  writes : (a.affairs []).Writes
  saving : a.saving = none
  savedGeneration : a.savedGeneration = 0
  saves : a.saves = []

theorem IsFresh.isUnsaved (ha : a.IsFresh) : a.IsUnsaved :=
  ⟨Affairs.orderly_of_isFresh ha, Affairs.writes_of_isFresh ha, ha.saving, ha.savedGeneration,
    ha.saves⟩

/-- Any task may be added, as long as it has not handed its session over. -/
theorem IsUnsaved.addTask (ha : a.IsUnsaved) {s : Stage} (hs : s.isWriting = false) :
    (a.addTask s).IsUnsaved :=
  ⟨ha.orderly.add s, ha.writes.congr rfl (Affairs.isWriting_add (A := a.affairs []) hs), ha.saving,
    ha.savedGeneration, ha.saves⟩

/-- **What an app keeps of the requests that ran**: what was handed over, and their latest
generation, which is that of the session that is being saved, if one is. -/
structure Keeps (rs : List SaveRequest) (a : App) : Prop where
  writes : (a.affairs []).Writes
  saves : a.saves = (SaveRequest.attempted rs).map SaveRequest.entry
  idle : a.saving = none → a.savedGeneration = SaveRequest.latest rs
  busy : ∀ n g s o, a.stage? n = some (.awaitSaved g s o) → g = SaveRequest.latest rs

variable {rs : List SaveRequest}

/-- A task that waits until its session is saved is known to. -/
theorem saving_of_awaitSaved (ha : (a.affairs []).Writes) {n g : Nat} {s : SavedSession}
    {o : Outcome} (hs : a.stage? n = some (.awaitSaved g s o)) : a.saving = some n := by
  have hs : (a.affairs []).stage? n = some (.awaitSaved g s o) := hs
  refine (ha n).mpr ?_
  rw [Affairs.IsWriting, hs]
  rfl

theorem IsUnsaved.keeps (ha : a.IsUnsaved) : a.Keeps [] where
  writes := ha.writes
  saves := ha.saves
  idle _ := ha.savedGeneration
  busy _ _ _ _ hs := nomatch ha.saving.symm.trans (saving_of_awaitSaved ha.writes hs)

namespace Keeps

/-- A request runs. -/
theorem runs (h : a.Keeps rs) (hb : (b.affairs []).Writes) (hsaving : a.saving = none)
    (hcases : r.generation < a.savedGeneration ∧ (Moment.mk a x b).Skips r ∨
      a.savedGeneration ≤ r.generation ∧ (Moment.mk a x b).Attempts r) : b.Keeps (r :: rs) := by
  rw [h.idle hsaving] at hcases
  rcases hcases with ⟨hlt, hskips⟩ | ⟨hle, hattempts⟩
  · have hlatest : SaveRequest.latest (r :: rs) = SaveRequest.latest rs :=
      Nat.max_eq_right (Nat.le_of_lt hlt)
    refine ⟨hb, ?_, fun _ => ?_, fun n g s o hs => ?_⟩
    · rw [SaveRequest.attempted_cons_of_lt hlt, ← h.saves]
      exact hskips.saves
    · rw [hlatest, ← h.idle hsaving]
      exact hskips.savedGeneration
    · cases hskips.saving.symm.trans (saving_of_awaitSaved hb hs)
  · have hlatest : SaveRequest.latest (r :: rs) = r.generation := Nat.max_eq_left hle
    refine ⟨hb, ?_, fun hidle => ?_, fun n g s o hs => ?_⟩
    · rw [SaveRequest.attempted_cons_of_le hle, List.map_cons, ← h.saves]
      exact hattempts.saves
    · cases hattempts.saving.symm.trans hidle
    · -- nobody else waits until a session is saved
      obtain ⟨o', hwaits⟩ := hattempts.waits
      obtain rfl := Option.some.inj (hattempts.saving.symm.trans (saving_of_awaitSaved hb hs))
      cases hwaits.symm.trans hs
      exact hlatest.symm

/-- No request runs. -/
theorem step (h : a.Keeps rs) (hx : Happens x (a, ws) (b, vs)) (hb : (b.affairs []).Writes)
    (hnone : (Moment.mk a x b).runs? = none) : b.Keeps rs := by
  rcases hx.change.saving_cases with ⟨hsaving, hgeneration, hsaves⟩ |
    ⟨n, g, s, o, hl, hsaving, hstage⟩ | ⟨n, s, o, hstage, hsaving, hsaves⟩
  · refine ⟨hb, hsaves.trans h.saves, fun hidle => ?_, fun n g s o hs => ?_⟩
    · exact hgeneration.trans (h.idle (hsaving.symm.trans hidle))
    · rcases hx.change.awaitSaved_before hs with hs' | hs'
      · exact h.busy n g s o hs'
      · -- a task that only wants its session saved is not the one that is known to save
        have hwriting := (h.writes n).mp (hsaving.symm.trans (saving_of_awaitSaved hb hs))
        have hs' : (a.affairs []).stage? n = some (.wantSave g s o) := hs'
        rw [Affairs.IsWriting, hs'] at hwriting
        cases hwriting
  · have hruns : (Moment.mk a x b).runs? = some ⟨n, g, s⟩ :=
      Moment.runs?_eq_some.mpr ⟨Happening.turn?_eq_some.mp hl, hsaving, o, hstage⟩
    cases hnone.symm.trans hruns
  · refine ⟨hb, hsaves.trans h.saves, fun _ => h.busy n _ s o hstage, fun n g s o hs => ?_⟩
    cases hsaving.symm.trans (saving_of_awaitSaved hb hs)

end Keeps

/-- Tasks stay in order, wherever a course begins. -/
theorem Leads.orderly_of_orderly (hO : (c.1.affairs c.2).Orderly) (hc : Leads c ms d) :
    (d.1.affairs d.2).Orderly := by
  induction hc with
  | start => exact hO
  | step _ hx ih => exact hx.change.orderly ih

/-- **Whatever happens, an app keeps what it is to keep of the requests that ran.** -/
theorem Leads.keeps_ran (ha : a.IsUnsaved) (hc : Leads (a, []) ms c) : c.1.Keeps ms.ran := by
  induction hc with
  | start => exact ha.keeps
  | @step ms a' b ws vs x hc hx ih =>
    have hO : (a'.affairs ws).Orderly := hc.orderly_of_orderly ha.orderly
    have hwrites : (b.affairs []).Writes := hx.change.writes hO ih.writes
    cases hruns : (Moment.mk a' x b).runs? with
    | none =>
      rw [Course.ran_cons_of_none hruns]
      exact ih.step hx hwrites hruns
    | some r =>
      rw [Course.ran_cons_of_some hruns]
      exact ih.runs hwrites (Moment.runs?_eq_some.mp hruns).2.1 (hx.runs_cases hruns)

/-- **What is handed over is decided by the requests that ran.** -/
theorem Leads.saves_eq (ha : a.IsUnsaved) (hc : Leads (a, []) ms c) :
    c.1.saves = (SaveRequest.attempted ms.ran).map SaveRequest.entry :=
  (hc.keeps_ran ha).saves

/-- **A request is skipped if one of a later generation ran before it**, and carried out
otherwise. -/
theorem Leads.runs_cases (ha : a.IsUnsaved) (hc : Leads (a, []) (m :: ms) c)
    (hr : m.runs? = some r) :
    r.generation < SaveRequest.latest ms.ran ∧ m.Skips r ∨
      SaveRequest.latest ms.ran ≤ r.generation ∧ m.Attempts r := by
  cases hc with
  | step hc hx =>
    rw [← (hc.keeps_ran ha).idle (Moment.runs?_eq_some.mp hr).2.1]
    exact hx.runs_cases hr

/-- **A request waits, or it has run.** -/
theorem Leads.wants (hO : (c.1.affairs c.2).Orderly) (hc : Leads c ms d) (hr : c.1.Wants r) :
    d.1.Wants r ∨ r ∈ ms.ran := by
  induction hc with
  | start => exact .inl hr
  | @step ms a b ws vs x hc hx ih =>
    rw [Course.mem_ran_cons]
    rcases ih with hwants | hmem
    · exact (hx.wants (hc.orderly_of_orderly hO) hwants).imp_right .inl
    · exact .inr (.inr hmem)

/-! ### Every order -/

/-- Whatever a task learns about its session, no session is being saved then. -/
theorem saving_giveSaved {n g : Nat} {s : SavedSession} {o : Outcome}
    (hs : a.stage? n = some (.awaitSaved g s o)) (y : Except Failure Unit) :
    (a.giveSaved n y).saving = none := by
  simp only [giveSaved, hs]
  rfl

/-- A request that waits can run, and whatever comes of its session, no session is being saved in
the end. -/
theorem exists_leads_runs (hr : a.Wants r) (hsaving : a.saving = none) (y : Except Failure Unit) :
    ∃ since b, Leads (a, []) since (b, []) ∧ since.ran = [r] ∧ b.saving = none ∧
      ∀ m ∈ since, ∀ n z, m.happening = .turn (.giveSaved n z) → n = r.task ∧ z = y := by
  have hruns : ∀ b, (Moment.mk a (.turn (.advance r.task)) b).runs? = some r := fun _ =>
    Moment.runs?_eq_some.mpr ⟨rfl, hsaving, hr⟩
  have hc := ((Leads.start (c := (a, []))).turn (.advance r.task)).turn (.giveSaved r.task y)
  refine ⟨_, _, hc, ?_, ?_, ?_⟩
  · rw [Course.ran_cons_of_none rfl, Course.ran_cons_of_some (hruns _)]
    rfl
  · rcases runs_cases hr hsaving (.turn (.advance r.task)) with ⟨-, hskips⟩ | ⟨-, hattempts⟩
    · -- the task has ended, and hears of nothing
      have hends := hskips.ends
      dsimp only at hends
      simp only [enter, giveSaved] at hends ⊢
      rw [hends]
      exact hskips.saving
    · obtain ⟨o, hwaits⟩ := hattempts.waits
      exact saving_giveSaved hwaits y
  · intro m hm n z hz
    simp only [List.mem_cons, List.not_mem_nil, or_false] at hm
    rcases hm with rfl | rfl
    · cases hz
      exact ⟨rfl, rfl⟩
    · cases hz

/-- **Requests that wait can run in any order**, and any of their sessions may fail to be saved. -/
theorem exists_leads_order (results : Nat → Except Failure Unit) {order : List SaveRequest}
    (hO : (a.affairs []).Orderly) (hsaving : a.saving = none) (hnodup : order.Nodup)
    (hwants : ∀ r ∈ order, a.Wants r) : ∃ ms b, Leads (a, []) ms (b, []) ∧
      ms.ran = order.reverse ∧ b.saving = none ∧
      ∀ m ∈ ms, ∀ n y, m.happening = .turn (.giveSaved n y) → y = results n := by
  induction order generalizing a with
  | nil => exact ⟨[], a, .start, rfl, hsaving, List.forall_mem_nil _⟩
  | cons r rs ih =>
    obtain ⟨hr, hrs⟩ := List.forall_mem_cons.mp hwants
    rw [List.nodup_cons] at hnodup
    obtain ⟨since, b, hc, hran, hidle, hgiven⟩ := exists_leads_runs hr hsaving (results r.task)
    have hrest : ∀ q ∈ rs, b.Wants q := by
      intro q hq
      refine (hc.wants hO (hrs q hq)).resolve_right fun hmem => hnodup.1 ?_
      rw [hran, List.mem_singleton] at hmem
      exact hmem ▸ hq
    obtain ⟨ms, d, hd, hms, hend, hresults⟩ :=
      ih (hc.orderly_of_orderly hO) hidle hnodup.2 hrest
    refine ⟨ms ++ since, d, hc.append hd, ?_, hend, fun m hm n y hy => ?_⟩
    · rw [Course.ran, List.filterMap_append, List.reverse_cons, ← hms, ← hran]
      rfl
    · rcases List.mem_append.mp hm with hm | hm
      · exact hresults m hm n y hy
      · obtain ⟨rfl, rfl⟩ := hgiven m hm n y hy
        rfl

/-! ### The order in which sessions are saved -/

/-- **In what order sessions are saved**, in an app in which some of them wait and none was saved.

* The requests that wait may run in any order, and any of the sessions may fail to be saved.
* Whatever else happens in between, a request waits until it runs. If no two of the requests that
  ran are of the same generation, the following holds.
* The generations of the sessions that were handed over to be saved increase. The one handed over
  last is of the latest generation of all the requests that ran.
* A request is skipped exactly if one of a later generation ran before it, and carried out exactly
  if none did. It makes no difference whether the session of the later one was saved, or whether
  that request was skipped itself. -/
theorem IsUnsaved.saved_in_order (ha : a.IsUnsaved) :
    (∀ (order : List SaveRequest) (results : Nat → Except Failure Unit), order.Nodup →
      (∀ r ∈ order, a.Wants r) → ∃ ms b, Leads (a, []) ms (b, []) ∧ ms.ran = order.reverse ∧
        b.saving = none ∧
        ∀ m ∈ ms, ∀ n y, m.happening = .turn (.giveSaved n y) → y = results n) ∧
    ∀ ms b ws, Leads (a, []) ms (b, ws) →
      (∀ r, a.Wants r → b.Wants r ∨ r ∈ ms.ran) ∧
      ((ms.ran.map SaveRequest.generation).Nodup →
        (b.saves.map Prod.fst).Pairwise (· > ·) ∧
        (∀ r ∈ ms.ran, (∀ q ∈ ms.ran, q.generation ≤ r.generation) →
          b.saves.head? = some (r.generation, r.session)) ∧
        ∀ later m earlier r, ms = later ++ m :: earlier → m.runs? = some r →
          (m.Skips r ↔ ∃ q ∈ Course.ran earlier, r.generation < q.generation) ∧
          (m.Attempts r ↔ ∀ q ∈ Course.ran earlier, q.generation ≤ r.generation)) := by
  refine ⟨fun order results hnodup hwants =>
    exists_leads_order results ha.orderly ha.saving hnodup hwants, fun ms b ws hc =>
    ⟨fun r hr => hc.wants ha.orderly hr, fun hnodup => ⟨?_, fun r hr hlatest => ?_, ?_⟩⟩⟩
  · have hgenerations : b.saves.map Prod.fst =
        (SaveRequest.attempted ms.ran).map SaveRequest.generation := by
      rw [hc.saves_eq ha, List.map_map]
      rfl
    rw [hgenerations]
    exact SaveRequest.pairwise_attempted hnodup
  · have hlast := SaveRequest.head?_attempted hnodup hr (SaveRequest.latest_le_iff.mpr hlatest)
    rw [hc.saves_eq ha, List.head?_map, hlast]
    rfl
  · rintro later m earlier r rfl hr
    obtain ⟨d, hd, -⟩ := hc.exists_of_append
    rw [← SaveRequest.lt_latest_iff, ← SaveRequest.latest_le_iff]
    rcases hd.runs_cases ha hr with ⟨hlt, hskips⟩ | ⟨hle, hattempts⟩
    · exact ⟨iff_of_true hskips hlt,
        iff_of_false (fun h => h.not_skips hskips) (Nat.not_le_of_lt hlt)⟩
    · exact ⟨iff_of_false hattempts.not_skips (Nat.not_lt_of_le hle), iff_of_true hattempts hle⟩

/-- A session of generation 3 goes on while one of generation 5 is being saved, and waits. The other
one fails to be saved, and yet the earlier one is skipped, as is one of generation 6 after one of
generation 7. -/
theorem saved_in_order_of_failure :
    let a := (((blank.addTask (.wantSave 5 ⟨some 5⟩ .quiet)).addTask
      (.wantSave 3 ⟨some 3⟩ .quiet)).addTask (.wantSave 7 ⟨some 7⟩ .quiet)).addTask
      (.wantSave 6 ⟨some 6⟩ .quiet)
    let ts : List Turn := [.advance 0, .advance 1, .giveSaved 0 (.error (.storage "full")),
      .advance 1, .advance 2, .giveSaved 2 (.ok ()), .advance 3]
    let ms := (a.itinerary ts).1
    a.IsUnsaved ∧ Leads (a, []) ms (a.run ts, []) ∧
      ms.ran.map SaveRequest.generation = [6, 7, 3, 5] ∧
      (a.run ts).saves.head? = some (7, ⟨some 7⟩) ∧
      ∃ later m earlier, ms = later ++ m :: earlier ∧ m.runs? = some ⟨1, 3, ⟨some 3⟩⟩ ∧
        Course.ran earlier = [⟨0, 5, ⟨some 5⟩⟩] ∧ m.Skips ⟨1, 3, ⟨some 3⟩⟩ := by
  intro a ts ms
  have ha : a.IsUnsaved :=
    (((isFresh_blank.isUnsaved.addTask rfl).addTask rfl).addTask rfl).addTask rfl
  have hpaces : Paces (fun _ => True) (a, []) ms (a.run ts, []) := paces_itinerary trivial a ts
  have hran : ms.ran = [⟨3, 6, ⟨some 6⟩⟩, ⟨2, 7, ⟨some 7⟩⟩, ⟨1, 3, ⟨some 3⟩⟩,
    ⟨0, 5, ⟨some 5⟩⟩] := by decide +kernel
  have hfourth : ms[3]?.bind Moment.runs? = some ⟨1, 3, ⟨some 3⟩⟩ := by decide +kernel
  obtain ⟨m, hm, hruns⟩ := Option.bind_eq_some_iff.mp hfourth
  have hparts : ms = ms.take 3 ++ m :: ms.drop 4 := by
    obtain ⟨_, rfl⟩ := List.getElem?_eq_some_iff.mp hm
    rw [List.getElem_cons_drop, List.take_append_drop]
  have hearlier : Course.ran (ms.drop 4) = [⟨0, 5, ⟨some 5⟩⟩] := by decide +kernel
  obtain ⟨-, hcourses⟩ := ha.saved_in_order
  obtain ⟨-, horder⟩ := hcourses ms _ _ hpaces.leads
  rw [hran] at horder
  obtain ⟨-, hlast, hsorted⟩ := horder (by decide)
  obtain ⟨hskips, -⟩ := hsorted _ _ _ _ hparts hruns
  rw [hearlier] at hskips
  refine ⟨ha, hpaces.leads, congrArg (List.map SaveRequest.generation) hran,
    hlast ⟨2, 7, ⟨some 7⟩⟩ (by decide) (by decide), _, _, _, hparts, hruns, hearlier, ?_⟩
  exact hskips.mpr ⟨_, List.mem_cons_self, by decide⟩

end App

end Parley
