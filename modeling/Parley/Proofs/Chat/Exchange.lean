import Parley.Proofs.App.Orderly

/-!
# At most one exchange is under way

A conversation knows by its phase whether it waits for the server. Nothing in the phase says for
what it waits, and nothing ties it to the tasks that are waiting: a load takes the place of whatever
was under way, a new conversation drops it, and answers for both still come. What ties them is the
generation. `Parley.App.Reached.exchange` is the whole of it, for every app that can be seen as long
as its conversation is mounted: the phase is idle if no task has an exchange of the present
generation under way, and if it is not, there is exactly one; a banner is only up in between; a
question can be asked again only if it is the last message and failed; and while an exchange is
under way, the messages wait for it.

`Parley.Sound` is the invariant behind it. It is kept by every change
(`Parley.Change.sound`), and a change makes one of three things of it: it leaves the exchanges as
they are (`Parley.Sound.same`), it ends the last one (`Parley.Sound.idle`), or it starts the only
one (`Parley.Sound.alone`).
-/

namespace Parley

/-! ### What is under way -/

/-- The generation of the question or the load that a task has under way. -/
def Stage.exchange? : Stage → Option Nat
  | .posing _ g | .awaitReply _ _ g | .awaitEntries _ _ g _ => some g
  | _ => none

/-- The generation of the question that a task has under way. -/
def Stage.asking? : Stage → Option Nat
  | .posing _ g | .awaitReply _ _ g => some g
  | _ => none

/-- A stage at which nothing is under way. -/
def Stage.IsQuiet (s : Stage) : Prop := s.exchange? = none ∧ s.asking? = none

namespace App

/-- The tasks with an exchange of the present generation under way. -/
def underWay (a : App) : List Task :=
  a.tasks.filter fun t => t.stage.exchange? = some a.pipeline.generation

/-- The message that a turn of a task appends to be asked. -/
def question? (a : App) : Turn → Option (Nat × Message)
  | .advance n =>
    match a.stage? n, (a.advance n).stage? n with
    | some (.start _), some (.posing _ _) =>
      (a.advance n).pipeline.transcript.last?.map fun x => (n, x)
    | _, _ => none
  | _ => none

/-- The messages that were asked, each with the task that asked it. -/
def History.questions (h : History) : List (Nat × Message) :=
  h.filterMap fun (a, t) => a.question? t

end App

/-! ### What tasks have under way, in the affairs -/

namespace Affairs

variable {A : Affairs} {m n : Nat} {s s₀ : Stage} {f : Stage → Option Nat}

/-- What can be read off the stage of a task. -/
def see (A : Affairs) (f : Stage → Option Nat) (n : Nat) : Option Nat := (A.stage? n).bind f

theorem see_put (hn : A.stage? n = some s₀) (s : Stage) (m : Nat) :
    (A.put n s).see f m = if m = n then f s else A.see f m := by
  rw [see, stage?_put]
  by_cases h : m = n
  · rw [if_pos h, if_pos h, h, hn]
    rfl
  · rw [if_neg h, if_neg h]
    rfl

theorem see_drop (A : Affairs) (n : Nat) (o : Outcome) (m : Nat) :
    (A.drop n o).see f m = if m = n then none else A.see f m := by
  rw [see, stage?_drop]
  by_cases h : m = n
  · rw [if_pos h, if_pos h]
    rfl
  · rw [if_neg h, if_neg h]
    rfl

/-- A task may come to another stage at which the same is seen. -/
theorem see_put_of_eq (hn : A.stage? n = some s₀) (hs : f s = f s₀) (m : Nat) :
    (A.put n s).see f m = A.see f m := by
  rw [see_put hn]
  split
  · rename_i h
    rw [hs, h, see, hn, Option.bind_some]
  · rfl

theorem see_drop_of_none (hn : A.stage? n = some s₀) (hs₀ : f s₀ = none) (o : Outcome) (m : Nat) :
    (A.drop n o).see f m = A.see f m := by
  rw [see_drop]
  split
  · rename_i h
    rw [h, see, hn, Option.bind_some, hs₀]
  · rfl

theorem see_add_of_none (hA : A.Named) (hs : f s = none) (m : Nat) :
    (A.add s).see f m = A.see f m := by
  rw [see, stage?_add]
  split
  · rename_i h
    rw [h, see, hA.stage?_eq_none (Nat.le_refl _)]
    exact hs
  · rw [Option.or_none, see]

theorem see_spawn_of_none (hA : A.Named) (hs : f s = none) (m : Nat) :
    (A.spawn s).see f m = A.see f m := by
  unfold spawn
  split
  · exact see_add_of_none hA hs m
  · rfl

/-- What is answered in time is of the present generation. -/
theorem see_of_answered {g : Nat} (hn : A.stage? n = some s) (hg : f s = some g)
    (hstale : A.pipeline.isStale g = false) : A.see f n = some A.pipeline.generation := by
  rw [see, hn, Option.bind_some, hg, (Pipeline.isStale_eq_false.mp hstale).2]

/-- A question under way is an exchange under way. -/
theorem see_exchange_of_asking {g : Nat} (h : A.see Stage.asking? n = some g) :
    A.see Stage.exchange? n = some g := by
  obtain ⟨s, hs, hg⟩ := Option.bind_eq_some_iff.mp h
  rw [see, hs, Option.bind_some]
  cases s <;> first | exact hg | cases hg

end Affairs

/-! ### The invariant -/

/-- What ties the phase of a conversation to what its tasks have under way, after the questions
`qs` were asked. -/
structure Sound (qs : List (Nat × Message)) (A : Affairs) : Prop where
  /-- No exchange is ahead of the conversation. -/
  le : ∀ n g, A.see Stage.exchange? n = some g → g ≤ A.pipeline.generation
  unique : ∀ m n, A.see Stage.exchange? m = some A.pipeline.generation →
    A.see Stage.exchange? n = some A.pipeline.generation → m = n
  busy : ∀ n, A.see Stage.exchange? n = some A.pipeline.generation → A.pipeline.phase ≠ .idle
  underWay : A.pipeline.alive = true → A.pipeline.phase ≠ .idle →
    ∃ n, A.see Stage.exchange? n = some A.pipeline.generation
  banner : A.pipeline.banner.isSome → A.pipeline.phase = .idle
  /-- The message of a question under way is the last one. -/
  asked : ∀ n, A.see Stage.asking? n = some A.pipeline.generation →
    ∃ x, (n, x) ∈ qs ∧ x.role = .user ∧ A.pipeline.transcript.last? = some x
  resendable : A.pipeline.resendable = true → A.pipeline.banner.isSome ∧ ∃ n x k,
    (n, x) ∈ qs ∧ (n, k) ∈ A.failures ∧ x.role = .user ∧ A.pipeline.transcript.last? = some x

namespace Sound

variable {A B : Affairs} {qs qs' : List (Nat × Message)} {n : Nat}

theorem of_isFresh {a : App} (ha : a.IsFresh) : Sound [] (a.affairs []) := by
  have hnone : ∀ f n, (a.affairs []).see f n = none := by
    intro f n
    rw [Affairs.see, Affairs.stage?_of_tasks_eq_nil ha.tasks, Option.bind_none]
  have hp : (a.affairs []).pipeline = {} := ha.pipeline
  constructor <;> simp [hnone, hp]

/-- **Exchanges are as they were**, but for stale ones that end. -/
theorem same (hA : Sound qs A) (hqs : ∀ x ∈ qs, x ∈ qs') (hp : B.pipeline = A.pipeline)
    (hfailures : ∀ x ∈ A.failures, x ∈ B.failures)
    (hexchange : ∀ n g, B.see Stage.exchange? n = some g → A.see Stage.exchange? n = some g)
    (hasking : ∀ n g, B.see Stage.asking? n = some g → A.see Stage.asking? n = some g)
    (hto : A.pipeline.alive = true → ∀ n, A.see Stage.exchange? n = some A.pipeline.generation →
      B.see Stage.exchange? n = some A.pipeline.generation) : Sound qs' B where
  le n g h := hp ▸ hA.le n g (hexchange n g h)
  unique m n hm hn := by
    rw [hp] at hm hn
    exact hA.unique m n (hexchange m _ hm) (hexchange n _ hn)
  busy n hn := by
    rw [hp] at hn ⊢
    exact hA.busy n (hexchange n _ hn)
  underWay halive hphase := by
    rw [hp] at halive hphase ⊢
    obtain ⟨n, hn⟩ := hA.underWay halive hphase
    exact ⟨n, hto halive n hn⟩
  banner := hp ▸ hA.banner
  asked n hn := by
    rw [hp] at hn ⊢
    obtain ⟨x, hx, hrest⟩ := hA.asked n (hasking n _ hn)
    exact ⟨x, hqs _ hx, hrest⟩
  resendable h := by
    rw [hp] at h ⊢
    obtain ⟨hbanner, n, x, k, hx, hk, hrest⟩ := hA.resendable h
    exact ⟨hbanner, n, x, k, hqs _ hx, hfailures _ hk, hrest⟩

/-- **Nothing is under way any more.** -/
theorem idle (hidle : B.pipeline.phase = .idle)
    (hlt : ∀ n g, B.see Stage.exchange? n = some g → g < B.pipeline.generation)
    (hresendable : B.pipeline.resendable = true → B.pipeline.banner.isSome ∧ ∃ n x k,
      (n, x) ∈ qs ∧ (n, k) ∈ B.failures ∧ x.role = .user ∧
        B.pipeline.transcript.last? = some x) : Sound qs B where
  le n g h := Nat.le_of_lt (hlt n g h)
  unique m _ hm _ := absurd (hlt m _ hm) (Nat.lt_irrefl _)
  busy n hn := absurd (hlt n _ hn) (Nat.lt_irrefl _)
  underWay _ h := absurd hidle h
  banner _ := hidle
  asked n hn := absurd (hlt n _ (Affairs.see_exchange_of_asking hn)) (Nat.lt_irrefl _)
  resendable := hresendable

/-- **One exchange is begun**, and every other is left behind. -/
theorem alone (hphase : B.pipeline.phase ≠ .idle) (hbanner : B.pipeline.banner = none)
    (hresendable : B.pipeline.resendable = false)
    (hsee : ∀ m, B.see Stage.exchange? m =
      if m = n then some B.pipeline.generation else A.see Stage.exchange? m)
    (hlt : ∀ m g, m ≠ n → A.see Stage.exchange? m = some g → g < B.pipeline.generation)
    (hasked : B.see Stage.asking? n = some B.pipeline.generation →
      ∃ x, (n, x) ∈ qs ∧ x.role = .user ∧ B.pipeline.transcript.last? = some x) : Sound qs B := by
  have hn : B.see Stage.exchange? n = some B.pipeline.generation := (hsee n).trans (if_pos rfl)
  have hothers : ∀ m g, m ≠ n → B.see Stage.exchange? m = some g → g < B.pipeline.generation := by
    intro m g hne h
    rw [hsee, if_neg hne] at h
    exact hlt m g hne h
  have honly : ∀ m, B.see Stage.exchange? m = some B.pipeline.generation → m = n := by
    intro m hm
    by_contra hne
    exact absurd (hothers m _ hne hm) (Nat.lt_irrefl _)
  refine ⟨fun m g hm => ?_, fun m k hm hk => (honly m hm).trans (honly k hk).symm,
    fun _ _ => hphase, fun _ _ => ⟨n, hn⟩, fun h => ?_, fun m hm => ?_, fun h => ?_⟩
  · by_cases hne : m = n
    · rw [hne, hn] at hm
      exact Nat.le_of_eq (Option.some.inj hm).symm
    · exact Nat.le_of_lt (hothers m g hne hm)
  · rw [hbanner] at h
    cases h
  · obtain rfl := honly m (Affairs.see_exchange_of_asking hm)
    exact hasked hm
  · rw [hresendable] at h
    cases h

/-- While anything is under way there is no banner, and nothing to ask again. -/
theorem no_banner (hA : Sound qs A) (hphase : A.pipeline.phase ≠ .idle) :
    A.pipeline.banner = none ∧ A.pipeline.resendable = false := by
  have hbanner : A.pipeline.banner = none := by
    cases hb : A.pipeline.banner with
    | none => rfl
    | some b => exact absurd (hA.banner (hb ▸ rfl)) hphase
  refine ⟨hbanner, ?_⟩
  cases hr : A.pipeline.resendable with
  | false => rfl
  | true =>
    have := (hA.resendable hr).1
    rw [hbanner] at this
    cases this

/-- A task goes from one quiet stage to another. -/
theorem put {s s₀ : Stage} (hA : Sound qs A) (hn : A.stage? n = some s₀) (hs₀ : s₀.IsQuiet)
    (hs : s.IsQuiet) : Sound qs (A.put n s) := by
  refine hA.same (fun _ h => h) rfl (fun _ h => h) (fun m g h => ?_) (fun m g h => ?_)
    (fun _ m h => ?_)
  · rwa [Affairs.see_put_of_eq hn (hs.1.trans hs₀.1.symm)] at h
  · rwa [Affairs.see_put_of_eq hn (hs.2.trans hs₀.2.symm)] at h
  · rwa [Affairs.see_put_of_eq hn (hs.1.trans hs₀.1.symm)]

/-- A task ends at a quiet stage. -/
theorem drop {s₀ : Stage} (hA : Sound qs A) (hn : A.stage? n = some s₀) (hs₀ : s₀.IsQuiet)
    (o : Outcome) : Sound qs (A.drop n o) := by
  refine hA.same (fun _ h => h) rfl (fun _ h => List.mem_append_right _ h) (fun m g h => ?_)
    (fun m g h => ?_) (fun _ m h => ?_)
  · rwa [Affairs.see_drop_of_none hn hs₀.1] at h
  · rwa [Affairs.see_drop_of_none hn hs₀.2] at h
  · rwa [Affairs.see_drop_of_none hn hs₀.1]

/-- A task begins at a quiet stage. -/
theorem spawn {s : Stage} (hA : Sound qs A) (hnamed : A.Named) (hs : s.IsQuiet) :
    Sound qs (A.spawn s) := by
  refine hA.same (fun _ h => h) (A.pipeline_spawn s) (fun _ h => A.failures_spawn s ▸ h)
    (fun m g h => ?_) (fun m g h => ?_) (fun _ m h => ?_)
  · rwa [Affairs.see_spawn_of_none hnamed hs.1] at h
  · rwa [Affairs.see_spawn_of_none hnamed hs.2] at h
  · rwa [Affairs.see_spawn_of_none hnamed hs.1]

theorem add {s : Stage} (hA : Sound qs A) (hnamed : A.Named) (hs : s.IsQuiet) :
    Sound qs (A.add s) := by
  refine hA.same (fun _ h => h) rfl (fun _ h => h) (fun m g h => ?_) (fun m g h => ?_)
    (fun _ m h => ?_)
  · rwa [Affairs.see_add_of_none hnamed hs.1] at h
  · rwa [Affairs.see_add_of_none hnamed hs.2] at h
  · rwa [Affairs.see_add_of_none hnamed hs.1]

/-- What only matters for saving sessions and concluding replies is of no account. -/
theorem congr (hA : Sound qs A) (hp : B.pipeline = A.pipeline) (htasks : B.tasks = A.tasks)
    (hfailures : B.failures = A.failures) : Sound qs B := by
  have hsee : ∀ f n, B.see f n = A.see f n := by
    intro f n
    rw [Affairs.see, Affairs.see, Affairs.stage?, Affairs.stage?, htasks]
  exact hA.same (fun _ h => h) hp (fun _ h => hfailures ▸ h) (fun n g h => hsee _ n ▸ h)
    (fun n g h => hsee _ n ▸ h) (fun _ n h => (hsee _ n).trans h)

/-- A stale answer has come. -/
theorem stale {s₀ : Stage} {g : Nat} (hA : Sound qs A) (hn : A.stage? n = some s₀)
    (hg : s₀.exchange? = some g) (hstale : A.pipeline.isStale g = true) (o : Outcome) :
    Sound qs (A.drop n o) := by
  refine hA.same (fun _ h => h) rfl (fun _ h => List.mem_append_right _ h) (fun m k h => ?_)
    (fun m k h => ?_) (fun halive m h => ?_)
  · rw [Affairs.see_drop] at h
    split at h
    · cases h
    · exact h
  · rw [Affairs.see_drop] at h
    split at h
    · cases h
    · exact h
  · rw [Affairs.see_drop, if_neg]
    · exact h
    · rintro rfl
      rw [Affairs.see, hn, Option.bind_some, hg] at h
      simp [Pipeline.isStale, halive, Option.some.inj h] at hstale

/-- **The answer to the exchange under way has come.** Whatever the conversation makes of it, its
task is not waiting any more. -/
theorem answered {s₀ : Stage} {g : Nat} (hA : Sound qs A) (hn : A.stage? n = some s₀)
    (hg : s₀.exchange? = some g) (hstale : A.pipeline.isStale g = false)
    (hsee : ∀ m, B.see Stage.exchange? m = if m = n then none else A.see Stage.exchange? m)
    (hgeneration : B.pipeline.generation = A.pipeline.generation)
    (hidle : B.pipeline.phase = .idle)
    (hresendable : B.pipeline.resendable = true → B.pipeline.banner.isSome ∧ ∃ n x k,
      (n, x) ∈ qs ∧ (n, k) ∈ B.failures ∧ x.role = .user ∧
        B.pipeline.transcript.last? = some x) : Sound qs B := by
  have hcurrent := Affairs.see_of_answered hn hg hstale
  refine .idle hidle (fun m k hm => ?_) hresendable
  rw [hsee] at hm
  split at hm
  · cases hm
  · rename_i hne
    rw [hgeneration]
    refine Nat.lt_of_le_of_ne (hA.le m k hm) fun h => hne ?_
    exact hA.unique m n (h ▸ hm) hcurrent

end Sound

/-! ### Every change keeps it -/

/-- **Every change keeps what ties the phase to the tasks.** -/
theorem Change.sound {l : Option Turn} {A B : Affairs} {qs qs' : List (Nat × Message)}
    (hm : Change l A B) (hO : A.Orderly) (hA : Sound qs A) (hqs : ∀ x ∈ qs, x ∈ qs')
    (hnew : ∀ n o q g x, l = some (.advance n) → A.stage? n = some (.start o) →
      B.stage? n = some (.posing q g) → B.pipeline.transcript.last? = some x → (n, x) ∈ qs') :
    Sound qs' B := by
  have hA' : Sound qs' A := hA.same hqs rfl (fun _ h => h) (fun _ _ h => h) (fun _ _ h => h)
    (fun _ _ h => h)
  cases hm with
  | quiet => exact hA'
  | reset =>
    have hreset : Sound qs' { A with pipeline := A.pipeline.reset } :=
      .idle rfl (fun n g h => Nat.lt_succ_of_le (hA'.le n g h)) nofun
    exact hreset.spawn ⟨hO.named.nodup, hO.named.lt⟩ ⟨rfl, rfl⟩
  | select id => exact hA'.spawn hO.named ⟨rfl, rfl⟩
  | dismiss =>
    exact { hA' with banner := nofun, resendable := nofun }
  | unmount =>
    exact { hA' with underWay := nofun }
  | call o => exact hA'.add hO.named ⟨rfl, rfl⟩
  | adopt hclosing =>
    obtain ⟨hn, -, -⟩ := hO.conclude hclosing
    exact (hA'.put hn ⟨rfl, rfl⟩ ⟨rfl, rfl⟩).congr rfl rfl rfl
  | close hclosing =>
    obtain ⟨hn, -, -⟩ := hO.conclude hclosing
    exact (hA'.drop hn ⟨rfl, rfl⟩ (.sent .delivered)).congr rfl rfl rfl
  | @ask _ n o t x q hstage hidle hlast hrole =>
    refine .alone nofun rfl rfl (Affairs.see_put hstage _) (fun m g _ h => ?_)
      fun _ => ⟨x, ?_, hrole, hlast⟩
    · exact Nat.lt_of_le_of_ne (hA.le m g h) fun hg => hA.busy m (hg ▸ h) hidle
    · exact hnew n o q _ x rfl hstage (Affairs.stage?_put_self (hstage ▸ rfl)) hlast
  | @pose _ n g q call hstage =>
    by_cases hg : A.pipeline.generation = g
    · -- the question under way is put to the server
      have hn : A.see Stage.exchange? n = some A.pipeline.generation := by
        rw [Affairs.see, hstage, hg]
        rfl
      obtain ⟨hbanner, hresendable⟩ := hA.no_banner (hA.busy n hn)
      have hp : A.pipeline.pose g = { A.pipeline with phase := .awaiting } := if_pos hg
      rw [hp]
      subst hg
      refine .alone nofun hbanner hresendable (Affairs.see_put hstage _) (fun m k hne h => ?_)
        fun _ => hA'.asked n (by rw [Affairs.see, hstage]; rfl)
      exact Nat.lt_of_le_of_ne (hA.le m k h) fun hk => hne (hA.unique m n (hk ▸ h) hn)
    · have hp : A.pipeline.pose g = A.pipeline := if_neg hg
      have hsee : ∀ f : Stage → Option Nat, f (.awaitReply call q g) = f (.posing q g) →
          ∀ m, (A.put n (.awaitReply call q g)).see f m = A.see f m :=
        fun f hf => Affairs.see_put_of_eq hstage hf
      rw [hp]
      exact hA'.same (fun _ h => h) rfl (fun _ h => h)
        (fun m k h => (hsee _ rfl m).symm.trans h) (fun m k h => (hsee _ rfl m).symm.trans h)
        fun _ m h => (hsee _ rfl m).trans h
  | @load _ n t s id errand call ht hstage hs =>
    -- a new generation begins, so everything else is behind
    refine .alone nofun rfl rfl (Affairs.see_put hstage _)
      (fun m g _ h => Nat.lt_succ_of_le (hA.le m g h)) fun h => ?_
    cases h.symm.trans ((Affairs.see_put hstage _ n).trans (if_pos rfl))
  | attend hstage hs =>
    refine hA'.put hstage ⟨rfl, rfl⟩ ?_
    rcases hs with rfl | ⟨call, rfl⟩ <;> exact ⟨rfl, rfl⟩
  | leave o hstage hs =>
    refine hA'.drop hstage ?_ o
    rcases hs with rfl | ⟨call, rfl⟩ | ⟨o, rfl⟩ <;> exact ⟨rfl, rfl⟩
  | save hstage => exact (hA'.put hstage ⟨rfl, rfl⟩ ⟨rfl, rfl⟩).congr rfl rfl rfl
  | skip hstage => exact hA'.drop hstage ⟨rfl, rfl⟩ _
  | saved r hstage => exact (hA'.drop hstage ⟨rfl, rfl⟩ _).congr rfl rfl rfl
  | staleReply r hstage hstale => exact hA'.stale hstage rfl hstale _
  | staleEntries r hstage hstale => exact hA'.stale hstage rfl hstale _
  | @failedReply _ n call g q r b hstage hstale =>
    refine hA'.answered hstage rfl hstale (fun m => Affairs.see_drop _ n _ m) rfl rfl fun _ => ?_
    obtain ⟨x, hx, hrest⟩ := hA'.asked n (Affairs.see_of_answered hstage rfl hstale)
    exact ⟨rfl, n, x, b.kind, hx, List.mem_cons_self, hrest⟩
  | delivered r x hstage hstale =>
    have hbusy := hA.busy _ (Affairs.see_of_answered hstage rfl hstale)
    refine hA'.answered hstage rfl hstale (fun m => Affairs.see_put hstage _ m) rfl rfl fun h => ?_
    cases (hA.no_banner hbusy).2.symm.trans h
  | failedEntries f b hstage hstale =>
    have hbusy := hA.busy _ (Affairs.see_of_answered hstage rfl hstale)
    refine hA'.answered hstage rfl hstale (fun m => Affairs.see_drop _ _ _ m) rfl rfl fun h => ?_
    cases (hA.no_banner hbusy).2.symm.trans h
  | loaded entries supply hstage hstale =>
    have hbusy := hA.busy _ (Affairs.see_of_answered hstage rfl hstale)
    refine hA'.answered hstage rfl hstale (fun m => Affairs.see_put hstage _ m) rfl rfl fun h => ?_
    cases (hA.no_banner hbusy).2.symm.trans h

/-- **What an app may do to the messages while an exchange is under way.** -/
theorem Change.messages {l : Option Turn} {A B : Affairs} {qs : List (Nat × Message)} {n : Nat}
    (hm : Change l A B) (hA : Sound qs A)
    (hn : A.see Stage.exchange? n = some A.pipeline.generation) :
    (B.pipeline.conversation = A.pipeline.conversation ∧
        B.pipeline.transcript = A.pipeline.transcript) ∨
      B.pipeline = A.pipeline.reset ∨ ∃ r, l = some (.answer n r) := by
  cases hm with
  | reset => exact .inr (.inl (Affairs.pipeline_spawn _ _))
  | select id =>
    rw [Affairs.pipeline_spawn]
    exact .inl ⟨rfl, rfl⟩
  | ask hstage hidle => exact absurd hidle (hA.busy n hn)
  | pose call hstage =>
    refine .inl ?_
    dsimp only [Affairs.put, Pipeline.pose]
    split <;> exact ⟨rfl, rfl⟩
  | @delivered _ m _ _ _ r x _ hstage hstale =>
    obtain rfl := hA.unique m n (Affairs.see_of_answered hstage rfl hstale) hn
    exact .inr (.inr ⟨_, rfl⟩)
  | @loaded _ m _ _ _ _ entries supply hstage hstale =>
    obtain rfl := hA.unique m n (Affairs.see_of_answered hstage rfl hstale) hn
    exact .inr (.inr ⟨_, rfl⟩)
  | _ => exact .inl ⟨rfl, rfl⟩

namespace App

variable {a₀ a : App} {h : History} {ws : Errands}

theorem Reached.sound (hfresh : a₀.IsFresh) {c : App × Errands} (hr : Reached a₀ h c) :
    Sound h.questions (c.1.affairs c.2) := by
  induction hr with
  | start => exact .of_isFresh hfresh
  | @turn h a ws t c hr hs ih =>
    have hmem : ∀ x ∈ History.questions h, x ∈ History.questions ((a, t) :: h) := by
      intro x hx
      rw [History.questions, List.filterMap_cons]
      split
      · exact hx
      · exact List.mem_cons_of_mem _ hx
    refine hs.change.sound (hr.orderly hfresh) ih hmem fun n o q g x hl hstage hstage' hlast => ?_
    obtain rfl : t = .advance n := Option.some.inj hl
    cases hs
    -- the turn is in the history with the app it found, and so is its question
    have hquestion : a.question? (.advance n) = some (n, x) := by
      have hstart : a.stage? n = some (.start o) := hstage
      have hposing : (a.advance n).stage? n = some (.posing q g) := hstage'
      have hlast' : (a.advance n).pipeline.transcript.last? = some x := hlast
      simp only [question?, hstart, hposing, hlast', Option.map_some]
    exact List.mem_filterMap.mpr ⟨(a, .advance n), List.mem_cons_self, hquestion⟩
  | errand hr hs ih =>
    refine hs.change.sound (hr.orderly hfresh) ih (fun _ h => h) fun n o q g x hl => ?_
    cases hl

/-! ### What is under way, as tasks of an app -/

theorem mem_underWay (hO : (a.affairs ws).Orderly) {t : Task} : t ∈ a.underWay ↔
    a.stage? t.name = some t.stage ∧ t.stage.exchange? = some a.pipeline.generation := by
  have htasks : t ∈ a.tasks ↔ a.stage? t.name = some t.stage := hO.named.mem_tasks_iff
  simp [underWay, List.mem_filter, htasks]

theorem see_of_mem_underWay (hO : (a.affairs ws).Orderly) {t : Task} (ht : t ∈ a.underWay) :
    (a.affairs ws).see Stage.exchange? t.name = some a.pipeline.generation := by
  obtain ⟨hstage, hg⟩ := (mem_underWay hO).mp ht
  rw [Affairs.see, stage?_affairs, hstage]
  exact hg

theorem mem_underWay_of_see (hO : (a.affairs ws).Orderly) {n : Nat}
    (hn : (a.affairs ws).see Stage.exchange? n = some a.pipeline.generation) :
    ∃ s, ⟨n, s⟩ ∈ a.underWay := by
  obtain ⟨s, hs, hg⟩ := Option.bind_eq_some_iff.mp hn
  exact ⟨s, (mem_underWay hO).mpr ⟨hs, hg⟩⟩

/-- What is under way is under way alone. -/
theorem underWay_eq_singleton {qs : List (Nat × Message)} (hO : (a.affairs ws).Orderly)
    (hS : Sound qs (a.affairs ws)) {t : Task} (ht : t ∈ a.underWay) : a.underWay = [t] := by
  -- tasks of one name are one task
  have hall : ∀ u ∈ a.underWay, u = t := by
    intro u hu
    have hname := hS.unique _ _ (see_of_mem_underWay hO hu) (see_of_mem_underWay hO ht)
    have htasks : ∀ v ∈ a.underWay, v ∈ a.tasks := fun v hv => (List.mem_filter.mp hv).1
    exact List.inj_on_of_nodup_map hO.named.nodup (htasks u hu) (htasks t ht) hname
  have hnodup : a.underWay.Nodup := (hO.named.nodup.of_map _).filter _
  cases hl : a.underWay with
  | nil => exact absurd ht (hl ▸ List.not_mem_nil)
  | cons u us =>
    rw [hl] at hall hnodup
    obtain rfl := hall u List.mem_cons_self
    cases us with
    | nil => rfl
    | cons v vs =>
      obtain rfl := hall v (List.mem_cons_of_mem _ List.mem_cons_self)
      exact absurd List.mem_cons_self (List.nodup_cons.mp hnodup).1

/-- **The phase, the banner and the messages of every app that can be seen.** As long as its
conversation is mounted:

* the phase is not idle exactly if one task has an exchange of the present generation under way and
  no other has, and it is idle exactly if none has;
* a banner is only up while the phase is idle;
* what can be asked again is the last message, which is the user's, and the question that a task
  put for it failed; and a banner is up;
* while a task has such an exchange under way, a step leaves the messages and the number of the
  conversation alone, unless everything starts anew or it is the answer for that task. -/
theorem Reached.exchange (hfresh : a₀.IsFresh) (hr : Reached a₀ h (a, ws))
    (halive : a.pipeline.alive = true) :
    ((a.pipeline.phase ≠ .idle ↔ ∃ t, a.underWay = [t]) ∧
        (a.pipeline.phase = .idle ↔ a.underWay = [])) ∧
      (a.pipeline.banner.isSome → a.pipeline.phase = .idle) ∧
      (a.pipeline.resendable = true → a.pipeline.banner.isSome ∧ ∃ n x k,
        (n, x) ∈ h.questions ∧ .ended n (.sent (.failed k)) ∈ a.trace ∧
          x.role = .user ∧ a.pipeline.transcript.last? = some x) ∧
      ∀ t ∈ a.underWay, ∀ l c, Step l (a, ws) c →
        (c.1.pipeline.conversation = a.pipeline.conversation ∧
            c.1.pipeline.transcript = a.pipeline.transcript) ∨
          c.1.pipeline = a.pipeline.reset ∨ ∃ r, l = some (.answer t.name r) := by
  have hO := hr.orderly hfresh
  have hS := hr.sound hfresh
  have hbusy : a.pipeline.phase ≠ .idle ↔ ∃ t, t ∈ a.underWay := by
    constructor
    · intro hphase
      obtain ⟨n, hn⟩ := hS.underWay halive hphase
      obtain ⟨s, hs⟩ := mem_underWay_of_see hO hn
      exact ⟨_, hs⟩
    · rintro ⟨t, ht⟩
      exact hS.busy _ (see_of_mem_underWay hO ht)
  refine ⟨⟨hbusy.trans ⟨?_, ?_⟩, ?_⟩, hS.banner, fun h => ?_, fun t ht l c hs => ?_⟩
  · rintro ⟨t, ht⟩
    exact ⟨t, underWay_eq_singleton hO hS ht⟩
  · rintro ⟨t, ht⟩
    exact ⟨t, ht ▸ List.mem_cons_self⟩
  · constructor
    · intro hidle
      by_contra hne
      exact hbusy.mpr (List.exists_mem_of_ne_nil _ hne) hidle
    · intro hnil
      by_contra hphase
      obtain ⟨t, ht⟩ := hbusy.mp hphase
      rw [hnil] at ht
      cases ht
  · obtain ⟨hbanner, n, x, k, hx, hk, hrest⟩ := hS.resendable h
    obtain ⟨o, ho, hfailure⟩ := List.mem_filterMap.mp hk
    exact ⟨hbanner, n, x, k, hx, Observation.eq_of_failure? hfailure ▸ ho, hrest⟩
  · exact hs.change.messages hS (see_of_mem_underWay hO ht)

/-- A question that fails: nothing is under way after it, and its message is the last. -/
theorem exchange_of_failed_question :
    let ts : List Turn := [.call (.send "hi"), .advance 0, .advance 0,
      .answer 0 (.reply (.error (.settings "no server")))]
    let a := blank.run ts
    a.pipeline.resendable = true ∧ a.underWay = [] ∧ ∃ n x k,
      (n, x) ∈ (blank.history ts).questions ∧ .ended n (.sent (.failed k)) ∈ a.trace ∧
        x.role = .user ∧ a.pipeline.transcript.last? = some x := by
  intro ts a
  have hresendable : a.pipeline.resendable = true := rfl
  have hidle : a.pipeline.phase = .idle := rfl
  obtain ⟨⟨-, hphase⟩, -, hfailed, -⟩ :=
    Reached.exchange isFresh_blank (reached_run blank ts) (a := a) rfl
  exact ⟨hresendable, hphase.mp hidle, (hfailed hresendable).2⟩

end App

end Parley
