import Parley.App.World
import Parley.Proofs.Chat.Mishap

/-!
# What is shown of a failure

A banner has one of three kinds, and few failures belong to one. For all others there is a default,
and this file says that it is never used: whatever a conversation shows, it is what went wrong.

Two things are to be seen for that. A blank text would be refused by the server's side under a
failure of no kind; but no blank question is ever put, neither at first, for the conversation
refuses blank texts by the same test, nor again, for what is asked again is a question that was
accepted before (`Parley.App.Leads.not_blank`). And a banner that is up was put up by an answer of
no use (`Parley.App.Leads.exists_of_banner`), of which the kind is known
(`Parley.Http.Server.mishap_iff`, `Parley.Http.Server.entriesMishap_iff`).
-/

namespace Parley

open Http (rehearsal Response Server)
open Pipeline (refusal?)

/-! ### Answers of a server -/

/-- The call that a stage waits for, if it is one about the conversation. -/
def Stage.call? : Stage → Option Call
  | .awaitReply _ q _ => some (.send q)
  | .awaitEntries _ id _ _ => some (.entries id)
  | _ => none

/-- If a question or the entries of a conversation are answered, the answer is what the server comes
to for them, whatever becomes of the requests. -/
def Moment.IsServed (s : Server) (m : Moment) : Prop :=
  ∀ n r c, m.happening = .turn (.answer n r) → (m.before.stage? n).bind Stage.call? = some c →
    ∃ (w : World (StateM (List Http.Move))) (script : Nat → Option Response),
      w.server = s ∧ w.wire = rehearsal script ∧ (Id.run ((w.ask c).run [])).1.1 = some r

namespace World

variable {w : World (StateM (List Http.Move))} {script : Nat → Option Response} {r : Answer}

theorem ask_send {q : Question} (hwire : w.wire = rehearsal script)
    (h : (Id.run ((w.ask (.send q)).run [])).1.1 = some r) :
    r = .reply (w.server.send (rehearsal script) q).rehearse.1 := by
  rw [← hwire]
  exact (Option.some.inj h).symm

theorem ask_entries {id : Int} (hwire : w.wire = rehearsal script)
    (h : (Id.run ((w.ask (.entries id)).run [])).1.1 = some r) :
    r = .entries (w.server.entries (rehearsal script) id).rehearse.1 := by
  rw [← hwire]
  exact (Option.some.inj h).symm

end World

namespace Moment

variable {s : Server} {m : Moment} {n call g : Nat} {q : Question} {id : Int} {errand : Errand}

theorem IsServed.send (h : m.IsServed s) (hn : m.before.stage? n = some (.awaitReply call q g))
    {r : Except Failure Reply} (hr : m.happening = .turn (.answer n (.reply r))) :
    ∃ script, r = (s.send (rehearsal script) q).rehearse.1 := by
  obtain ⟨w, script, rfl, hwire, hask⟩ := h n _ (.send q) hr (by rw [hn]; rfl)
  exact ⟨script, Answer.reply.inj (World.ask_send hwire hask)⟩

theorem IsServed.entries (h : m.IsServed s)
    (hn : m.before.stage? n = some (.awaitEntries call id g errand))
    {r : Except Failure (List HistoryEntry)} (hr : m.happening = .turn (.answer n (.entries r))) :
    ∃ script, r = (s.entries (rehearsal script) id).rehearse.1 := by
  obtain ⟨w, script, rfl, hwire, hask⟩ := h n _ (.entries id) hr (by rw [hn]; rfl)
  exact ⟨script, Answer.entries.inj (World.ask_entries hwire hask)⟩

end Moment

/-- What the server comes to for a question is such an answer. -/
theorem Moment.isServed_send (s : Server) {a b : App} {n call g : Nat} {q : Question}
    (hn : a.stage? n = some (.awaitReply call q g)) (script : Nat → Option Response) :
    IsServed s ⟨a, .turn (.answer n (.reply (s.send (rehearsal script) q).rehearse.1)), b⟩ := by
  rintro _ _ c ⟨⟩ hcall
  dsimp only at hcall
  rw [hn] at hcall
  obtain rfl := Option.some.inj hcall
  -- the disk is of no importance
  let disk : Disk (StateM (List Http.Move)) := ⟨fun _ => pure (.ok ""), fun _ _ => pure (.ok ()),
    fun _ => pure false, fun _ => pure (.ok ())⟩
  exact ⟨⟨rehearsal script, disk, s, ""⟩, script, rfl, rfl, rfl⟩

/-- Whatever is no answer need not come from a server. -/
theorem Moment.isServed_of_ne {s : Server} {m : Moment}
    (h : ∀ n r, m.happening ≠ .turn (.answer n r)) : m.IsServed s :=
  fun n r _ hr _ => absurd hr (h n r)

/-! ### No blank question is put -/

/-- A question that failed was accepted. -/
theorem Course.exists_accepted_of_failed {ms : Course} {q : Question} (h : failed? ms = some q) :
    ∃ m ∈ ms, ∃ n, m.accepted? = some (n, q) := by
  induction ms with
  | nil => cases h
  | cons m ms ih =>
    cases hm : m.failed? with
    | some n =>
      rw [failed?, hm] at h
      obtain ⟨⟨k, q'⟩, haccepted, hk⟩ := Option.bind_eq_some_iff.mp h
      obtain ⟨-, hq⟩ := Option.ite_none_right_eq_some.mp hk
      obtain rfl := Option.some.inj hq
      obtain ⟨m', hm', h'⟩ := List.exists_of_findSome?_eq_some haccepted
      exact ⟨m', List.mem_cons_of_mem _ hm', k, h'⟩
    | none =>
      rw [failed?_of_not_failed hm] at h
      split at h
      · cases h
      · obtain ⟨m', hm', h'⟩ := ih h
        exact ⟨m', List.mem_cons_of_mem _ hm', h'⟩

/-! ### What puts up a banner, and what fails -/

/-- No load ends with what a question fails with. -/
theorem App.loadOutcome_ne_failed (id : Int) (r : Except Failure Unit) (errand : Errand)
    (kind : BannerKind) : App.loadOutcome id r errand ≠ .sent (.failed kind) := by
  cases errand <;> exact nofun

/-- Only a task that waits for a reply can fail, unless it was settled before that it does. -/
theorem Stage.CanEnd.eq_awaitReply {s : Stage} {kind : BannerKind}
    (h : s.CanEnd (.sent (.failed kind))) (ho : s.outcome? ≠ some (.sent (.failed kind))) :
    ∃ call q g, s = .awaitReply call q g := by
  cases s with
  | awaitReply call q g => exact ⟨call, q, g, rfl⟩
  | start operation => cases operation <;> cases h
  | startLoad | posing | awaitSession | publishing => cases h
  | awaitEntries call id g errand =>
    obtain ⟨r, h⟩ := h
    exact absurd h.symm (App.loadOutcome_ne_failed id r errand kind)
  | awaitSummaries =>
    obtain ⟨r, h⟩ := h
    cases h
  | wantSave | awaitSaved => exact absurd (congrArg some h.symm) ho

/-- **It is never settled beforehand that a question fails.** -/
theorem Change.outcome?_ne_failed {l : Option Turn} {A B : Affairs} (hm : Change l A B) {n : Nat}
    {kind : BannerKind} (hA : ∀ s, A.stage? n = some s → s.outcome? ≠ some (.sent (.failed kind)))
    {s : Stage} (hs : B.stage? n = some s) : s.outcome? ≠ some (.sent (.failed kind)) := by
  intro ho
  have hfate := hm.fate n
  rw [hs] at hfate
  cases hfate with
  | kept h => exact hA s h ho
  | called | cleared | selected | asked | posed | loads => cases ho
  | concluded _ _ h =>
    obtain ⟨_, rfl⟩ := h s rfl
    cases ho
  | attends _ h => rcases h with rfl | ⟨_, rfl⟩ <;> cases ho
  | saves h h' =>
    rcases h' with h' | h' <;> cases h'
    exact hA _ h ho
  | replied _ h => rcases h with h | h <;> cases h; cases ho
  | arrived _ h =>
    rcases h with h | h <;> cases h
    exact App.loadOutcome_ne_failed _ _ _ _ (Option.some.inj ho)

/-- **What can put up a banner**: an answer that comes in time, to a question or to a load that
fails. Whatever else happens leaves the banner as it is, or takes it down. -/
theorem Change.banner {l : Option Turn} {A B : Affairs} (hm : Change l A B) :
    B.pipeline.banner = A.pipeline.banner ∨ B.pipeline.banner = none ∨
      (∃ n call q g r, l = some (.answer n (.reply r)) ∧
        A.stage? n = some (.awaitReply call q g) ∧ A.pipeline.isStale g = false) ∨
      ∃ n call id g errand f, l = some (.answer n (.entries (.error f))) ∧
        A.stage? n = some (.awaitEntries call id g errand) ∧ A.pipeline.isStale g = false := by
  cases hm with
  | @pose _ _ g => exact .inl (congrArg (·.banner) (A.pipeline.pose_eq g))
  | reset => exact .inr (.inl (congrArg (·.banner) (Affairs.pipeline_spawn _ _)))
  | select => exact .inl (congrArg (·.banner) (Affairs.pipeline_spawn _ _))
  | dismiss | ask | load => exact .inr (.inl rfl)
  | failedReply r b hstage hstale =>
    exact .inr (.inr (.inl ⟨_, _, _, _, r, rfl, hstage, hstale⟩))
  | failedEntries f b hstage hstale =>
    exact .inr (.inr (.inr ⟨_, _, _, _, _, f, rfl, hstage, hstale⟩))
  | _ => exact .inl rfl

namespace App

variable {a₀ a b : App} {n g call : Nat} {q : Question} {ws vs : Errands} {c : App × Errands}
  {ms : Course} {x : Happening} {s : Server} {f : Failure} {kind : BannerKind} {m : Moment}

/-- A question is accepted when it is the turn of its task. -/
theorem Happens.turn_of_accepted (hx : Happens x (a, ws) (b, vs))
    (haccepted : Moment.accepted? ⟨a, x, b⟩ = some (n, q)) : x = .turn (.advance n) := by
  obtain ⟨o, g, hpassage⟩ := Moment.accepted?_eq_some.mp haccepted
  obtain ⟨-, ho, hposing⟩ := Moment.passage?_eq_some.mp hpassage
  dsimp only at ho hposing
  rcases hx.change.exists_question_before (n := n) hposing rfl with ⟨s, hs, hq⟩ | ⟨hl, -, -⟩
  · cases hs.symm.trans ho
    cases hq
  · exact Happening.turn?_eq_some.mp hl

/-- **No question that is accepted is blank**, be it to be sent or to be sent again. -/
theorem Leads.not_blank (hfresh : a₀.IsFresh) (hc : Leads (a₀, []) ms c) (hm : m ∈ ms)
    (haccepted : m.accepted? = some (n, q)) : Text.isBlankText q.text = false := by
  induction hc generalizing m n q with
  | start => cases hm
  | @step ms a b ws vs x hc hx ih =>
    obtain rfl | hm := List.mem_cons.mp hm
    · obtain ⟨-, hposing, o, y, t, ho, -, hlast, rfl, -, hcases⟩ := hx.accepted haccepted
      obtain ⟨text, rfl, rfl, -⟩ | ⟨-, hresendable, rfl⟩ := hcases
      · -- it is sent, so the text is not one that would be ignored
        obtain rfl := hx.turn_of_accepted haccepted
        cases hx
        obtain ⟨-, h⟩ | ⟨⟨hblank, -⟩, -⟩ := advance_send ho
        · cases hposing.symm.trans (stage?_of_eq_endTask h)
        · exact hblank
      · -- it is sent again, so it was accepted before
        obtain ⟨y', -, hlast', hfailed⟩ := (hc.pending hfresh).failed hresendable
        obtain rfl : y = y' := Option.some.inj (hlast.symm.trans hlast')
        obtain ⟨m, hm, k, h⟩ := Course.exists_accepted_of_failed hfailed
        exact ih hm h
    · exact ih hm haccepted

/-- So no question that is under way is blank. -/
theorem Leads.not_blank_of_question (hfresh : a₀.IsFresh) (hc : Leads (a₀, []) ms c) {s : Stage}
    (hs : c.1.stage? n = some s) (hq : s.question? = some (q, g)) :
    Text.isBlankText q.text = false := by
  obtain ⟨⟨m, hm, haccepted⟩, -⟩ := hc.questions hfresh hs hq
  exact hc.not_blank hfresh hm haccepted

/-! ### What fails, and what is shown of it -/

/-- **A question fails at a moment for a failure of a kind**: the answer of the server comes in time
and is of no use, and that is what went wrong. -/
inductive FailsBy (s : Server) (n : Nat) (f : Failure) (kind : BannerKind) : Moment → Prop
  | intro {a b : App} {call g : Nat} {q : Question} {r : Except Failure Reply}
      {script : Nat → Option Response} (hn : a.stage? n = some (.awaitReply call q g))
      (hcurrent : a.pipeline.isStale g = false)
      (hr : r = (s.send (rehearsal script) q).rehearse.1) (hf : refusal? r = some f)
      (hkind : f.bannerKind? = some kind) (hmishap : s.Mishap q script kind) :
      FailsBy s n f kind ⟨a, .turn (.answer n (.reply r)), b⟩

/-- **A conversation fails to load at a moment for a failure of a kind.** -/
inductive MissesBy (s : Server) (n : Nat) (f : Failure) (kind : BannerKind) : Moment → Prop
  | intro {a b : App} {call g : Nat} {id : Int} {errand : Errand}
      {r : Except Failure (List HistoryEntry)} {script : Nat → Option Response}
      (hn : a.stage? n = some (.awaitEntries call id g errand))
      (hcurrent : a.pipeline.isStale g = false)
      (hr : r = (s.entries (rehearsal script) id).rehearse.1) (hf : r = .error f)
      (hkind : f.bannerKind? = some kind) (hmishap : s.EntriesMishap id script kind) :
      MissesBy s n f kind ⟨a, .turn (.answer n (.entries r)), b⟩

/-- The banner of a question that fails is of the kind of its failure. -/
theorem FailsBy.kind_ofSend (h : FailsBy s n f kind m) : (Banner.ofSend f).kind = kind := by
  obtain ⟨-, -, -, -, hkind, -⟩ := h
  have hofSend : (Banner.ofSend f).kind = f.bannerKind?.getD .network := rfl
  rw [hofSend, hkind, Option.getD_some]

/-- The banner of a load that fails is of the kind of its failure. -/
theorem MissesBy.kind_ofLoad (h : MissesBy s n f kind m) : (Banner.ofLoad f).kind = kind := by
  obtain ⟨-, -, -, -, hkind, -⟩ := h
  rw [Banner.ofLoad, hkind, Option.getD_some]

/-- An answer of no use that comes in time fails as what went wrong. -/
theorem Leads.failsBy (hfresh : a₀.IsFresh) (hc : Leads (a₀, []) ms (a, ws))
    {r : Except Failure Reply} (hserved : Moment.IsServed s ⟨a, .turn (.answer n (.reply r)), b⟩)
    (hn : a.stage? n = some (.awaitReply call q g)) (hcurrent : a.pipeline.isStale g = false)
    (hf : refusal? r = some f) :
    ∃ kind, FailsBy s n f kind ⟨a, .turn (.answer n (.reply r)), b⟩ := by
  obtain ⟨script, rfl⟩ := hserved.send hn rfl
  obtain ⟨hmishap, hkind⟩ := s.mishap_iff script (hc.not_blank_of_question hfresh hn rfl)
  obtain ⟨kind, hkind⟩ := hkind f hf
  exact ⟨kind, hn, hcurrent, rfl, hf, hkind, (hmishap kind).mpr ⟨f, hf, hkind⟩⟩

/-- An answer of no use that comes in time puts up the banner of its failure. -/
theorem FailsBy.banner (h : FailsBy s n f kind m) (hm : m ∈ ms) (hc : Leads (a₀, []) ms c) :
    m.after.pipeline.banner = some (Banner.ofSend f) ∧ m.Ends n (.sent (.failed kind)) := by
  obtain ⟨_, _, _, _, -, -, hx, -⟩ := hc.exists_of_mem hm
  have hkind := h.kind_ofSend
  obtain ⟨hn, hcurrent, -, hf, -⟩ := h
  have hends := ends_refused hn hcurrent hf
  rw [hkind, ← hx.eq_enter] at hends
  refine ⟨?_, hends⟩
  rw [hx.eq_enter, enter_refused hn hcurrent hf]
  rfl

/-- A conversation that fails to load puts up the banner of its failure. -/
theorem MissesBy.banner (h : MissesBy s n f kind m) (hm : m ∈ ms) (hc : Leads (a₀, []) ms c) :
    m.after.pipeline.banner = some (Banner.ofLoad f) := by
  obtain ⟨_, _, _, _, -, -, hx, -⟩ := hc.exists_of_mem hm
  obtain ⟨hn, hcurrent, -, rfl, -⟩ := h
  rw [hx.eq_enter]
  obtain ⟨hstale, -⟩ | ⟨-, f', xs, hf, h⟩ | ⟨-, _, _, h, -⟩ := enter_entries hn (.error f)
  · cases hcurrent.symm.trans hstale
  · cases hf
    rw [h]
    exact congrArg (·.pipeline.banner) (affairs_notes _ [] xs)
  · cases h

/-- A load that fails in time fails as what went wrong. -/
theorem missesBy {id : Int} {errand : Errand}
    (hserved : Moment.IsServed s ⟨a, .turn (.answer n (.entries (.error f))), b⟩)
    (hn : a.stage? n = some (.awaitEntries call id g errand))
    (hcurrent : a.pipeline.isStale g = false) :
    ∃ kind, MissesBy s n f kind ⟨a, .turn (.answer n (.entries (.error f))), b⟩ := by
  obtain ⟨script, hr⟩ := hserved.entries hn rfl
  obtain ⟨hmishap, hkind⟩ := s.entriesMishap_iff id script
  obtain ⟨kind, hkind⟩ := hkind f hr.symm
  exact ⟨kind, hn, hcurrent, hr, rfl, hkind, (hmishap kind).mpr ⟨f, hr.symm, hkind⟩⟩

/-- An answer that is of use leaves the banner as it is. -/
theorem banner_enter_reply {r : Except Failure Reply}
    (hn : a.stage? n = some (.awaitReply call q g)) (hcurrent : a.pipeline.isStale g = false)
    (hr : refusal? r = none) :
    (a.enter (.answer n (.reply r))).1.pipeline.banner = a.pipeline.banner := by
  have hpublishing := stage?_enter_reply hn hcurrent hr
  obtain ⟨h, -⟩ | ⟨-, shown, y, supply, h⟩ | ⟨-, _, _, _, _, -, -, -, -, h⟩ := enter_reply hn r
  · cases hcurrent.symm.trans h
  · cases hpublishing.symm.trans (stage?_of_eq_endTask (congrArg Prod.fst h))
  · rw [h]
    rfl

/-- **A banner that is up was put up by what went wrong.** -/
theorem Leads.exists_of_banner (hfresh : a₀.IsFresh) (hc : Leads (a₀, []) ms c)
    (hserved : ∀ m ∈ ms, m.IsServed s) {shown : Banner}
    (hshown : c.1.pipeline.banner = some shown) :
    ∃ m ∈ ms, ∃ n f kind, FailsBy s n f kind m ∧ shown = Banner.ofSend f ∨
      MissesBy s n f kind m ∧ shown = Banner.ofLoad f := by
  induction hc with
  | start =>
    rw [hfresh.pipeline] at hshown
    cases hshown
  | @step ms a b ws vs x hc hx ih =>
    obtain ⟨hserved, hearlier⟩ := List.forall_mem_cons.mp hserved
    have hb := hc.step hx
    have hkept : a.pipeline.banner = some shown → ∃ m ∈ (⟨a, x, b⟩ :: ms : Course), ∃ n f kind,
        FailsBy s n f kind m ∧ shown = Banner.ofSend f ∨
          MissesBy s n f kind m ∧ shown = Banner.ofLoad f := fun h =>
      (ih hearlier h).imp fun _ => And.imp_left (List.mem_cons_of_mem _)
    rcases hx.change.banner with h | h | ⟨n, call, q, g, r, hl, hn, hcurrent⟩ |
      ⟨n, call, id, g, errand, f, hl, hn, hcurrent⟩
    · exact hkept (h.symm.trans hshown)
    · cases h.symm.trans hshown
    · obtain rfl := Happening.turn?_eq_some.mp hl
      cases hf : refusal? r with
      | some f =>
        obtain ⟨kind, hfails⟩ := hc.failsBy hfresh hserved hn hcurrent hf
        obtain ⟨hbanner, -⟩ := hfails.banner List.mem_cons_self hb
        exact ⟨_, List.mem_cons_self, n, f, kind, .inl ⟨hfails,
          Option.some.inj (hshown.symm.trans hbanner)⟩⟩
      | none =>
        refine hkept (.trans ?_ hshown)
        rw [hx.eq_enter]
        exact (banner_enter_reply hn hcurrent hf).symm
    · obtain rfl := Happening.turn?_eq_some.mp hl
      obtain ⟨kind, hmisses⟩ := missesBy hserved hn hcurrent
      exact ⟨_, List.mem_cons_self, n, f, kind, .inr ⟨hmisses,
        Option.some.inj (hshown.symm.trans (hmisses.banner List.mem_cons_self hb))⟩⟩

theorem Leads.outcome?_ne_failed (hfresh : a₀.IsFresh) (hc : Leads (a₀, []) ms c) {stage : Stage}
    (hn : c.1.stage? n = some stage) : stage.outcome? ≠ some (.sent (.failed kind)) := by
  induction hc generalizing stage with
  | start =>
    have hnone := Affairs.stage?_of_tasks_eq_nil (A := a₀.affairs []) hfresh.tasks n
    cases hnone.symm.trans hn
  | step hc hx ih => exact hx.change.outcome?_ne_failed (fun _ => ih) hn

/-- **A question that ends with a kind has failed with it.** -/
theorem Leads.failsBy_of_ends (hfresh : a₀.IsFresh) (hc : Leads (a₀, []) ms c)
    (hserved : ∀ m ∈ ms, m.IsServed s) (hm : m ∈ ms) (hends : m.Ends n (.sent (.failed kind))) :
    ∃ f, FailsBy s n f kind m := by
  obtain ⟨_, _, ws, vs, -, hbefore, hx, -⟩ := hc.exists_of_mem hm
  obtain ⟨stage, hn⟩ := Option.isSome_iff_exists.mp hends.found
  have htold : ∀ {o}, m.Ends n o → o = .sent (.failed kind) := fun {o} ho => by
    have h := ho.told.symm.trans hends.told
    cases h
    rfl
  have hserved := hserved m hm
  obtain ⟨a, x, b⟩ := m
  dsimp only at hbefore hx hn
  have hO := hbefore.orderly hfresh
  obtain ⟨o, ho, hcan⟩ := hx.ends hO hn hends.gone
  obtain rfl := htold ho
  obtain ⟨call, q, g, rfl⟩ := hcan.eq_awaitReply (hbefore.outcome?_ne_failed hfresh hn)
  obtain ⟨r, rfl, rfl⟩ := hx.answered_reply hO hn (hends.gone ▸ nofun)
  cases hcurrent : a.pipeline.isStale g with
  | true => cases htold (ends_overtaken hn hcurrent r)
  | false =>
    cases hf : refusal? r with
    | none => cases hends.gone.symm.trans (stage?_enter_reply hn hcurrent hf)
    | some f =>
      obtain ⟨kind', hfails⟩ := hbefore.failsBy hfresh hserved hn hcurrent hf
      cases htold (hfails.banner List.mem_cons_self (hbefore.step hx)).2
      exact ⟨f, hfails⟩

/-- **What is shown of failures**, after a course in which a server gave the answers. -/
structure ShowsKind (s : Server) (ms : Course) (c : App × Errands) : Prop where
  /-- No question that is accepted is blank, be it to be sent or to be sent again. -/
  accepted : ∀ m ∈ ms, ∀ n q, m.accepted? = some (n, q) → Text.isBlankText q.text = false
  /-- And only a blank one would be refused before anything is sent. -/
  blank : ∀ q script,
    (∃ reason, (s.send (rehearsal script) q).rehearse.1 = .error (.validation reason)) ↔
      Text.isBlankText q.text = true
  /-- Every answer to a question that is of no use has a kind, and it has one exactly if that went
  wrong. -/
  replies : ∀ m ∈ ms, ∀ n call q g r, m.before.stage? n = some (.awaitReply call q g) →
    m.happening = .turn (.answer n (.reply r)) → (∀ reason, r ≠ .error (.validation reason)) ∧
      (∀ f, refusal? r = some f → ∃ kind, f.bannerKind? = some kind) ∧
      (∃ script, r = (s.send (rehearsal script) q).rehearse.1) ∧
      ∀ script, r = (s.send (rehearsal script) q).rehearse.1 → ∀ kind,
        s.Mishap q script kind ↔ ∃ f, refusal? r = some f ∧ f.bannerKind? = some kind
  /-- So has every load that fails. -/
  loads : ∀ m ∈ ms, ∀ n call id g errand r,
    m.before.stage? n = some (.awaitEntries call id g errand) →
    m.happening = .turn (.answer n (.entries r)) →
      (∀ f, r = .error f → ∃ kind, f.bannerKind? = some kind) ∧
      (∃ script, r = (s.entries (rehearsal script) id).rehearse.1) ∧
      ∀ script, r = (s.entries (rehearsal script) id).rehearse.1 → ∀ kind,
        s.EntriesMishap id script kind ↔ ∃ f, r = .error f ∧ f.bannerKind? = some kind
  /-- A question that fails puts up a banner of the kind of its failure, and ends with that kind. -/
  failed : ∀ m ∈ ms, ∀ n f kind, FailsBy s n f kind m → m.after.pipeline.banner = some (.ofSend f) ∧
    (Banner.ofSend f).kind = kind ∧ m.Ends n (.sent (.failed kind))
  /-- A load that fails puts up a banner of the kind of its failure. -/
  missed : ∀ m ∈ ms, ∀ n f kind, MissesBy s n f kind m →
    m.after.pipeline.banner = some (.ofLoad f) ∧ (Banner.ofLoad f).kind = kind
  /-- No question ends with a kind but one that fails like this. -/
  ended : ∀ m ∈ ms, ∀ n kind, m.Ends n (.sent (.failed kind)) → ∃ f, FailsBy s n f kind m
  /-- No banner is up but one that was put up like this. -/
  shown : ∀ shown, c.1.pipeline.banner = some shown → ∃ m ∈ ms, ∃ n f,
    FailsBy s n f shown.kind m ∧ shown = .ofSend f ∨ MissesBy s n f shown.kind m ∧ shown = .ofLoad f

/-- **Every failure that is shown is shown as what it is.** A server gives the answers in a course,
whatever becomes of the requests. Then:

* no blank question is ever put, so none is refused as blank;
* every answer of no use, and every load that fails, has a kind: it is one of the network if nothing
  comes back, if the second address fails as well, if a status is no success or a body breaks off;
  malformed if a body is of no use; and one of the assistant's if a body complains;
* the banner that is put up, and what the question ends with, are of that kind;
* nothing else puts up a banner, or lets a question end with a kind. -/
theorem Leads.shows_kinds (s : Server) (hfresh : a₀.IsFresh) (hc : Leads (a₀, []) ms c)
    (hserved : ∀ m ∈ ms, m.IsServed s) : ShowsKind s ms c where
  accepted m hm n q haccepted := hc.not_blank hfresh hm haccepted
  blank q script := s.send_eq_validation_iff q script
  replies m hm n call q g r hn hr := by
    obtain ⟨_, _, _, _, -, hbefore, -⟩ := hc.exists_of_mem hm
    have hblank := hbefore.not_blank_of_question hfresh hn rfl
    obtain ⟨script, rfl⟩ := (hserved m hm).send hn hr
    refine ⟨fun reason hreason => ?_, (s.mishap_iff script hblank).2, ⟨script, rfl⟩,
      fun script' h => ?_⟩
    · have hrefused := (s.send_eq_validation_iff q script).mp ⟨reason, hreason⟩
      cases hrefused.symm.trans hblank
    · rw [h]
      exact (s.mishap_iff script' hblank).1
  loads m hm n call id g errand r hn hr := by
    obtain ⟨script, rfl⟩ := (hserved m hm).entries hn hr
    refine ⟨(s.entriesMishap_iff id script).2, ⟨script, rfl⟩, fun script' h => ?_⟩
    rw [h]
    exact (s.entriesMishap_iff id script').1
  failed m hm n f kind hfails := by
    obtain ⟨hbanner, hends⟩ := hfails.banner hm hc
    exact ⟨hbanner, hfails.kind_ofSend, hends⟩
  missed m hm n f kind hmisses := ⟨hmisses.banner hm hc, hmisses.kind_ofLoad⟩
  ended m hm n kind hends := hc.failsBy_of_ends hfresh hserved hm hends
  shown shown hshown := by
    obtain ⟨m, hm, n, f, kind, ⟨hfails, rfl⟩ | ⟨hmisses, rfl⟩⟩ :=
      hc.exists_of_banner hfresh hserved hshown
    · exact ⟨m, hm, n, f, .inl ⟨hfails.kind_ofSend.symm ▸ hfails, rfl⟩⟩
    · exact ⟨m, hm, n, f, .inr ⟨hmisses.kind_ofLoad.symm ▸ hmisses, rfl⟩⟩

/-- A server that does not answer at first, then has nothing under its first address, and complains
under its second: the question fails as one of the assistant's, and so it is shown. -/
theorem shows_complaint_of_second_address :
    let s : Server := ⟨"http://a", some "http://b", ⟨1, .ofMillis 500⟩, .ascii⟩
    let script : Nat → Option Response
      | 0 => none
      | 1 => some ⟨404, none⟩
      | _ => some ⟨200, some "\x7b\"error\":\"no\"\x7d".toUTF8⟩
    let q : Question := ⟨"hi", none, none⟩
    let a := blank.run [.call (.send "hi"), .advance 0, .advance 0]
    let r := (s.send (rehearsal script) q).rehearse.1
    let b := (a.enter (.answer 0 (.reply r))).1
    a.stage? 0 = some (.awaitReply 0 q 0) ∧ s.Mishap q script .service ∧
      (∃ f, f.bannerKind? = some .service ∧ b.pipeline.banner = some (.ofSend f)) ∧
      Moment.Ends ⟨a, .turn (.answer 0 (.reply r)), b⟩ 0 (.sent (.failed .service)) := by
  intro s script q a r b
  have hn : a.stage? 0 = some (.awaitReply 0 q 0) := rfl
  obtain ⟨ms, hc, hms⟩ : ∃ ms, Leads (blank, []) ms (a, []) ∧
      ∀ m ∈ ms, ∀ n r, m.happening ≠ .turn (.answer n r) := by
    refine ⟨_, ((Leads.start.turn (.call (.send "hi"))).turn (.advance 0)).turn (.advance 0),
      fun m hm n r h => ?_⟩
    simp only [List.mem_cons, List.not_mem_nil, or_false] at hm
    rcases hm with rfl | rfl | rfl <;> cases h
  have hshows := (hc.turn (.answer 0 (.reply r))).shows_kinds s isFresh_blank
    (List.forall_mem_cons.mpr
      ⟨Moment.isServed_send s hn script, fun m hm => Moment.isServed_of_ne (hms m hm)⟩)
  have hmishap : s.Mishap q script .service := by
    obtain ⟨req, hreq⟩ : ∃ req, s.posting s.base q = .ok req :=
      Server.exists_posting (by decide +kernel)
    obtain ⟨req', hreq'⟩ : ∃ req, s.posting "http://b" q = .ok req :=
      Server.exists_posting (by decide +kernel)
    have hfirst : Http.FirstResponse (s.posting s.base q) script 1 ⟨404, none⟩ := by
      rw [hreq]
      refine ⟨fun i hi => ?_, rfl⟩
      obtain rfl : i = 0 := by omega
      rfl
    have hcomplains : Reply.Complains Json.maxDepth "\x7b\"error\":\"no\"\x7d" "no" := by
      refine ⟨.string "no", Reply.has_string_iff.mpr (by decide +kernel), ?_, rfl⟩
      intro h
      cases h
    refine .complaint (.second (by decide) hfirst rfl rfl (by rw [hreq']; rfl) rfl rfl ?_)
      (fun text htext => ?_) hcomplains
    · decide +kernel
    · have hnone : ((Json.whole (Json.value Json.maxDepth) "\x7b\"error\":\"no\"\x7d").toOption.bind
          (·.get? "message")).bind (·.text?) = none := by decide +kernel
      cases hnone.symm.trans (Reply.has_string_iff.mp htext.1)
  obtain ⟨-, -, -, hkinds⟩ := hshows.replies _ List.mem_cons_self 0 0 q 0 r hn rfl
  obtain ⟨f, hf, hkind⟩ := (hkinds script rfl .service).mp hmishap
  obtain ⟨hbanner, -, hends⟩ := hshows.failed _ List.mem_cons_self 0 f .service
    (.intro hn rfl rfl hf hkind hmishap)
  exact ⟨hn, hmishap, ⟨f, hkind, hbanner⟩, hends⟩

end App

end Parley
