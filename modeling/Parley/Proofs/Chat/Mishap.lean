import Parley.Proofs.Chat.Verdict

/-!
# What can go wrong with a question

A question that is put to the server, and a conversation that is asked for, can go wrong in few
ways, and the outcomes of the requests alone decide in which. Here the ways are told apart by how
they are shown to the user: as one of the network if nothing comes back, if what comes back does not
grant the request, or if it breaks off in the middle; as malformed if a body comes back that is of
no use; and as one of the assistant's if the body complains.

Nothing else goes wrong (`Parley.Http.Server.mishap_iff`, `Parley.Http.Fetches.missing_iff`). Every
other failure there is, that of a blank text first of all, never comes of a question that says
something.
-/

namespace Parley

open Json (maxDepth)
open Pipeline (refusal?)
open Reply (Says Complains)

namespace Http

variable {α : Type} {e : Except String Request} {script : Nat → Option Response} {k : Nat}
  {r : Response} {b : Backoff} {kind : BannerKind} {f : Failure}

/-- Either no attempt gets a response, or there is a first one. -/
theorem silent_or_answered (e : Except String Request) (script : Nat → Option Response)
    (most : Nat) : (∀ i ≤ most, outcome? e script i = none) ∨
      ∃ k ≤ most, ∃ r, FirstResponse e script k r := by
  induction most with
  | zero =>
    cases h : outcome? e script 0 with
    | none =>
      refine .inl fun i hi => ?_
      rwa [Nat.le_zero.mp hi]
    | some r => exact .inr ⟨0, Nat.le_refl 0, r, nofun, h⟩
  | succ most ih =>
    obtain hsilent | ⟨k, hk, r, hr⟩ := ih
    · cases h : outcome? e script (most + 1) with
      | none =>
        refine .inl fun i hi => ?_
        obtain hi | rfl := Nat.le_succ_iff.mp hi
        · exact hsilent i hi
        · exact h
      | some r =>
        -- all attempts before the last one were silent, so it is the first that is answered
        exact .inr ⟨most + 1, Nat.le_refl _, r, fun i hi => hsilent i (Nat.le_of_lt_succ hi), h⟩
    · exact .inr ⟨k, Nat.le_succ_of_le hk, r, hr⟩

/-- A failure of the network is shown as one. -/
theorem IsNetwork.bannerKind? {x : Except Failure α} (h : IsNetwork x) :
    ∃ f, x = .error f ∧ f.bannerKind? = some .network := by
  obtain ⟨reason, rfl⟩ := h
  exact ⟨_, rfl, rfl⟩

/-- **What goes wrong is told by the kind of the failure**, if there is one failure at most, if
whatever goes wrong makes one of its kind, and if there is none unless something goes wrong. -/
theorem iff_bannerKind? {wrong : BannerKind → Prop} {fails : Failure → Prop}
    (hunique : ∀ f f', fails f → fails f' → f = f')
    (hfails : ∀ kind, wrong kind → ∃ f, fails f ∧ f.bannerKind? = some kind)
    (hwrong : ∀ f, fails f → ∃ kind, wrong kind) :
    (∀ kind, wrong kind ↔ ∃ f, fails f ∧ f.bannerKind? = some kind) ∧
      ∀ f, fails f → ∃ kind, f.bannerKind? = some kind := by
  have hkinds : ∀ f, fails f → ∃ kind, f.bannerKind? = some kind ∧ wrong kind := by
    intro f hf
    obtain ⟨kind, hwrong⟩ := hwrong f hf
    obtain ⟨f', hf', hkind⟩ := hfails kind hwrong
    obtain rfl := hunique f f' hf hf'
    exact ⟨kind, hkind, hwrong⟩
  refine ⟨fun kind => ⟨hfails kind, ?_⟩, fun f hf => (hkinds f hf).imp fun _ => And.left⟩
  rintro ⟨f, hf, hkind⟩
  obtain ⟨kind', hkind', hwrong⟩ := hkinds f hf
  cases hkind.symm.trans hkind'
  exact hwrong

/-! ### Requests to the first address only -/

/-- **What can go wrong with a request** that is put to the first address only, by the way in which
it is shown. What body is of use depends on what is asked for. -/
inductive Missing (b : Backoff) (e : Except String Request) (useful : String → Prop)
    (script : Nat → Option Response) : BannerKind → Prop
  /-- No attempt gets a response. -/
  | silent (h : ∀ i ≤ b.retries, outcome? e script i = none) : Missing b e useful script .network
  /-- The first response does not grant the request. -/
  | refused {k : Nat} {r : Response} (hk : k ≤ b.retries) (hr : FirstResponse e script k r)
      (hstatus : isSuccess r.status = false) : Missing b e useful script .network
  /-- The request is granted, but its body breaks off. -/
  | broken {k : Nat} {r : Response} (hk : k ≤ b.retries) (hr : FirstResponse e script k r)
      (hstatus : isSuccess r.status = true) (hbody : r.body = none) :
      Missing b e useful script .network
  /-- The request is granted, and its body is of no use. -/
  | useless {k : Nat} {r : Response} {bytes : ByteArray} (hk : k ≤ b.retries)
      (hr : FirstResponse e script k r) (hstatus : isSuccess r.status = true)
      (hbody : r.body = some bytes) (huseless : ¬ useful (Text.ofBytes bytes)) :
      Missing b e useful script .malformed

namespace Fetches

variable {read : String → Except Failure α} {x : Except Failure α} {ms : List Move}

/-- What goes wrong with a request is a failure that is shown as such. -/
theorem error_of_missing (h : Fetches b e read script x ms)
    (hread : ∀ body f, read body = .error f → ∃ reason, f = .malformed reason)
    (hmissing : Missing b e (fun body => ∃ y, read body = .ok y) script kind) :
    ∃ f, x = .error f ∧ f.bannerKind? = some kind := by
  rcases hmissing with hsilent | ⟨hk, hr, hstatus⟩ | ⟨hk, hr, hstatus, hbody⟩ |
    ⟨hk, hr, hstatus, hbody, huseless⟩
  · exact (h.silent hsilent).1.bannerKind?
  · obtain ⟨reason, rfl⟩ := (h.refused _ hk _ hr hstatus).1
    exact ⟨_, rfl, rfl⟩
  · have hreads := (h.granted _ hk _ hr hstatus).1
    rw [Reads, hbody] at hreads
    exact IsNetwork.bannerKind? hreads
  · have hreads := (h.granted _ hk _ hr hstatus).1
    rw [Reads, hbody] at hreads
    dsimp only at hreads huseless
    cases hx : read (Text.ofBytes _) with
    | ok y => exact absurd ⟨y, hx⟩ huseless
    | error f =>
      obtain ⟨reason, rfl⟩ := hread _ f hx
      exact ⟨_, hreads.trans hx, rfl⟩

/-- A request of which nothing goes wrong is answered. -/
theorem missing_or_ok (h : Fetches b e read script x ms) :
    (∃ y, x = .ok y) ∨ ∃ kind, Missing b e (fun body => ∃ y, read body = .ok y) script kind := by
  obtain hsilent | ⟨k, hk, r, hr⟩ := silent_or_answered e script b.retries
  · exact .inr ⟨_, .silent hsilent⟩
  · cases hstatus : isSuccess r.status with
    | false => exact .inr ⟨_, .refused hk hr hstatus⟩
    | true =>
      have hreads := (h.granted k hk r hr hstatus).1
      cases hbody : r.body with
      | none => exact .inr ⟨_, .broken hk hr hstatus hbody⟩
      | some bytes =>
        rw [Reads, hbody] at hreads
        by_cases huseful : ∃ y, read (Text.ofBytes bytes) = .ok y
        · exact .inl (hreads ▸ huseful)
        · exact .inr ⟨_, .useless hk hr hstatus hbody huseful⟩

/-- **A request fails as what went wrong with it**, and every failure of it is shown. -/
theorem missing_iff (h : Fetches b e read script x ms)
    (hread : ∀ body f, read body = .error f → ∃ reason, f = .malformed reason) :
    (∀ kind, Missing b e (fun body => ∃ y, read body = .ok y) script kind ↔
        ∃ f, x = .error f ∧ f.bannerKind? = some kind) ∧
      ∀ f, x = .error f → ∃ kind, f.bannerKind? = some kind := by
  refine iff_bannerKind? (fun f f' hf hf' => Except.error.inj (hf.symm.trans hf'))
    (fun kind => h.error_of_missing hread) fun f hf => ?_
  obtain ⟨y, hy⟩ | hmissing := h.missing_or_ok
  · cases hf.symm.trans hy
  · exact hmissing

end Fetches

namespace Server

variable {s : Server} {q : Question} {body : String}

/-- The request for the entries of a conversation. -/
def askingFor (s : Server) (conversation : Int) : Except String Request :=
  Request.to s.names .get (s.base ++ conversationsPath ++ "/" ++
    String.ofList (Text.decimalInt conversation) ++ "/messages") [] none

/-- What can go wrong with a conversation that is asked for: a body is of use if it is a list of
entries. -/
abbrev EntriesMishap (s : Server) (conversation : Int) :
    (Nat → Option Response) → BannerKind → Prop :=
  Missing s.backoff (s.askingFor conversation) fun body =>
    ∃ es, Json.decode entryList body = .ok es

/-- **A conversation fails to load as what went wrong with it.** -/
theorem entriesMishap_iff (s : Server) (conversation : Int) (script : Nat → Option Response) :
    (∀ kind, s.EntriesMishap conversation script kind ↔
        ∃ f, (s.entries (rehearsal script) conversation).rehearse.1 = .error f ∧
          f.bannerKind? = some kind) ∧
      ∀ f, (s.entries (rehearsal script) conversation).rehearse.1 = .error f →
        ∃ kind, f.bannerKind? = some kind := by
  have hfetches : Fetches s.backoff (s.askingFor conversation)
      (fun body => (Json.decode entryList body).mapError fun e => .malformed e.message) script
      (s.entries (rehearsal script) conversation).rehearse.1
      (s.entries (rehearsal script) conversation).rehearse.2 :=
    fetches_of_fetch "GET conversation messages" _ _ entryList
      fun x ms h => (Talk.Comes.jot _).bind h
  have huseful : ∀ body, (∃ es, Json.decode entryList body = .ok es) ↔ ∃ es,
      (Json.decode entryList body).mapError (fun e => Failure.malformed e.message) = .ok es := by
    intro body
    cases Json.decode entryList body <;> simp [Except.mapError]
  have hmalformed : ∀ body f,
      (Json.decode entryList body).mapError (fun e => Failure.malformed e.message) = .error f →
        ∃ reason, f = .malformed reason := by
    intro body f hf
    cases h : Json.decode entryList body with
    | ok es =>
      rw [h] at hf
      cases hf
    | error e =>
      rw [h] at hf
      cases hf
      exact ⟨_, rfl⟩
  have hmissing := hfetches.missing_iff hmalformed
  simp only [← huseful] at hmissing
  exact hmissing

/-! ### Questions -/

/-- **A question is granted by a response**, of the first address or of the second. -/
inductive GrantedBy (s : Server) (q : Question) (script : Nat → Option Response) (r : Response) :
    Prop
  | first {k : Nat} (hk : k ≤ s.backoff.retries) (hr : FirstResponse (s.posting s.base q) script k r)
      (hstatus : isSuccess r.status = true)
  | second {k : Nat} {r₁ : Response} {address : String} (hk : k ≤ s.backoff.retries)
      (hr₁ : FirstResponse (s.posting s.base q) script k r₁) (hmissing : r₁.status = notFound)
      (hsecond : s.fallback = some address)
      (hr : outcome? (s.posting address q) script (k + 1) = some r)
      (hstatus : isSuccess r.status = true)

/-- **What can go wrong with a question**, by the way in which it is shown. -/
inductive Mishap (s : Server) (q : Question) (script : Nat → Option Response) : BannerKind → Prop
  /-- No attempt at the first address gets a response. -/
  | silent (h : ∀ i ≤ s.backoff.retries, outcome? (s.posting s.base q) script i = none) :
      Mishap s q script .network
  /-- The first address answers with a status that is neither a success nor “not found”. -/
  | refused {k : Nat} {r : Response} (hk : k ≤ s.backoff.retries)
      (hr : FirstResponse (s.posting s.base q) script k r) (hstatus : isSuccess r.status = false)
      (hne : r.status ≠ notFound) : Mishap s q script .network
  /-- There is nothing at the first address, and there is no second. -/
  | astray {k : Nat} {r : Response} (hk : k ≤ s.backoff.retries)
      (hr : FirstResponse (s.posting s.base q) script k r) (hmissing : r.status = notFound)
      (hnone : s.fallback = none) : Mishap s q script .network
  /-- There is nothing at the first address, and the second does not answer or does not grant the
  question. -/
  | second {k : Nat} {r : Response} {address : String} (hk : k ≤ s.backoff.retries)
      (hr : FirstResponse (s.posting s.base q) script k r) (hmissing : r.status = notFound)
      (hsecond : s.fallback = some address)
      (hrefused : ∀ r', outcome? (s.posting address q) script (k + 1) = some r' →
        isSuccess r'.status = false) : Mishap s q script .network
  /-- The question is granted, but the body of the response breaks off. -/
  | broken {r : Response} (h : GrantedBy s q script r) (hbody : r.body = none) :
      Mishap s q script .network
  /-- The question is granted with a body that neither says anything nor complains. -/
  | useless {body : String} (h : Grants s q script body)
      (hmessage : ∀ text, ¬ Says maxDepth body text)
      (hcomplains : ∀ reason, ¬ Complains maxDepth body reason) : Mishap s q script .malformed
  /-- The question is granted with a body that complains and says nothing. -/
  | complaint {body reason : String} (h : Grants s q script body)
      (hmessage : ∀ text, ¬ Says maxDepth body text) (hcomplains : Complains maxDepth body reason) :
      Mishap s q script .service

/-- A question that is granted with a body that does not break off is granted with a text. -/
theorem GrantedBy.grants (h : GrantedBy s q script r) {bytes : ByteArray}
    (hbody : r.body = some bytes) : Grants s q script (Text.ofBytes bytes) := by
  rcases h with ⟨hk, hr, hstatus⟩ | ⟨hk, hr₁, hmissing, hsecond, hr, hstatus⟩
  · exact .first hk hr hstatus hbody rfl
  · exact .second hk hr₁ hmissing hsecond hr hstatus hbody rfl

/-- A body that breaks off is a failure of the network. -/
theorem GrantedBy.isNetwork (h : GrantedBy s q script r) (hbody : r.body = none)
    (hq : Text.isBlankText q.text = false) :
    IsNetwork (s.send (rehearsal script) q).rehearse.1 := by
  have hposes := poses_send (s := s) script hq
  rcases h with ⟨hk, hr, hstatus⟩ | ⟨hk, hr₁, hmissing, hsecond, hr, hstatus⟩
  · have hreads := (hposes.granted _ hk _ hr hstatus).1
    rwa [Reads, hbody] at hreads
  · have hreads := ((hposes.second _ hk _ hr₁ hmissing _ hsecond).2.2 _ hr).2 hstatus
    rwa [Reads, hbody] at hreads

/-- Whether the answer to a question that is granted is of use is told by the body. -/
theorem Grants.judged (h : Grants s q script body) (hq : Text.isBlankText q.text = false) :
    ∃ o, refusal? (s.send (rehearsal script) q).rehearse.1 = o ∧ Reply.Judged body o := by
  rw [h.send hq]
  exact ⟨_, rfl, Reply.judged_ofBody body⟩

/-- A failure of the network is an answer of no use. -/
theorem refusal?_of_isNetwork {x : Except Failure Reply} (h : IsNetwork x) :
    ∃ f, refusal? x = some f ∧ f.bannerKind? = some .network := by
  obtain ⟨f, rfl, hkind⟩ := h.bannerKind?
  exact ⟨f, rfl, hkind⟩

/-- What goes wrong with a question is a failure that is shown as such. -/
theorem Mishap.refusal? (h : s.Mishap q script kind) (hq : Text.isBlankText q.text = false) : ∃ f,
    refusal? (s.send (rehearsal script) q).rehearse.1 = some f ∧ f.bannerKind? = some kind := by
  have hposes := poses_send (s := s) script hq
  rcases h with hsilent | ⟨hk, hr, hstatus, hne⟩ | ⟨hk, hr, hmissing, hnone⟩ |
    ⟨hk, hr, hmissing, hsecond, hrefused⟩ | ⟨hgranted, hbody⟩ | ⟨hgrants, hmessage, hcomplains⟩ |
    ⟨hgrants, hmessage, hcomplains⟩
  · exact refusal?_of_isNetwork (hposes.silent hsilent).1
  · obtain ⟨⟨reason, hx⟩, -⟩ := hposes.refused _ hk _ hr hstatus hne
    rw [hx]
    exact ⟨_, rfl, rfl⟩
  · exact refusal?_of_isNetwork (hposes.astray _ hk _ hr hmissing hnone).1
  · obtain ⟨-, hnone, hsome⟩ := hposes.second _ hk _ hr hmissing _ hsecond
    cases houtcome : outcome? (s.posting _ q) script _ with
    | none => exact refusal?_of_isNetwork (hnone houtcome)
    | some r' => exact refusal?_of_isNetwork ((hsome r' houtcome).1 (hrefused r' houtcome))
  · exact refusal?_of_isNetwork (hgranted.isNetwork hbody hq)
  · obtain ⟨_, ho, h | ⟨-, h⟩ | -⟩ := hgrants.judged hq
    · exact absurd h (hmessage _)
    · exact absurd h (hcomplains _)
    · exact ⟨_, ho, rfl⟩
  · obtain ⟨_, ho, h | - | ⟨-, h⟩⟩ := hgrants.judged hq
    · exact absurd h (hmessage _)
    · exact ⟨_, ho, rfl⟩
    · exact absurd hcomplains (h _)

/-- Of a question that is granted nothing goes wrong, unless the body breaks off or is of no use. -/
theorem GrantedBy.says_or_mishap (h : GrantedBy s q script r) :
    (∃ body text, Grants s q script body ∧ Says maxDepth body text) ∨
      ∃ kind, s.Mishap q script kind := by
  cases hbody : r.body with
  | none => exact .inr ⟨_, .broken h hbody⟩
  | some bytes =>
    have hgrants := h.grants hbody
    by_cases hmessage : ∃ text, Says maxDepth (Text.ofBytes bytes) text
    · obtain ⟨text, htext⟩ := hmessage
      exact .inl ⟨_, text, hgrants, htext⟩
    · rw [not_exists] at hmessage
      by_cases hcomplains : ∃ reason, Complains maxDepth (Text.ofBytes bytes) reason
      · obtain ⟨reason, hreason⟩ := hcomplains
        exact .inr ⟨_, .complaint hgrants hmessage hreason⟩
      · exact .inr ⟨_, .useless hgrants hmessage (not_exists.mp hcomplains)⟩

/-- **Either something goes wrong with a question, or it is granted with a body that says
something.** -/
theorem says_or_mishap (s : Server) (q : Question) (script : Nat → Option Response) :
    (∃ body text, Grants s q script body ∧ Says maxDepth body text) ∨
      ∃ kind, s.Mishap q script kind := by
  obtain hsilent | ⟨k, hk, r, hr⟩ := silent_or_answered (s.posting s.base q) script s.backoff.retries
  · exact .inr ⟨_, .silent hsilent⟩
  · cases hstatus : isSuccess r.status with
    | true => exact GrantedBy.says_or_mishap (.first hk hr hstatus)
    | false =>
      by_cases hmissing : r.status = notFound
      · cases hsecond : s.fallback with
        | none => exact .inr ⟨_, .astray hk hr hmissing hsecond⟩
        | some address =>
          by_cases hrefused : ∀ r', outcome? (s.posting address q) script (k + 1) = some r' →
              isSuccess r'.status = false
          · exact .inr ⟨_, .second hk hr hmissing hsecond hrefused⟩
          · simp only [not_forall, Bool.not_eq_false] at hrefused
            obtain ⟨r', hr', hgranted⟩ := hrefused
            exact GrantedBy.says_or_mishap (.second hk hr hmissing hsecond hr' hgranted)
      · exact .inr ⟨_, .refused hk hr hstatus hmissing⟩

/-- **A question that says something fails as what went wrong with it**, and every failure of it is
shown. -/
theorem mishap_iff (s : Server) (script : Nat → Option Response)
    (hq : Text.isBlankText q.text = false) :
    (∀ kind, s.Mishap q script kind ↔
        ∃ f, refusal? (s.send (rehearsal script) q).rehearse.1 = some f ∧
          f.bannerKind? = some kind) ∧
      ∀ f, refusal? (s.send (rehearsal script) q).rehearse.1 = some f →
        ∃ kind, f.bannerKind? = some kind := by
  refine iff_bannerKind? (fun f f' hf hf' => Option.some.inj (hf.symm.trans hf'))
    (fun kind h => h.refusal? hq) fun f hf => ?_
  obtain ⟨body, text, hgrants, hsays⟩ | hmishap := s.says_or_mishap q script
  · -- a body that says something is of use, even if it complains as well
    obtain ⟨o, ho, hjudged⟩ := hgrants.judged hq
    obtain rfl := ho.symm.trans hf
    rcases hjudged with - | hmessage | hmessage <;> exact absurd hsays (hmessage _)
  · exact hmishap

/-- **A text is refused before anything is sent exactly if it is blank.** -/
theorem send_eq_validation_iff (s : Server) (q : Question) (script : Nat → Option Response) :
    (∃ reason, (s.send (rehearsal script) q).rehearse.1 = .error (.validation reason)) ↔
      Text.isBlankText q.text = true := by
  cases hq : Text.isBlankText q.text with
  | true =>
    refine iff_of_true ⟨"query must not be empty", ?_⟩ rfl
    have hsend : Talk.Comes (s.send (rehearsal script) q) []
        (.error (.validation "query must not be empty")) [] := by
      unfold send
      rw [hq]
      exact (Talk.Comes.throw _).bind_error
    rw [hsend.rehearse]
  | false =>
    refine iff_of_false ?_ Bool.false_ne_true
    rintro ⟨reason, h⟩
    obtain ⟨kind, hkind⟩ := (s.mishap_iff script hq).2 (.validation reason) (by rw [h]; rfl)
    cases hkind

end Server

end Http

end Parley
