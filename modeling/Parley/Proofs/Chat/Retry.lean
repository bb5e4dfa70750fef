import Parley.Proofs.Chat.Transcript

/-!
# A question that failed is asked again

Nothing is kept of a question that failed but the message it was asked with and a flag. Asking again
takes the message back, appends it again and asks its text, with whatever the number of the
conversation and the persona are then. `Parley.App.Leads.retry_resends` says that this is the
question that failed, number and persona included, and that the transcript never shows it twice,
however often it fails. If nothing failed, or something else has happened since, nothing is asked.

Since the flag is up exactly if there is a question that failed (`Parley.App.Leads.resendable_iff`),
all that is left to show is what becomes of the question until it is put to the server
(`Parley.App.Leads.posing`), and that asking in vain leaves everything as it was
(`Parley.App.Leads.messages_kept`).
-/

namespace Parley

/-- A task that is to put a question waits for its turn. -/
theorem Change.posing_kept {l : Option Turn} {A B : Affairs} {n g : Nat} {q : Question}
    (hm : Change l A B) (hO : A.Orderly) (hs : A.stage? n = some (.posing q g))
    (hl : l ≠ some (.advance n)) : B.stage? n = some (.posing q g) := by
  have hfate := hm.fate n
  generalize B.stage? n = s at hfate ⊢
  -- whatever moves a task from another stage moves another task
  cases hfate with
  | kept h => exact h.symm.trans hs
  | posed h => exact absurd rfl hl
  | called h | cleared h | selected h | asked h | attends h | saves h | saved h | replied h
  | arrived h => cases hs.symm.trans h
  | loads _ h hload =>
    cases hs.symm.trans h
    rcases hload with ⟨h, -⟩ | h | ⟨h, -⟩ <;> cases h
  | leaves h hleaves =>
    cases hs.symm.trans h
    rcases hleaves with h | ⟨_, h⟩ | ⟨_, h⟩ <;> cases h
  | concluded hc hn => cases hs.symm.trans (hn ▸ hO.publishing _ hc)

/-- A last message of the user's can be taken back. -/
theorem Transcript.isSome_takeUser? {t : Transcript} {y : Message} (hlast : t.last? = some y)
    (hrole : y.role = .user) : t.takeUser?.isSome := by
  rw [takeUser?, hlast]
  simp [hrole]

namespace App

variable {a₀ a b : App} {n : Nat} {q : Question} {ws vs : Errands} {c c' : App × Errands}
  {ms later : Course}

/-- **A question that is to be put to the server waits for its turn**, and as long as it is not
overtaken the messages wait for it. -/
theorem Leads.posing (hfresh : a₀.IsFresh) (hc : Leads (a₀, []) ms c)
    (hlater : Leads c later c') (hs : c.1.stage? n = some (.posing q c.1.pipeline.generation))
    (hwaits : ∀ m ∈ later, m.happening ≠ .turn (.advance n)) :
    c'.1.stage? n = some (.posing q c.1.pipeline.generation) ∧
      c.1.pipeline.generation ≤ c'.1.pipeline.generation ∧
      (c'.1.pipeline.generation = c.1.pipeline.generation →
        c'.1.pipeline.transcript = c.1.pipeline.transcript) := by
  induction hlater with
  | start => exact ⟨hs, Nat.le_refl _, fun _ => rfl⟩
  | @step _ a b ws vs x hl hx ih =>
    obtain ⟨hs, hle, hkept⟩ := ih fun m hm => hwaits m (List.mem_cons_of_mem _ hm)
    have hlead := hc.append hl
    have hs' := hx.change.posing_kept (hlead.orderly hfresh) hs fun h =>
      hwaits _ List.mem_cons_self (Happening.turn?_eq_some.mp h)
    obtain ⟨h, hr⟩ := hlead.reached .start
    refine ⟨hs', Nat.le_trans hle hx.change.generation_le.1, fun hg => ?_⟩
    obtain ⟨hcurrent, -, htranscript⟩ :=
      hx.change.messages_kept (hr.sound hfresh) hs rfl hs' rfl hg
    exact htranscript.trans (hkept hcurrent)

/-- **Nothing that is asked in vain changes the messages**: they are as they were, with the number
of the conversation, as long as no message is accepted to be sent, no reply is taken in, no
conversation arrives and nothing starts anew. -/
theorem Leads.messages_kept (hfresh : a₀.IsFresh) (hc : Leads (a₀, []) ms c)
    (hlater : Leads c later c') (hkept : ∀ m ∈ later, m.sent? = none ∧ m.replied? = none ∧
      m.arrives = false ∧ m.happening.resets = false) :
    c'.1.pipeline.transcript = c.1.pipeline.transcript ∧
      c'.1.pipeline.conversation = c.1.pipeline.conversation ∧ c'.1.profile = c.1.profile := by
  induction hlater with
  | start => exact ⟨rfl, rfl, rfl⟩
  | step hl hx ih =>
    obtain ⟨htranscript, hconversation, hprofile⟩ :=
      ih fun m hm => hkept m (List.mem_cons_of_mem _ hm)
    obtain ⟨hsent, hreplied, harrives, hresets⟩ := hkept _ List.mem_cons_self
    obtain ⟨hc₁, ht₁⟩ | h | h | ⟨_, _, _, h, -⟩ | ⟨_, _, _, h, -⟩ :=
      hx.messages ((hc.append hl).orderly hfresh)
    · exact ⟨ht₁.trans htranscript, hc₁.trans hconversation, hx.profile.trans hprofile⟩
    · cases hresets.symm.trans h
    · cases harrives.symm.trans h
    · cases hsent.symm.trans h
    · cases hreplied.symm.trans h

/-- A question that failed can be asked again, and it is the text of the last message. -/
theorem Leads.exists_of_failed (hfresh : a₀.IsFresh) (hc : Leads (a₀, []) ms c)
    (hfailed : Course.failed? ms = some q) :
    c.1.pipeline.resendable = true ∧ ∃ y : Message, y.role = .user ∧
      c.1.pipeline.transcript.last? = some y ∧ q = c.1.questionOf y := by
  obtain ⟨a, ws⟩ := c
  have hresendable := (hc.resendable_iff hfresh).mpr (hfailed ▸ rfl)
  have hpending : Pending ms a := hc.pending hfresh
  obtain ⟨y, hrole, hlast, hy⟩ := hpending.failed hresendable
  exact ⟨hresendable, y, hrole, hlast, Option.some.inj (hfailed.symm.trans hy)⟩

/-- What failed before is what fails again, if it was only asked in vain. -/
theorem Leads.failed_again (hfresh : a₀.IsFresh) (hc : Leads (a₀, []) ms c)
    (hlater : Leads c later c') (hkept : ∀ m ∈ later, m.sent? = none ∧ m.replied? = none ∧
      m.arrives = false ∧ m.happening.resets = false)
    (hfailed : Course.failed? ms = some q) {q' : Question}
    (hfailed' : Course.failed? (later ++ ms) = some q') : q' = q := by
  obtain ⟨htranscript, hconversation, hprofile⟩ := hc.messages_kept hfresh hlater hkept
  obtain ⟨-, y, -, hlast, rfl⟩ := hc.exists_of_failed hfresh hfailed
  obtain ⟨-, y', -, hlast', rfl⟩ := (hc.append hlater).exists_of_failed hfresh hfailed'
  rw [htranscript, hlast] at hlast'
  obtain rfl := Option.some.inj hlast'
  exact questionOf_congr hconversation hprofile y

/-- **A question that failed is asked again, and nothing else is.** A task is about to ask again.

* If a question failed, and nothing was accepted, loaded, started anew or dismissed since, it is
  accepted: text, number of the conversation and persona are those of the question that failed, and
  the transcript is as it was. That is what the task puts to the server whenever its turn comes, and
  the transcript is still as it was, unless the question was overtaken.
* Whatever happens from then on, the transcript is as it was, and what fails is that question, as
  long as no message is accepted to be sent, no reply is taken in, no conversation arrives and
  nothing starts anew; so it may be asked again in vain any number of times.
* If no question failed, or something of that kind has happened since, the task ends with a note;
  nothing is asked and nothing else changes. -/
theorem Leads.retry_resends (hfresh : a₀.IsFresh) (hc : Leads (a₀, []) ms (a, ws))
    (hn : a.stage? n = some (.start .retry)) :
    (∀ q, Course.failed? ms = some q →
        (a.advance n).stage? n = some (.posing q a.pipeline.generation) ∧
        (a.advance n).pipeline.transcript = a.pipeline.transcript ∧
        (a.advance n).calls = a.calls ∧
        ∀ later b vs, Leads (a.advance n, ws) later (b, vs) →
          (∀ m ∈ later, m.happening ≠ .turn (.advance n)) →
          (b.advance n).trace = .asked b.calls (.send q) :: b.trace ∧
            (b.pipeline.generation = a.pipeline.generation →
              (b.advance n).pipeline.transcript = a.pipeline.transcript)) ∧
      (∀ q, Course.failed? ms = some q → ∀ later b vs, Leads (a, ws) later (b, vs) →
        (∀ m ∈ later, m.sent? = none ∧ m.replied? = none ∧ m.arrives = false ∧
          m.happening.resets = false) →
        b.pipeline.transcript = a.pipeline.transcript ∧
          ∀ q', Course.failed? (later ++ ms) = some q' → q' = q) ∧
      (Course.failed? ms = none →
        a.advance n = (a.note ⟨.debug, "Nothing to retry"⟩).endTask n (.sent .ignored)) := by
  refine ⟨fun q hfailed => ?_, fun q hfailed later b vs hlater hkept => ?_, fun hnone => ?_⟩
  · obtain ⟨hresendable, y, hrole, hlast, rfl⟩ := hc.exists_of_failed hfresh hfailed
    obtain ⟨h, hr⟩ := hc.reached .start
    have hS := hr.sound hfresh
    -- a banner is up, so nothing is under way
    have hidle : a.pipeline.phase = .idle := hS.banner (hS.resendable hresendable).1
    obtain ⟨hnothing, -⟩ | ⟨-, y', -, hlast', hadvance⟩ := advance_retry hn
    · have htaken := Transcript.isSome_takeUser? hlast hrole
      rcases hnothing with h | h | h
      · exact absurd hidle h
      · cases hresendable.symm.trans h
      · rw [h] at htaken
        cases htaken
    · obtain rfl := Option.some.inj (hlast.symm.trans hlast')
      have hposing := stage?_of_eq_setStage hadvance (hn ▸ rfl)
      have htranscript : (a.advance n).pipeline.transcript = a.pipeline.transcript := by
        rw [hadvance]
        rfl
      have hg : (a.advance n).pipeline.generation = a.pipeline.generation := by
        rw [hadvance]
        rfl
      refine ⟨hposing, htranscript, by rw [hadvance]; rfl, fun later b vs hlater hwaits => ?_⟩
      have hlead : Leads (a₀, []) _ (a.advance n, ws) := hc.turn (.advance n)
      obtain ⟨hs, -, hkept⟩ := hlead.posing hfresh hlater (hg ▸ hposing) hwaits
      obtain ⟨-, htrace, -, -, htranscript'⟩ := advance_posing hs
      refine ⟨htrace, fun hcurrent => ?_⟩
      exact htranscript'.trans ((hkept (hcurrent.trans hg.symm)).trans htranscript)
  · exact ⟨(hc.messages_kept hfresh hlater hkept).1, fun q' hfailed' =>
      hc.failed_again hfresh hlater hkept hfailed hfailed'⟩
  · obtain ⟨-, h⟩ | ⟨⟨-, hresendable⟩, -⟩ := advance_retry hn
    · exact h
    · have hfailed := (hc.resendable_iff hfresh).mp hresendable
      rw [hnone] at hfailed
      cases hfailed

/-- A question that fails and is asked again, as the only message there is. -/
theorem retry_resends_of_failure :
    let ts : List Turn := [.call (.send "hi"), .advance 0, .advance 0,
      .answer 0 (.reply (.error (.settings "no server"))), .call .retry]
    let a := blank.run ts
    a.pipeline.transcript.size = 1 ∧
      (a.advance 1).stage? 1 = some (.posing ⟨"hi", none, none⟩ 0) ∧
      (a.advance 1).pipeline.transcript = a.pipeline.transcript := by
  intro ts a
  have hc : Leads (blank, []) _ (a, []) :=
    ((((Leads.start.turn (.call (.send "hi"))).turn (.advance 0)).turn (.advance 0)).turn
      (.answer 0 (.reply (.error (.settings "no server"))))).turn (.call .retry)
  obtain ⟨hasked, -, -⟩ := hc.retry_resends (n := 1) isFresh_blank rfl
  obtain ⟨hposing, htranscript, -, -⟩ := hasked ⟨"hi", none, none⟩ rfl
  exact ⟨rfl, hposing, htranscript⟩

end App

end Parley
