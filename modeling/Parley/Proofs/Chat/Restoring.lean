import Parley.Proofs.Chat.Loading

/-!
# A session that was read is not looked at twice

Restoring the last session takes two exchanges: the session is read, and the conversation that it
names is loaded. Between the two nobody looks at what has become of the conversation in the
meantime. The load begins a new generation whatever it finds (`Parley.App.Leads.session_read`): a
new conversation that was started while the session was read, or another one that is being loaded,
is overtaken by it, and an unmounted conversation is left waiting for entries that it will drop. So
it is only the session that decides: the conversation is left alone exactly if the session names
none.
-/

namespace Parley

namespace App

variable {a₀ a b c d e : App} {n : Nat} {id : Int} {ws vs us : Errands} {x : Happening}
  {ms between during : Course} {r : Except Failure SavedSession}

/-- **What comes of a session that was read**: the conversation that it names is loaded, and if it
names none, or could not be read, the task ends. -/
theorem giveSession_cases (hs : a.stage? n = some .awaitSession)
    (r : Except Failure SavedSession) :
    (∃ id, r = .ok ⟨some id⟩ ∧ a.giveSession n r = a.startLoad n id .restore) ∨
      (∀ id, r ≠ .ok ⟨some id⟩) ∧ ∃ xs,
        a.giveSession n r = (a.notes xs).endTask n (.restored (.ok none)) := by
  rcases r with f | ⟨_ | id⟩
  · refine .inr ⟨by simp, [⟨.warn, "Could not read saved session: " ++ f.message⟩], ?_⟩
    simp only [giveSession, hs]
    rfl
  · refine .inr ⟨by simp, [], ?_⟩
    simp only [giveSession, hs]
    rfl
  · refine .inl ⟨id, rfl, ?_⟩
    simp only [giveSession, hs]

/-- **What becomes of a session that is read.** A task waits for the saved session, and it is read,
well or not; `between` is what has happened since any moment before, such as the call.

* The conversation is left alone exactly if the session names none. The task ends then, and calls
  nobody.
* If it names one, that is loaded, in a generation of its own. Its entries are dropped if the
  conversation was unmounted by then, or is overtaken after the session was read. Otherwise the
  conversation is replaced, or a banner is up if the server fails. Whether anything started anew, or
  another conversation started to load, between the call and the read is of no account. -/
theorem Leads.session_read (hfresh : a₀.IsFresh) (hc : Leads (a₀, []) ms (a, ws))
    (hbetween : Leads (a, ws) between (b, vs)) (hs : b.stage? n = some .awaitSession)
    (hd : d = (b.enter (.giveSession n r)).1) :
    (d.pipeline = b.pipeline ↔ ∀ id, r ≠ .ok ⟨some id⟩) ∧
      ((∀ id, r ≠ .ok ⟨some id⟩) → d.calls = b.calls ∧
        Moment.Ends ⟨b, .turn (.giveSession n r), d⟩ n (.restored (.ok none))) ∧
      ∀ id, r = .ok ⟨some id⟩ →
        d.pipeline = b.pipeline.startLoad ∧ d.calls = b.calls + 1 ∧
        d.trace.head? = some (.asked b.calls (.entries id)) ∧
        d.stage? n = some (.awaitEntries b.calls id (b.pipeline.generation + 1) .restore) ∧
        ∀ during c us entries e, Leads (d, vs) during (c, us) → c.stage? n = d.stage? n →
          e = (c.enter (.answer n (.entries entries))).1 →
          ¬((a.pipeline.alive = true ∧ ∀ m ∈ between, m.happening.unmounts = false) ∧
                ¬Course.Overtakes during) ∧ e.pipeline = c.pipeline ∨
            ((a.pipeline.alive = true ∧ ∀ m ∈ between, m.happening.unmounts = false) ∧
                ¬Course.Overtakes during) ∧
            ((∃ f, entries = .error f ∧ e.pipeline = { b.pipeline.startLoad with
                phase := .idle, banner := some (Banner.ofLoad f) }) ∨
              ∃ es, entries = .ok es ∧ e.pipeline = { b.pipeline.startLoad with
                phase := .idle, conversation := some id
                transcript := ⟨(HistoryEntry.toMessages es c.supply).1⟩ }) := by
  have hb : Leads (a₀, []) (between ++ ms) (b, vs) := hc.append hbetween
  have hfound : (b.stage? n).isSome := hs ▸ rfl
  have hx : Happens (.turn (.giveSession n r)) (b, vs) (d, vs) := hd ▸ .turn _
  obtain ⟨id, rfl, h⟩ | ⟨hnone, xs, h⟩ := giveSession_cases hs r
  · obtain rfl := hd.trans h
    have hload : (b.startLoad n id .restore).pipeline = b.pipeline.startLoad := rfl
    have hwaits := stage?_startLoad hfound id .restore
    refine ⟨iff_of_false (fun h => ?_) (fun h => h id rfl), fun h => absurd rfl (h id),
      fun id' hid => ?_⟩
    · -- a generation of its own has begun
      have hg := congrArg Pipeline.generation (hload.symm.trans h)
      exact absurd hg (Nat.succ_ne_self _)
    · cases hid
      refine ⟨rfl, rfl, rfl, hwaits, fun during c us entries e hduring hc' he => ?_⟩
      have hcurrent : ¬(b.pipeline.alive = false ∨ Course.Overtakes during) ↔
          (a.pipeline.alive = true ∧ ∀ m ∈ between, m.happening.unmounts = false) ∧
            ¬Course.Overtakes during := by
        rw [not_or, Bool.not_eq_false, hbetween.alive_iff]
      rw [← hcurrent]
      rcases (hb.step hx).load_answered hfresh hload hwaits hduring (hc'.trans hwaits) he with
        ⟨hover, hpipeline, -⟩ | ⟨hover, ⟨f, hf, hpipeline, -⟩ | ⟨es, hes, hpipeline, -⟩⟩
      · exact .inl ⟨not_not.mpr hover, hpipeline⟩
      · exact .inr ⟨hover, .inl ⟨f, hf, hpipeline⟩⟩
      · exact .inr ⟨hover, .inr ⟨es, hes, hpipeline⟩⟩
  · obtain rfl := hd.trans h
    have hpipeline : (b.notes xs).pipeline = b.pipeline :=
      congrArg Affairs.pipeline (b.affairs_notes [] xs)
    have hcalls : (b.notes xs).calls = b.calls := congrArg (·.2.2.2.2) (fittings_notes b xs)
    exact ⟨iff_of_true hpipeline hnone, fun _ => ⟨hcalls, hfound, stage?_of_eq_endTask rfl, rfl⟩,
      fun id hid => absurd hid (hnone id)⟩

/-- A session that names a conversation, read while everything starts anew: that conversation is
loaded all the same, and takes the place of the new one. -/
theorem session_read_of_reset :
    let a := blank.run [.call .restore, .advance 0]
    let b := a.reset
    let d := (b.enter (.giveSession 0 (.ok ⟨some 7⟩))).1
    let e := (d.enter (.answer 0 (.entries (.ok [])))).1
    d.pipeline = b.pipeline.startLoad ∧ e.pipeline.conversation = some 7 := by
  intro a b d e
  have hc : Leads (blank, []) _ (a, []) := (Leads.start.turn (.call .restore)).turn (.advance 0)
  have hbetween : Leads (a, []) _ (b, [.act (.give none .done)]) :=
    ((Leads.start (c := (a, []))).turn (.tell .reset)).errand
  obtain ⟨-, -, hread⟩ := hc.session_read isFresh_blank hbetween (n := 0) (d := d) rfl rfl
  obtain ⟨hload, -, -, -, hanswered⟩ := hread 7 rfl
  refine ⟨hload, ?_⟩
  rcases hanswered [] d _ (.ok []) e .start rfl rfl with
    ⟨hdropped, -⟩ | ⟨-, ⟨f, hf, -⟩ | ⟨es, -, hpipeline⟩⟩
  · refine absurd ⟨⟨rfl, fun m hm => ?_⟩, fun ⟨m, hm, _⟩ => nomatch hm⟩ hdropped
    rcases List.mem_cons.mp hm with rfl | hm
    · rfl
    · obtain rfl := List.mem_singleton.mp hm
      rfl
  · cases hf
  · rw [hpipeline]

/-- **A session is restored over what came after it was asked for.** While it is read, a new
conversation is started, or the conversation is unmounted, and nothing is under way then. The saved
conversation takes the place of the new one; and the unmounted one calls the server, and waits. -/
theorem restores_over_new_conversation :
    let a := blank.run [.call .restore, .advance 0]
    let read : Turn := .giveSession 0 (.ok ⟨some 7⟩)
    a.stage? 0 = some .awaitSession ∧
      ((a.run [.tell .reset]).pipeline.phase = .idle ∧
        (a.run [.tell .reset]).pipeline.conversation = none ∧
        (a.run [.tell .reset, read]).pipeline.phase = .awaiting ∧
        (a.run [.tell .reset, read, .answer 0 (.entries (.ok []))]).pipeline.conversation =
          some 7) ∧
      (a.run [.tell (.unmount .pipeline)]).pipeline.phase = .idle ∧
      (a.run [.tell (.unmount .pipeline), read]).pipeline.phase = .awaiting ∧
      (a.run [.tell (.unmount .pipeline), read]).calls = 1 := by
  refine ⟨rfl, ⟨?_, ?_, ?_, ?_⟩, ?_, ?_, ?_⟩
  all_goals decide +kernel

end App

end Parley
