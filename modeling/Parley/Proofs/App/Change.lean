import Parley.Proofs.App.Affairs

/-!
# What can become of the affairs of a conversation

`Parley.Change` says everything that one step of an app can do to the affairs of its conversation,
with what has to hold for it. A step is a turn, under the turn's name, or one of the things that
turns leave to do, without a name. `Parley.App.change_enter` and `Parley.App.change_doing` say that
there is nothing else; with them, whatever is kept by every change is kept by the app, and no
invariant ever looks at the code of an app again.
-/

namespace Parley

/-- One step, in the affairs of a conversation. -/
inductive Change : Option Turn → Affairs → Affairs → Prop
  /-- The step is about something else, or nobody is there for it. -/
  | quiet {l : Option Turn} {A : Affairs} : Change l A A
  /-- Everything starts anew, and the saved session is to be cleared. -/
  | reset {A : Affairs} :
      Change none A ({ A with pipeline := A.pipeline.reset }.spawn
        (.wantSave (A.pipeline.generation + 1) {} .quiet))
  | select {A : Affairs} (id : Int) : Change none A (A.spawn (.startLoad id .select))
  | dismiss {A : Affairs} : Change none A { A with pipeline := A.pipeline.dismiss }
  | unmount {A : Affairs} : Change none A { A with pipeline := A.pipeline.unmount }
  /-- A reply is published, and the new number of the conversation is to be saved. -/
  | adopt {A : Affairs} {us vs : List (Nat × Nat × Option Int)} {n g : Nat} {id : Int}
      (hclosing : A.closing = us ++ (n, g, some id) :: vs) :
      Change none A
        ({ A with closing := us ++ vs }.put n (.wantSave g ⟨some id⟩ (.sent .delivered)))
  /-- A reply is published, and nothing is to be saved. -/
  | close {A : Affairs} {us vs : List (Nat × Nat × Option Int)} {n g : Nat}
      (hclosing : A.closing = us ++ (n, g, none) :: vs) :
      Change none A ({ A with closing := us ++ vs }.drop n (.sent .delivered))
  | call {A : Affairs} (o : Operation) : Change (some (.call o)) A (A.add (.start o))
  /-- A message of the user's is the last of the transcript, and its question is to be put. -/
  | ask {A : Affairs} {n : Nat} {o : Operation} {t : Transcript} {x : Message} {q : Question}
      (hstage : A.stage? n = some (.start o)) (hidle : A.pipeline.phase = .idle)
      (hlast : t.last? = some x) (hrole : x.role = .user) :
      Change (some (.advance n)) A
        ({ A with pipeline := { A.pipeline with
            phase := .sending, banner := none, resendable := false, transcript := t } }.put n
          (.posing q A.pipeline.generation))
  | pose {A : Affairs} {n g : Nat} {q : Question} (call : Nat)
      (hstage : A.stage? n = some (.posing q g)) :
      Change (some (.advance n)) A
        ({ A with pipeline := A.pipeline.pose g }.put n (.awaitReply call q g))
  /-- The server is asked for the entries of a conversation. -/
  | load {A : Affairs} {n : Nat} {t : Turn} {s : Stage} {id : Int} {errand : Errand} (call : Nat)
      (ht : t = .advance n ∨ ∃ r, t = .giveSession n r) (hstage : A.stage? n = some s)
      (hs : s = .start (.load id) ∧ errand = .load ∨ s = .startLoad id errand ∨
        s = .awaitSession ∧ errand = .restore) :
      Change (some t) A ({ A with pipeline := A.pipeline.startLoad }.put n
        (.awaitEntries call id (A.pipeline.generation + 1) errand))
  /-- A task waits for something that is none of the conversation's business. -/
  | attend {A : Affairs} {n : Nat} {o : Operation} {s : Stage}
      (hstage : A.stage? n = some (.start o))
      (hs : s = .awaitSession ∨ ∃ call, s = .awaitSummaries call) :
      Change (some (.advance n)) A (A.put n s)
  /-- A task ends without having done anything. -/
  | leave {A : Affairs} {n : Nat} {t : Turn} {s : Stage} (o : Outcome)
      (hstage : A.stage? n = some s)
      (hs : s = .awaitSession ∨ (∃ call, s = .awaitSummaries call) ∨ ∃ o, s = .start o) :
      Change (some t) A (A.drop n o)
  | save {A : Affairs} {n g : Nat} {s : SavedSession} {o : Outcome}
      (hstage : A.stage? n = some (.wantSave g s o)) (hsaving : A.saving = none)
      (hg : A.savedGeneration ≤ g) :
      Change (some (.advance n)) A
        ({ A with saving := some n, saves := (g, s) :: A.saves }.put n (.awaitSaved g s o))
  | skip {A : Affairs} {n g : Nat} {s : SavedSession} {o : Outcome}
      (hstage : A.stage? n = some (.wantSave g s o)) (hsaving : A.saving = none)
      (hg : g < A.savedGeneration) : Change (some (.advance n)) A (A.drop n o)
  | saved {A : Affairs} {n g : Nat} {s : SavedSession} {o : Outcome} (r : Except Failure Unit)
      (hstage : A.stage? n = some (.awaitSaved g s o)) :
      Change (some (.giveSaved n r)) A
        ({ A with saving := none, savedGeneration := g }.drop n o)
  | staleReply {A : Affairs} {n call g : Nat} {q : Question} (r : Except Failure Reply)
      (hstage : A.stage? n = some (.awaitReply call q g)) (hstale : A.pipeline.isStale g = true) :
      Change (some (.answer n (.reply r))) A (A.drop n (.sent .discarded))
  | failedReply {A : Affairs} {n call g : Nat} {q : Question} (r : Except Failure Reply)
      (b : Banner) (hstage : A.stage? n = some (.awaitReply call q g))
      (hstale : A.pipeline.isStale g = false) :
      Change (some (.answer n (.reply r))) A
        ({ A with pipeline := { A.pipeline with
            phase := .idle, banner := some b, resendable := true } }.drop n
          (.sent (.failed b.kind)))
  | delivered {A : Affairs} {n call g : Nat} {q : Question} (r : Except Failure Reply)
      (x : Message) {adopted : Option Int} (hstage : A.stage? n = some (.awaitReply call q g))
      (hstale : A.pipeline.isStale g = false)
      (hadopted : ∀ id, adopted = some id → A.pipeline.conversation ≠ some id) :
      Change (some (.answer n (.reply r))) A
        ({ A with
            pipeline := { A.pipeline with
              phase := .idle
              transcript := A.pipeline.transcript.push x
              conversation := adopted.or A.pipeline.conversation }
            closing := (n, g, adopted) :: A.closing }.put n .publishing)
  | staleEntries {A : Affairs} {n call g : Nat} {id : Int} {errand : Errand}
      (r : Except Failure (List HistoryEntry))
      (hstage : A.stage? n = some (.awaitEntries call id g errand))
      (hstale : A.pipeline.isStale g = true) :
      Change (some (.answer n (.entries r))) A (A.drop n (App.loadOutcome id (.ok ()) errand))
  | failedEntries {A : Affairs} {n call g : Nat} {id : Int} {errand : Errand} (f : Failure)
      (b : Banner) (hstage : A.stage? n = some (.awaitEntries call id g errand))
      (hstale : A.pipeline.isStale g = false) :
      Change (some (.answer n (.entries (.error f)))) A
        ({ A with pipeline := { A.pipeline with phase := .idle, banner := some b } }.drop n
          (App.loadOutcome id (.error f) errand))
  | loaded {A : Affairs} {n call g : Nat} {id : Int} {errand : Errand}
      (entries : List HistoryEntry) (supply : Supply)
      (hstage : A.stage? n = some (.awaitEntries call id g errand))
      (hstale : A.pipeline.isStale g = false) :
      Change (some (.answer n (.entries (.ok entries)))) A
        ({ A with pipeline := { A.pipeline with
            phase := .idle
            conversation := some id
            transcript := ⟨(HistoryEntry.toMessages entries supply).1⟩ } }.put n
          (.wantSave g ⟨some id⟩ (App.loadOutcome id (.ok ()) errand)))

/-! ### What comes back to a conversation -/

namespace Pipeline

theorem isStale_eq_false {p : Pipeline} {g : Nat} :
    p.isStale g = false ↔ p.alive = true ∧ p.generation = g := by
  simp [isStale]

/-- **What an answer to a question comes to**: nothing if it is stale, and else a banner or a
message. -/
theorem receive_cases (p : Pipeline) (g : Nat) (r : Except Failure Reply) (s : Supply) :
    (p.isStale g = true ∧ (p.receive g r s).1 = p ∧ (p.receive g r s).2.1 = .stale) ∨
      (p.isStale g = false ∧ ∃ b : Banner,
        (p.receive g r s).1 = { p with phase := .idle, banner := some b, resendable := true } ∧
          (p.receive g r s).2.1 = .failed b.kind) ∨
      (p.isStale g = false ∧ ∃ x artifacts adopted,
        (p.receive g r s).1 = { p with
          phase := .idle, transcript := p.transcript.push x
          conversation := adopted.or p.conversation } ∧
        (p.receive g r s).2.1 = .delivered x artifacts adopted ∧
        ∀ id, adopted = some id → p.conversation ≠ some id) := by
  unfold receive
  cases hstale : p.isStale g with
  | true => exact Or.inl ⟨rfl, rfl, rfl⟩
  | false =>
    refine Or.inr ?_
    simp only [Bool.false_eq_true, if_false]
    cases r with
    | error f => exact Or.inl ⟨trivial, _, rfl, rfl⟩
    | ok reply =>
      dsimp only
      cases hresult : (interpret reply s).1 with
      | error f => exact Or.inl ⟨trivial, _, rfl, rfl⟩
      | ok arrival =>
        dsimp only
        cases hadopted : arrival.conversation.filter (some · ≠ p.conversation) with
        | none =>
          refine Or.inr ⟨trivial, _, _, none, rfl, rfl, fun id hid => ?_⟩
          cases hid
        | some id =>
          have hne : some id ≠ p.conversation := by
            simpa using (Option.filter_eq_some_iff.mp hadopted).2
          refine Or.inr ⟨trivial, _, _, some id, rfl, rfl, fun id' hid => ?_⟩
          obtain rfl := Option.some.inj hid
          exact hne.symm

/-- **What the entries of a conversation come to**: nothing if they are stale, and else a banner
or the conversation with its messages. -/
theorem receiveEntries_cases (p : Pipeline) (id : Int) (g : Nat)
    (r : Except Failure (List HistoryEntry)) (s : Supply) :
    (p.isStale g = true ∧ (p.receiveEntries id g r s).1 = p ∧
        (p.receiveEntries id g r s).2.1 = .stale) ∨
      (p.isStale g = false ∧ ∃ f, r = .error f ∧
        (p.receiveEntries id g r s).1 =
          { p with phase := .idle, banner := some (Banner.ofLoad f) } ∧
        (p.receiveEntries id g r s).2.1 = .failed f) ∨
      (p.isStale g = false ∧ ∃ entries, r = .ok entries ∧
        (p.receiveEntries id g r s).1 = { p with
          phase := .idle, conversation := some id
          transcript := ⟨(HistoryEntry.toMessages entries s).1⟩ } ∧
        (p.receiveEntries id g r s).2.1 = .loaded) := by
  unfold receiveEntries
  cases hstale : p.isStale g with
  | true => exact Or.inl ⟨rfl, rfl, rfl⟩
  | false =>
    refine Or.inr ?_
    cases r with
    | error f => exact Or.inl ⟨rfl, f, rfl, rfl, rfl⟩
    | ok entries => exact Or.inr ⟨rfl, entries, rfl, rfl, rfl⟩

end Pipeline

namespace App

variable (a : App) (ws : Errands)

/-! ### Changes of a task -/

theorem change_begin {n : Nat} {o : Operation} (hstage : a.stage? n = some (.start o)) :
    Change (some (.advance n)) (a.affairs ws) ((a.begin n o).affairs ws) := by
  -- a message that is not sent, or not sent again, ends its task
  have hignored : ∀ x, Change (some (.advance n)) (a.affairs ws)
      (((a.note x).endTask n (.sent .ignored)).affairs ws) := by
    intro x
    rw [affairs_endTask, affairs_note]
    exact .leave _ hstage (.inr (.inr ⟨_, rfl⟩))
  cases o with
  | send text =>
    simp only [begin, Pipeline.send?]
    split
    · rename_i p q supply hsend
      split at hsend
      · cases hsend
      · rename_i h
        cases hsend
        have hidle : a.pipeline.phase = .idle := by simp at h; exact h.2
        exact .ask hstage hidle List.getLast?_concat rfl
    · exact hignored _
  | retry =>
    simp only [begin, Pipeline.retry?]
    split
    · rename_i p q hretry
      split at hretry
      · rename_i h
        obtain ⟨⟨x, t⟩, hx, hp⟩ := Option.map_eq_some_iff.mp hretry
        cases hp
        have hidle : a.pipeline.phase = .idle := by simp at h; exact h.1
        exact .ask hstage hidle List.getLast?_concat (Transcript.role_of_takeUser? hx)
      · cases hretry
    · exact hignored _
  | load id => exact .load a.calls (.inl rfl) hstage (.inl ⟨rfl, rfl⟩)
  | restore => exact .attend hstage (.inl rfl)
  | list => exact .attend hstage (.inr ⟨_, rfl⟩)

theorem change_startSave {n g : Nat} {s : SavedSession} {o : Outcome}
    (hstage : a.stage? n = some (.wantSave g s o)) :
    Change (some (.advance n)) (a.affairs ws) ((a.startSave n g s o).affairs ws) := by
  unfold startSave
  split
  · exact .quiet
  · rename_i hsaving
    have hsaving : a.saving = none := by simpa using hsaving
    split
    · rename_i hg
      rw [affairs_endTask, affairs_note]
      exact .skip hstage hsaving hg
    · rename_i hg
      exact .save hstage hsaving (Nat.le_of_not_lt hg)

theorem change_advance (n : Nat) :
    Change (some (.advance n)) (a.affairs ws) ((a.advance n).affairs ws) := by
  unfold advance
  split
  · rename_i o hstage
    exact a.change_begin ws hstage
  · rename_i id errand hstage
    exact .load a.calls (.inl rfl) hstage (.inr (.inl rfl))
  · rename_i q g hstage
    exact .pose a.calls hstage
  · rename_i g s o hstage
    exact a.change_startSave ws hstage
  · exact .quiet

theorem change_giveSession (n : Nat) (r : Except Failure SavedSession) :
    Change (some (.giveSession n r)) (a.affairs ws) ((a.giveSession n r).affairs ws) := by
  unfold giveSession
  split
  · rename_i hstage
    split
    · rw [affairs_endTask, affairs_note]
      exact .leave _ hstage (.inl rfl)
    · rw [affairs_endTask]
      exact .leave _ hstage (.inl rfl)
    · exact .load a.calls (.inr ⟨_, rfl⟩) hstage (.inr (.inr ⟨rfl, rfl⟩))
  · exact .quiet

theorem change_giveSaved (n : Nat) (r : Except Failure Unit) :
    Change (some (.giveSaved n r)) (a.affairs ws) ((a.giveSaved n r).affairs ws) := by
  unfold giveSaved
  split
  · rename_i g s o hstage
    cases r with
    | ok u =>
      rw [affairs_endTask]
      exact .saved _ hstage
    | error f =>
      rw [affairs_endTask]
      exact .saved _ hstage
  · exact .quiet

theorem change_takeReply {n call g : Nat} {q : Question} (r : Except Failure Reply)
    (hstage : a.stage? n = some (.awaitReply call q g)) :
    Change (some (.answer n (.reply r))) (a.affairs ws)
      ((a.takeReply n g r).1.affairs ((a.takeReply n g r).2 ++ ws)) := by
  obtain ⟨p, receipt, notes, supply, hreceive⟩ :
      ∃ p receipt notes supply, a.pipeline.receive g r a.supply = (p, receipt, notes, supply) :=
    ⟨_, _, _, _, rfl⟩
  have hcases := a.pipeline.receive_cases g r a.supply
  simp only [takeReply, hreceive] at hcases ⊢
  obtain ⟨hstale, rfl, rfl⟩ | ⟨hstale, b, rfl, rfl⟩ |
    ⟨hstale, x, artifacts, adopted, rfl, rfl, hne⟩ := hcases
  · rw [affairs_endTask, List.nil_append, affairs_notes]
    exact .staleReply r hstage hstale
  · rw [affairs_endTask, List.nil_append, affairs_notes]
    exact .failedReply r b hstage hstale
  · -- the reply is concluded behind whatever it publishes
    have hclosing : ∀ es : Errands, es.filterMap closing? = [] →
        ∀ b : App, b.affairs (.publish ⟨chatSource, .messageReceived x⟩ ::
          (es ++ [.act (.conclude n g adopted)]) ++ ws) =
        { b.affairs ws with closing := (n, g, adopted) :: (b.affairs ws).closing } := by
      intro es hes b
      simp [affairs, closing?, List.filterMap_cons, hes]
    dsimp only
    rw [hclosing _ (by split <;> rfl), affairs_setStage, affairs_notes]
    exact .delivered r x hstage hstale hne

theorem change_takeEntries {n call g : Nat} {id : Int} {errand : Errand}
    (r : Except Failure (List HistoryEntry))
    (hstage : a.stage? n = some (.awaitEntries call id g errand)) :
    Change (some (.answer n (.entries r))) (a.affairs ws)
      ((a.takeEntries n id g errand r).affairs ws) := by
  obtain ⟨p, receipt, notes, supply, hreceive⟩ : ∃ p receipt notes supply,
      a.pipeline.receiveEntries id g r a.supply = (p, receipt, notes, supply) :=
    ⟨_, _, _, _, rfl⟩
  have hcases := a.pipeline.receiveEntries_cases id g r a.supply
  simp only [takeEntries, hreceive] at hcases ⊢
  obtain ⟨hstale, rfl, rfl⟩ | ⟨hstale, f, rfl, rfl, rfl⟩ | ⟨hstale, entries, rfl, rfl, rfl⟩ :=
    hcases
  · dsimp only
    rw [affairs_endTask, affairs_notes]
    exact .staleEntries r hstage hstale
  · dsimp only
    rw [affairs_endTask]
    split
    · rw [affairs_note, affairs_notes]
      exact .failedEntries f _ hstage hstale
    · rw [affairs_notes]
      exact .failedEntries f _ hstage hstale
  · dsimp only
    rw [affairs_setStage, affairs_notes]
    exact .loaded entries a.supply hstage hstale

theorem change_takeAnswer (n : Nat) (r : Answer) :
    Change (some (.answer n r)) (a.affairs ws)
      ((a.takeAnswer n r).1.affairs ((a.takeAnswer n r).2 ++ ws)) := by
  unfold takeAnswer
  split
  · rename_i hstage
    exact a.change_takeReply ws _ hstage
  · rename_i hstage
    exact a.change_takeEntries ws _ hstage
  · rename_i hstage
    rw [affairs_endTask]
    exact .leave _ hstage (.inr (.inl ⟨_, rfl⟩))
  · exact .quiet

/-- **What a turn does to the affairs of a conversation.** -/
theorem change_enter (t : Turn) :
    Change (some t) (a.affairs ws) ((a.enter t).1.affairs ((a.enter t).2 ++ ws)) := by
  cases t with
  | call o => exact .call o
  | publish e => exact .quiet
  | tell c => exact .quiet
  | jot n => exact .quiet
  | advance n => exact a.change_advance ws n
  | answer n r => exact a.change_takeAnswer ws n r
  | giveSession n r => exact a.change_giveSession ws n r
  | giveSaved n r => exact a.change_giveSaved ws n r

/-! ### Changes of what is left to do -/

theorem affairs_reset : a.reset.affairs ws =
    { a.affairs ws with pipeline := a.pipeline.reset }.spawn
      (.wantSave (a.pipeline.generation + 1) {} .quiet) :=
  apply_ite (affairs · ws) (a.canSpawn = true) _ _

theorem affairs_spawnLoad (id : Int) :
    (a.spawnLoad id).affairs ws = (a.affairs ws).spawn (.startLoad id .select) :=
  apply_ite (affairs · ws) (a.canSpawn = true) _ _

theorem affairs_unmount (part : Part) : (a.unmount part).affairs ws =
    if part = .pipeline then { a.affairs ws with pipeline := a.pipeline.unmount }
    else a.affairs ws := by
  cases part with
  | pipeline => exact affairs_dismissPart _ ws _
  | canvas => exact affairs_dismissPart a ws _
  | store => exact affairs_dismissPart a ws _

theorem change_command (c : Command) :
    Change none (a.affairs ws) ((a.command c).1.affairs ws) := by
  cases c with
  | reset =>
    simp only [command, affairs_reset]
    exact .reset
  | dismiss => exact .dismiss
  | unmount part =>
    simp only [command, affairs_unmount]
    split
    · exact .unmount
    · exact .quiet
  | shutdown =>
    simp only [command, affairs_unmount]
    exact .unmount
  | toggle | cycle | hide | deselect =>
    simp only [command, command.change, affairs_changeCanvas]
    exact .quiet
  | openId id =>
    simp only [command, affairs_openArtifact]
    exact .quiet
  | openAt index =>
    simp only [command, affairs_openArtifact]
    exact .quiet
  | picture =>
    simp only [command]
    split
    · simp only [affairs_notes]
      exact .quiet
    · exact .quiet
  | ingest batch =>
    simp only [command, affairs_ingest]
    exact .quiet
  | clearStore =>
    simp only [command, affairs_clearStore]
    exact .quiet
  | emit | announce | active | find | artifacts | messages | counts => exact .quiet

/-- A command leaves nothing of the conversation's to do. -/
theorem closing_command (c : Command) : (a.command c).2.1.filterMap closing? = [] := by
  rcases a.command_errands c with h | ⟨e, h⟩ <;> rw [h] <;> rfl

/-- **What a listener does to the affairs of a conversation**: only the conversation itself does
anything. -/
theorem change_react (l : Listener) (e : Event) :
    Change none (a.affairs ws) ((a.react l e).1.affairs ws) := by
  obtain ⟨source, signal⟩ := e
  cases l with
  | store =>
    cases signal with
    | artifactsReceived batch =>
      simp only [react, affairs_ingest]
      exact .quiet
    | newConversation =>
      simp only [react, affairs_clearStore]
      exact .quiet
    | _ => exact .quiet
  | canvas =>
    cases signal with
    | artifactsReceived batch =>
      simp only [react]
      split
      · exact .quiet
      · simp only [affairs_changeCanvas]
        exact .quiet
    | toggleCanvas =>
      simp only [react, affairs_changeCanvas]
      exact .quiet
    | newConversation =>
      simp only [react, affairs_changeCanvas]
      exact .quiet
    | _ => exact .quiet
  | pipeline =>
    cases signal with
    | newConversation =>
      simp only [react, affairs_reset]
      exact .reset
    | conversationSelected id =>
      simp only [react, affairs_spawnLoad]
      exact .select id
    | _ => exact .quiet
  | observer n =>
    simp only [react]
    split <;> exact .quiet

theorem closing_react (l : Listener) (e : Event) : (a.react l e).2.filterMap closing? = [] := by
  have hcanvas : ∀ f, (a.changeCanvas f).2.filterMap closing? = [] := by
    intro f
    rcases changeCanvas_errands a f with h | ⟨b, h⟩ <;> rw [h] <;> rfl
  obtain ⟨source, signal⟩ := e
  cases l with
  | store => cases signal <;> rfl
  | canvas =>
    cases signal with
    | artifactsReceived batch =>
      simp only [react]
      split
      · rfl
      · exact hcanvas _
    | toggleCanvas => exact hcanvas _
    | newConversation => exact hcanvas _
    | _ => rfl
  | pipeline => cases signal <;> rfl
  | observer n =>
    simp only [react]
    split
    · exact List.filterMap_eq_nil_iff.mpr (by simp [closing?])
    · rfl

/-- Nothing that is done leaves a reply to be concluded. -/
theorem closing_doing (w : Work Listener Act) : (a.doing w).2.filterMap closing? = [] := by
  cases w with
  | publish e => simp [doing_publish, closing?]
  | deliver l e =>
    rw [doing_deliver]
    exact a.closing_react l.listener e
  | act w =>
    rw [doing_act]
    cases w with
    | command who c => simp [perform, closing_command, closing?]
    | give | note => rfl
    | conclude n g adopted => cases adopted <;> rfl

/-- **What one of the things to do does to the affairs of a conversation**, in whatever order they
are done. -/
theorem change_doing (us vs : Errands) (w : Work Listener Act) :
    Change none (a.affairs (us ++ w :: vs))
      ((a.doing w).1.affairs (us ++ ((a.doing w).2 ++ vs))) := by
  rw [affairs_append _ _ (a.closing_doing w)]
  -- a reply is concluded by one kind of thing to do
  have hquiet : closing? w = none →
      Change none (a.affairs (us ++ vs)) ((a.doing w).1.affairs (us ++ vs)) →
      Change none (a.affairs (us ++ w :: vs)) ((a.doing w).1.affairs (us ++ vs)) := by
    intro hw hchanges
    have hfirst : a.affairs (us ++ w :: vs) = a.affairs (us ++ vs) :=
      a.affairs_append vs (show [w].filterMap closing? = [] by simp [hw]) us
    rw [hfirst]
    exact hchanges
  cases w with
  | publish e => exact hquiet rfl .quiet
  | deliver l e => exact hquiet rfl (a.change_react _ l.listener e)
  | act w =>
    cases w with
    | command who c => exact hquiet rfl (a.change_command _ c)
    | give who r => exact hquiet rfl .quiet
    | note n => exact hquiet rfl .quiet
    | conclude n g adopted =>
      have hclosing : (a.affairs (us ++ .act (.conclude n g adopted) :: vs)).closing =
          us.filterMap closing? ++ (n, g, adopted) :: vs.filterMap closing? := by
        simp [affairs, closing?]
      have hrest : us.filterMap closing? ++ vs.filterMap closing? =
          (us ++ vs).filterMap closing? := List.filterMap_append.symm
      cases adopted with
      | some id =>
        have hchanges := Change.adopt hclosing
        rw [hrest] at hchanges
        exact hchanges
      | none =>
        have hchanges := Change.close hclosing
        rw [hrest] at hchanges
        have hdoing : (a.doing (.act (.conclude n g none))).1.affairs (us ++ vs) =
            (a.affairs (us ++ vs)).drop n (.sent .delivered) := affairs_endTask _ _ _ _
        exact hdoing ▸ hchanges

/-- **Every step of an app is a change in the affairs of its conversation.** -/
theorem Step.change {l : Option Turn} {a b : App} {ws vs : Errands} (hs : Step l (a, ws) (b, vs)) :
    Change l (a.affairs ws) (b.affairs vs) := by
  cases hs with
  | turn t => exact a.change_enter ws t
  | errand w => exact a.change_doing _ _ w

end App

end Parley
