import Parley.Proofs.Chat.Loading
import Parley.Proofs.Numeral.Whole

/-!
# Where questions are addressed

A question says which conversation it belongs to, by the number under which the server knows it. Of
all that can happen, three things decide that number: everything starts anew, a conversation that
was loaded arrives, or a reply is taken in that says what its conversation is. So the number is what
the latest of them has made of it (`Parley.Course.conversation?`), and whatever else happens,
answers that come too late or fail and replies that say nothing usable among it, leaves it alone
(`Parley.App.Happens.conversation`).

A question is made when it is accepted and put to the server afterwards. It bears the number of the
moment at which it is accepted (`Parley.App.Leads.accepted_addressed`), and that is still the number
when it is put, unless something overtakes the question in between.
-/

namespace Parley

/-! ### The number of a conversation, as the server writes it -/

/-- A value says that a conversation has a number: it is a whole number of 64 bits with a sign, or
a text that spells one between blanks. -/
inductive Denotes : Json.Value → Int → Prop
  /-- Whole numbers that are read are not below the range. -/
  | number {i : Int} (hi : i ≤ Numeral.Range.int64.greatest) : Denotes (.number (.integer i)) i
  | text {s : String} {i : Int} (hs : Numeral.Spells (Text.trimChars s.toList) i)
      (hi : Numeral.Range.int64.holds i = true) : Denotes (.string s) i

/-- **The number of a conversation is found exactly where a value denotes it.** -/
theorem conversationIn_eq_some {v : Option Json.Value} {i : Int} :
    conversationIn v = some i ↔ ∃ w, v = some w ∧ Denotes w i := by
  constructor
  · intro h
    unfold conversationIn at h
    split at h
    · rename_i n
      cases n with
      | integer k =>
        simp only [Json.Number.int64?] at h
        split at h
        · rename_i hk
          cases h
          exact ⟨_, rfl, .number (Int.le_of_lt_add_one hk)⟩
        · cases h
      | real x => cases h
    · rename_i s
      obtain ⟨hs, hi⟩ := Numeral.whole?_int64_eq_some.mp h
      rw [Text.trim, String.toList_ofList] at hs
      exact ⟨_, rfl, .text hs hi⟩
    · cases h
  · rintro ⟨w, rfl, hw⟩
    cases hw with
    | number hi => exact if_pos (Int.lt_add_one_of_le hi)
    | text hs hi =>
      refine Numeral.whole?_int64_eq_some.mpr ⟨?_, hi⟩
      rw [Text.trim, String.toList_ofList]
      exact hs

/-! ### What decides the number -/

namespace Moment

/-- A load succeeds: the number of the conversation whose entries have come. -/
def loaded? (m : Moment) : Option Int :=
  match m.passage? with
  | some (_, some (.awaitEntries _ id _ _), some (.wantSave _ _ _)) => some id
  | _ => none

/-- The reply that is taken in. -/
def taken? (m : Moment) : Option Reply :=
  match m.replied?, m.happening with
  | some _, .turn (.answer _ (.reply (.ok r))) => some r
  | _, _ => none

/-- What a moment makes of the number of the conversation, if it decides it. -/
def renumbers? (m : Moment) : Option (Option Int) :=
  if m.happening.resets then some none
  else (m.loaded?.or (m.taken?.bind Reply.conversation?)).map some

variable {m : Moment} {n : Nat} {id : Int} {r : Reply}

theorem loaded?_eq_some : m.loaded? = some id ↔ ∃ n call g errand g' s o,
    m.passage? = some (n, some (.awaitEntries call id g errand), some (.wantSave g' s o)) := by
  unfold loaded?
  split
  · rename_i h
    simp [h]
  · rename_i h
    refine ⟨nofun, ?_⟩
    rintro ⟨n, call, g, errand, g', s, o, hpassage⟩
    exact absurd hpassage (h n call id g errand g' s o)

theorem exists_loaded? (h : m.arrives = true) : ∃ id, m.loaded? = some id := by
  obtain ⟨n, call, id, g, errand, g', s, o, hpassage⟩ := arrives_eq_true.mp h
  exact ⟨id, loaded?_eq_some.mpr ⟨n, call, g, errand, g', s, o, hpassage⟩⟩

theorem taken?_eq_some : m.taken? = some r ↔ (∃ n q, m.replied? = some (n, q)) ∧
    ∃ n, m.happening = .turn (.answer n (.reply (.ok r))) := by
  unfold taken?
  split
  · rename_i nq k r' h h'
    rw [h, h']
    constructor
    · rintro ⟨⟩
      exact ⟨⟨nq.1, nq.2, rfl⟩, k, rfl⟩
    · rintro ⟨-, _, h⟩
      cases h
      rfl
  · rename_i h
    refine ⟨nofun, ?_⟩
    rintro ⟨⟨n, q, hreplied⟩, n', hhappening⟩
    exact absurd hhappening (h _ n' r hreplied)

/-- What is taken in is not what everything starts anew with. -/
theorem resets_of_passage? {y : Nat × Option Stage × Option Stage} (h : m.passage? = some y) :
    m.happening.resets = false := by
  obtain ⟨n, s, s'⟩ := y
  obtain ⟨⟨t, ht, -⟩, -⟩ := passage?_eq_some.mp h
  rw [ht]
  rfl

theorem renumbers?_of_resets (h : m.happening.resets = true) : m.renumbers? = some none :=
  if_pos h

theorem renumbers?_of_loaded? (h : m.loaded? = some id) : m.renumbers? = some (some id) := by
  obtain ⟨n, call, g, errand, g', s, o, hpassage⟩ := loaded?_eq_some.mp h
  rw [renumbers?, resets_of_passage? hpassage, h]
  rfl

/-- A reply makes of the number what it says of it. -/
theorem renumbers?_of_taken? (h : m.taken? = some r) :
    m.renumbers? = r.conversation?.map some := by
  obtain ⟨⟨n, q, hreplied⟩, -⟩ := taken?_eq_some.mp h
  obtain ⟨call, g, hpassage⟩ := replied?_eq_some.mp hreplied
  have hloaded : m.loaded? = none := by
    rw [loaded?, hpassage]
  rw [renumbers?, resets_of_passage? hpassage, hloaded, h]
  rfl

/-- Nothing else decides the number. -/
theorem renumbers?_of_none (hresets : m.happening.resets = false) (hloaded : m.loaded? = none)
    (hreply : m.taken? = none) : m.renumbers? = none := by
  rw [renumbers?, hresets, hloaded, hreply]
  rfl

/-- Where an answer has ended its task it decides nothing. -/
theorem renumbers?_of_ended {r : Answer} (hm : m.happening = .turn (.answer n r))
    (hgone : m.after.stage? n = none) : m.renumbers? = none := by
  have hpassage : m.passage? = some (n, m.before.stage? n, none) :=
    passage?_eq_some.mpr ⟨⟨_, hm, rfl⟩, rfl, hgone⟩
  refine renumbers?_of_none (resets_of_passage? hpassage) ?_ ?_
  · rw [loaded?, hpassage]
    split <;> simp_all
  · rw [taken?, replied?, hpassage]
    split <;> simp_all

end Moment

/-- A task that has not got far has nothing under way. -/
theorem Stage.exchange?_of_progress_le {s : Stage} (h : Stage.progress (some s) ≤ 1) :
    s.exchange? = none := by
  cases s with
  | posing | awaitReply | awaitEntries => simp [Stage.progress] at h
  | _ => rfl

/-- A task begins to have something under way: its question is accepted, or its conversation starts
to load. -/
def Moment.begins (m : Moment) (n : Nat) : Bool :=
  match m.passage? with
  | some (k, some s, some s') => k = n && s.exchange?.isNone && s'.exchange?.isSome
  | _ => false

theorem Moment.begins_eq_true {m : Moment} {n : Nat} : m.begins n = true ↔ ∃ s s',
    m.passage? = some (n, some s, some s') ∧ s.exchange? = none ∧ s'.exchange?.isSome := by
  unfold begins
  split
  · rename_i k s s' h
    rw [h]
    simp only [Bool.and_eq_true, decide_eq_true_eq, Option.isNone_iff_eq_none]
    constructor
    · rintro ⟨⟨rfl, hs⟩, hs'⟩
      exact ⟨s, s', rfl, hs, hs'⟩
    · rintro ⟨_, _, h, hs, hs'⟩
      cases h
      exact ⟨⟨rfl, hs⟩, hs'⟩
  · rename_i h
    refine ⟨nofun, ?_⟩
    rintro ⟨s, s', hpassage, -⟩
    exact absurd hpassage (h n s s')

/-- A new generation has begun since a task began to have something under way. -/
def Course.superseded (n : Nat) : Course → Bool
  | [] => false
  | m :: ms => !m.begins n && (m.renews || superseded n ms)

/-- The number of the conversation after a course: what the latest moment that decides it has made
of it, and none if there is no such moment. -/
def Course.conversation? (ms : Course) : Option Int := (ms.findSome? Moment.renumbers?).join

theorem Course.conversation?_cons (m : Moment) (ms : Course) :
    conversation? (m :: ms) = m.renumbers?.getD (conversation? ms) := by
  rw [conversation?, List.findSome?_cons]
  cases m.renumbers? <;> rfl

namespace App

variable {a₀ a b : App} {n g : Nat} {q : Question} {ws vs : Errands} {x : Happening}
  {c c' : App × Errands} {ms : Course}

/-! ### What a moment makes of the number -/

/-- **What was loaded has its number**, and it has come in time. -/
theorem Happens.loaded (hx : Happens x (a, ws) (b, vs)) (hO : (a.affairs ws).Orderly) {id : Int}
    (hloaded : Moment.loaded? ⟨a, x, b⟩ = some id) : b.pipeline.conversation = some id ∧
      ∃ n r g, x = .turn (.answer n r) ∧ (a.affairs ws).see Stage.exchange? n = some g ∧
        a.pipeline.isStale g = false := by
  obtain ⟨n, call, g, errand, g', s, o, hpassage⟩ := Moment.loaded?_eq_some.mp hloaded
  obtain ⟨-, hs, hs'⟩ := Moment.passage?_eq_some.mp hpassage
  dsimp only at hs hs'
  obtain ⟨r, rfl, rfl⟩ := hx.answered_entries hO hs (hs' ▸ nofun)
  obtain ⟨-, h⟩ | ⟨-, f, xs, -, h⟩ | ⟨hcurrent, entries, y, -, h⟩ := enter_entries hs r
  · cases hs'.symm.trans (stage?_of_eq_endTask (congrArg Prod.fst h))
  · cases hs'.symm.trans (stage?_of_eq_endTask (congrArg Prod.fst h))
  · refine ⟨congrArg (·.1.pipeline.conversation) h, n, _, g, rfl, ?_, hcurrent⟩
    rw [Affairs.see, stage?_affairs, hs]
    rfl

/-- A reply says what its message says. -/
theorem conversation_of_interpret {r : Reply} {s s' : Supply} {arrival : Pipeline.Arrival}
    (h : Pipeline.interpret r s = (.ok arrival, s')) : arrival.conversation = r.conversation? := by
  unfold Pipeline.interpret at h
  split at h
  · cases h
    rfl
  · split at h <;> cases h

/-- A number that is not new is the number there is. -/
theorem filter_or_eq (new old : Option Int) :
    (new.filter (some · ≠ old)).or old = new.or old := by
  cases new with
  | none => rfl
  | some id =>
    by_cases h : some id = old
    · simp [Option.filter, h]
    · simp [Option.filter, h]

/-- **A reply that is taken in says what the number is, or leaves it**; it has come in time. -/
theorem Happens.taken (hx : Happens x (a, ws) (b, vs)) (hO : (a.affairs ws).Orderly)
    (hreplied : Moment.replied? ⟨a, x, b⟩ = some (n, q)) : ∃ r,
      Moment.taken? ⟨a, x, b⟩ = some r ∧
        b.pipeline.conversation = r.conversation?.or a.pipeline.conversation ∧
        ∃ n r g, x = .turn (.answer n r) ∧ (a.affairs ws).see Stage.exchange? n = some g ∧
          a.pipeline.isStale g = false := by
  obtain ⟨call, g, hpassage⟩ := Moment.replied?_eq_some.mp hreplied
  obtain ⟨-, hs, hs'⟩ := Moment.passage?_eq_some.mp hpassage
  dsimp only at hs hs'
  obtain ⟨r, rfl, rfl⟩ := hx.answered_reply hO hs (hs' ▸ nofun)
  obtain ⟨-, h⟩ | ⟨-, banner, y, supply, h⟩ | ⟨hcurrent, reply, arrival, adopted, supply, rfl,
    hread, -, rfl, h⟩ := enter_reply hs r
  · cases hs'.symm.trans (stage?_of_eq_endTask (congrArg Prod.fst h))
  · cases hs'.symm.trans (stage?_of_eq_endTask (congrArg Prod.fst h))
  · refine ⟨reply, Moment.taken?_eq_some.mpr ⟨⟨n, q, hreplied⟩, n, rfl⟩, ?_, n, _, g, rfl, ?_,
      hcurrent⟩
    · rw [h, ← conversation_of_interpret hread]
      exact filter_or_eq _ _
    · rw [Affairs.see, stage?_affairs, hs]
      rfl

/-- **What becomes of the number of the conversation**: what the moment makes of it, and else it
stays. -/
theorem Happens.conversation (hx : Happens x (a, ws) (b, vs)) (hO : (a.affairs ws).Orderly) :
    b.pipeline.conversation =
      (Moment.renumbers? ⟨a, x, b⟩).getD a.pipeline.conversation := by
  by_cases hresets : x.resets = true
  · have hb : b.pipeline = a.pipeline.reset := by
      cases hx with
      | turn => cases hresets
      | errand w => rw [pipeline_doing, if_pos hresets]
    rw [Moment.renumbers?_of_resets hresets, hb]
    rfl
  · cases hloaded : Moment.loaded? ⟨a, x, b⟩ with
    | some id =>
      rw [Moment.renumbers?_of_loaded? hloaded]
      exact (hx.loaded hO hloaded).1
    | none =>
      cases hreplied : Moment.replied? ⟨a, x, b⟩ with
      | some nq =>
        obtain ⟨r, hreply, h, -⟩ := hx.taken hO hreplied
        rw [Moment.renumbers?_of_taken? hreply, h]
        cases r.conversation? <;> rfl
      | none =>
        -- none of what decides the number has happened
        have hreply : Moment.taken? ⟨a, x, b⟩ = none := by rw [Moment.taken?, hreplied]
        rw [Moment.renumbers?_of_none (Bool.eq_false_iff.mpr hresets) hloaded hreply]
        rcases hx.messages hO with ⟨h, -⟩ | h | h | ⟨_, _, _, -, -, -, h, -⟩ | ⟨_, _, _, h, -⟩
        · exact h
        · exact absurd h hresets
        · obtain ⟨id, h⟩ := Moment.exists_loaded? h
          cases hloaded.symm.trans h
        · exact h
        · cases hreplied.symm.trans h

/-- **The number of the conversation is what the latest moment that decides it has made of it.** -/
theorem Leads.conversation (hfresh : a₀.IsFresh) (hc : Leads (a₀, []) ms c) :
    c.1.pipeline.conversation = Course.conversation? ms := by
  induction hc with
  | start =>
    rw [hfresh.pipeline]
    rfl
  | step hc hx ih =>
    rw [Course.conversation?_cons, hx.conversation (hc.orderly hfresh)]
    exact congrArg _ ih

/-! ### What comes too late -/

/-- **What overtakes a task**: the generation of what it has under way is not behind exactly if no
new one has begun since. -/
theorem Leads.superseded_iff (hfresh : a₀.IsFresh) (hc : Leads (a₀, []) ms c)
    (hsee : (c.1.affairs c.2).see Stage.exchange? n = some g) :
    c.1.pipeline.generation = g ↔ Course.superseded n ms = false := by
  suffices h : g ≤ c.1.pipeline.generation ∧
      (c.1.pipeline.generation = g ↔ Course.superseded n ms = false) from h.2
  induction hc with
  | start =>
    rw [Affairs.see, Affairs.stage?_of_tasks_eq_nil hfresh.tasks] at hsee
    cases hsee
  | @step ms a b ws vs x hc hx ih =>
    have hg := hx.generation.1
    rcases hx.change.exchange_before hsee with hsee' | ⟨hprogress, h⟩
    · -- it is under way, so it does not begin
      obtain ⟨hle, hiff⟩ := ih hsee'
      have hbegins : Moment.begins ⟨a, x, b⟩ n = false := by
        rw [← Bool.not_eq_true, Moment.begins_eq_true]
        rintro ⟨s, s', hpassage, hs, -⟩
        obtain ⟨-, hn, -⟩ := Moment.passage?_eq_some.mp hpassage
        have hn : (a.affairs ws).stage? n = some s := hn
        rw [Affairs.see, hn] at hsee'
        cases hs.symm.trans hsee'
      rw [Course.superseded, hbegins, Bool.not_false, Bool.true_and]
      dsimp only at hle hiff
      cases hrenews : Moment.renews ⟨a, x, b⟩ with
      | true =>
        rw [hrenews, if_pos rfl] at hg
        simp
        omega
      | false =>
        rw [hrenews] at hg
        rw [hg, Bool.false_or]
        exact ⟨hle, hiff⟩
    · -- it begins now, in the generation there is from now on
      obtain ⟨hbegins, hg⟩ : Moment.begins ⟨a, x, b⟩ n = true ∧ b.pipeline.generation = g := by
        rcases h with ⟨o, q, g', hl, ho, hposing⟩ |
          ⟨t, s, call, id, g', errand, hl, ht, hs, hloading, hs'⟩
        · obtain rfl := Happening.turn?_eq_some.mp hl
          have hpassage := Moment.passage?_turn (t := .advance n) rfl ho hposing
          obtain ⟨-, hs', _, _, _, -, -, -, -, hb, -⟩ :=
            hx.accepted (Moment.accepted?_eq_some.mpr ⟨o, g', hpassage⟩)
          refine ⟨Moment.begins_eq_true.mpr ⟨_, _, hpassage, rfl, rfl⟩, ?_⟩
          rw [Affairs.see, stage?_affairs, hs'] at hsee
          cases hsee
          rw [hb]
        · obtain rfl := Happening.turn?_eq_some.mp hl
          have hpassage := Moment.passage?_turn ht hs hs'
          obtain ⟨hb, rfl⟩ := hx.startLoad hs hloading hs'
          have hs : (a.affairs ws).stage? n = some s := hs
          refine ⟨Moment.begins_eq_true.mpr
            ⟨s, _, hpassage, Stage.exchange?_of_progress_le (hs ▸ hprogress), rfl⟩, ?_⟩
          have hs' : b.stage? n = some (.awaitEntries call id _ errand) := hs'
          rw [Affairs.see, stage?_affairs, hs'] at hsee
          cases hsee
          rw [hb]
          rfl
      exact ⟨Nat.le_of_eq hg.symm, iff_of_true hg (by simp [Course.superseded, hbegins])⟩

end App

/-! ### Questions that were put to the server -/

/-- The question that was put to the server, with the number of its call. -/
def Observation.posed? : Observation → Option (Nat × Question)
  | .asked n (.send q) => some (n, q)
  | _ => none

namespace App

variable {a₀ a b : App} {n g : Nat} {q : Question} {ws vs : Errands} {x : Happening}
  {c c' : App × Errands} {ms : Course}

/-- The questions that were put to the server, each with the number of its call, latest first. -/
def posed (a : App) : List (Nat × Question) := a.trace.filterMap Observation.posed?

theorem posed_notes (a : App) (ns : List Note) : (a.notes ns).posed = a.posed := by
  induction ns generalizing a with
  | nil => rfl
  | cons n ns ih => exact ih (a.note n)

theorem posed_unsubscribe (a : App) (id : Nat) : (a.unsubscribe id).posed = a.posed := by
  unfold unsubscribe
  split <;> rfl

theorem posed_unmount (a : App) (part : Part) : (a.unmount part).posed = a.posed := by
  have hdismiss : ∀ (b : App) (part : Part), (b.dismissPart part).posed = b.posed := by
    intro b part
    have h : ∀ (ids : List Nat) (b : App), (ids.foldl unsubscribe b).posed = b.posed := by
      intro ids
      induction ids with
      | nil => exact fun _ => rfl
      | cons id ids ih => exact fun b => (ih _).trans (posed_unsubscribe b id)
    exact h _ _
  cases part with
  | pipeline => exact hdismiss { a with pipeline := a.pipeline.unmount } .pipeline
  | canvas => exact hdismiss a .canvas
  | store => exact hdismiss a .store

theorem posed_changeCanvas (a : App) (f : Canvas → Canvas) :
    (a.changeCanvas f).1.posed = a.posed :=
  posed_notes _ _

theorem posed_openArtifact (a : App) (id : String) : (a.openArtifact id).1.posed = a.posed := by
  unfold openArtifact
  split
  · exact posed_changeCanvas a (·.select _)
  · rfl

theorem posed_ingest (a : App) (batch : List Artifact) : (a.ingest batch).1.posed = a.posed :=
  posed_notes _ _

theorem posed_clearStore (a : App) : a.clearStore.posed = a.posed := posed_notes _ _

theorem posed_reset (a : App) : a.reset.posed = a.posed := by
  unfold reset
  dsimp only
  split <;> rfl

/-- **Nothing that is done without a turn puts a question to the server.** -/
theorem posed_doing (a : App) (w : Work Listener Act) : (a.doing w).1.posed = a.posed := by
  cases w with
  | publish e => rfl
  | deliver l e =>
    obtain ⟨id, topic, listener⟩ := l
    obtain ⟨source, signal⟩ := e
    cases listener with
    | store =>
      cases signal with
      | artifactsReceived batch => exact posed_ingest a batch
      | newConversation => exact posed_clearStore a
      | _ => rfl
    | canvas =>
      cases signal with
      | artifactsReceived batch =>
        have hreveal : (a.react .canvas ⟨source, .artifactsReceived batch⟩).1.posed = a.posed := by
          simp only [react]
          split
          · rfl
          · exact posed_changeCanvas a _
        exact hreveal
      | toggleCanvas | newConversation => exact posed_changeCanvas a _
      | _ => rfl
    | pipeline =>
      cases signal with
      | newConversation => exact posed_reset a
      | conversationSelected id =>
        have hselects : (a.spawnLoad id).posed = a.posed := by
          unfold spawnLoad
          split <;> rfl
        exact hselects
      | _ => rfl
    | observer n =>
      have hhears : (a.react (.observer n) ⟨source, signal⟩).1.posed = a.posed := by
        simp only [react]
        split <;> rfl
      exact hhears
  | act w =>
    cases w with
    | command who c =>
      cases c with
      | reset => exact posed_reset a
      | toggle | cycle | hide | deselect => exact posed_changeCanvas a _
      | openId | openAt => exact posed_openArtifact a _
      | ingest batch => exact posed_ingest _ _
      | clearStore => exact posed_clearStore a
      | unmount part => exact posed_unmount a part
      | shutdown =>
        exact (posed_unmount _ _).trans ((posed_unmount _ _).trans (posed_unmount a _))
      | picture =>
        have hshown : (a.command .picture).1.posed = a.posed := by
          simp only [command]
          split
          · simp only [posed_notes]
          · rfl
        exact hshown
      | _ => rfl
    | give | note => rfl
    | conclude n g adopted => cases adopted <;> rfl

/-- **A task puts a question to the server if it was about to**, and only then. -/
theorem posed_advance (hn : ∀ q g, a.stage? n ≠ some (.posing q g)) :
    (a.advance n).posed = a.posed := by
  unfold advance
  split
  · rename_i o _
    cases o with
    | send text =>
      simp only [begin]
      split <;> rfl
    | retry =>
      simp only [begin]
      split <;> rfl
    | load | restore | list => rfl
  · rfl
  · rename_i h
    exact absurd h (hn _ _)
  · unfold startSave
    split
    · rfl
    · split <;> rfl
  · rfl

/-- An answer puts nothing to the server. -/
theorem posed_takeAnswer (a : App) (n : Nat) (r : Answer) :
    (a.takeAnswer n r).1.posed = a.posed := by
  unfold takeAnswer
  split
  · unfold takeReply
    dsimp only
    split <;> exact posed_notes _ _
  · unfold takeEntries
    dsimp only
    split
    · exact posed_notes _ _
    · split <;> exact posed_notes _ _
    · exact posed_notes _ _
  · rfl
  · rfl

/-- **What is put to the server**: nothing, unless a task asks its question. -/
theorem Happens.posed_eq (hx : Happens x (a, ws) (b, vs)) : b.posed =
    ((Moment.posed? ⟨a, x, b⟩).map (·.2)).toList ++ a.posed := by
  cases hposed : Moment.posed? ⟨a, x, b⟩ with
  | some y =>
    obtain ⟨n, call, q⟩ := y
    obtain ⟨g, h, rfl, rfl⟩ := hx.exists_posing hposed
    obtain ⟨-, htrace, -⟩ := advance_posing h
    rw [App.posed, htrace]
    rfl
  | none =>
    refine Eq.trans ?_ (List.nil_append _).symm
    cases hx with
    | errand w => exact posed_doing a w
    | turn t =>
      cases t with
      | call | publish | tell | jot => rfl
      | advance n =>
        refine posed_advance fun q g hs => ?_
        obtain ⟨hs', -⟩ := advance_posing hs
        have h := Moment.posed?_eq_some.mpr
          ⟨q, g, g, Moment.passage?_turn (t := .advance n) rfl hs hs'⟩
        cases hposed.symm.trans h
      | answer n r => exact posed_takeAnswer a n r
      | giveSession n r =>
        simp only [enter, giveSession]
        split
        · split <;> rfl
        · rfl
      | giveSaved n r =>
        simp only [enter, giveSaved]
        split
        · cases r <;> rfl
        · rfl

/-! ### Where a question is addressed -/

theorem Leads.profile (hc : Leads c ms c') : c'.1.profile = c.1.profile := by
  induction hc with
  | start => rfl
  | step _ hx ih => exact hx.profile.trans ih

/-- Nothing overtakes a question since it was accepted if no new generation begins. -/
theorem renewed_eq_false {between earlier : Course} {m : Moment}
    (haccepted : m.accepted? = some (n, q)) (hm : m.renews = false)
    (hbetween : ∀ u ∈ between, u.renews = false) :
    Course.renewed n (between ++ m :: earlier) = false := by
  induction between with
  | nil => simp [Course.renewed, hm, haccepted]
  | cons u between ih =>
    obtain ⟨hu, hbetween⟩ := List.forall_mem_cons.mp hbetween
    rw [List.cons_append, Course.renewed, hu, ih hbetween, Bool.and_false]
    rfl

/-- **A question that is accepted** bears the number of the conversation of that moment and the
persona of the settings. Its text is the one that was to be sent, or it is the question that failed
before. -/
theorem Leads.accepted_addressed (hfresh : a₀.IsFresh) (hc : Leads (a₀, []) ms (a, ws))
    (hx : Happens x (a, ws) (b, vs)) (haccepted : Moment.accepted? ⟨a, x, b⟩ = some (n, q)) :
    q.conversation = Course.conversation? ms ∧ q.persona = a₀.profile.persona ∧
      (Moment.sent? ⟨a, x, b⟩ = some (n, q.text) ∨
        Moment.sent? ⟨a, x, b⟩ = none ∧ Course.failed? ms = some q) := by
  have hconversation : a.pipeline.conversation = Course.conversation? ms := hc.conversation hfresh
  have hprofile : a.profile = a₀.profile := hc.profile
  obtain ⟨o', g, hpassage⟩ := Moment.accepted?_eq_some.mp haccepted
  obtain ⟨-, -, o, y, t, ho, -, hlast, rfl, -, hcases⟩ := hx.accepted haccepted
  obtain ⟨-, ho', -⟩ := Moment.passage?_eq_some.mp hpassage
  cases ho'.symm.trans ho
  refine ⟨hconversation, congrArg (·.persona) hprofile, ?_⟩
  rcases hcases with ⟨text, rfl, rfl, -⟩ | ⟨rfl, hresendable, rfl⟩
  · exact .inl (Moment.sent?_eq_some.mpr ⟨_, _, hpassage⟩)
  · have hpending : Pending ms a := hc.pending hfresh
    obtain ⟨z, -, hz, hfailed⟩ := hpending.failed hresendable
    cases hlast.symm.trans hz
    refine .inr ⟨?_, hfailed⟩
    rw [Moment.sent?, hpassage]

/-- **A question that is put to the server bears the number of that moment**, unless something has
overtaken it since it was accepted. -/
theorem Leads.posed_addressed (hfresh : a₀.IsFresh) {earlier between : Course}
    (hc : Leads (a₀, []) earlier (a, ws)) (hx : Happens x (a, ws) (b, vs))
    (haccepted : Moment.accepted? ⟨a, x, b⟩ = some (n, q)) (hbetween : Leads (b, vs) between c)
    (hs : c.1.stage? n = some (.posing q g)) (hkept : ∀ u ∈ between, u.renews = false) :
    q.conversation = Course.conversation? (between ++ ⟨a, x, b⟩ :: earlier) := by
  have hb : Leads (a₀, []) (⟨a, x, b⟩ :: earlier) (b, vs) := hc.step hx
  have hlead := hb.append hbetween
  obtain ⟨-, hposing, _, y, _, -, -, -, rfl, hpipeline, -⟩ := hx.accepted haccepted
  have hg : c.1.pipeline.generation = g :=
    (hlead.generation_eq_iff hfresh hs rfl).2.mpr
      (renewed_eq_false haccepted (hx.not_renews haccepted) hkept)
  have hsee : (c.1.affairs c.2).see Stage.exchange? n = some c.1.pipeline.generation := by
    rw [Affairs.see, stage?_affairs, hs, hg]
    rfl
  obtain ⟨-, h, -⟩ := hb.exchange_kept hfresh hbetween
    (lt_nextTask (hb.orderly hfresh) hposing) (hposing ▸ Nat.le_refl 2) hsee
  rw [← hlead.conversation hfresh, h, hpipeline]
  rfl

/-- What was put to the server was put at some moment. -/
theorem Leads.exists_posed (hunasked : a₀.posed = []) (hc : Leads (a₀, []) ms c) {call : Nat}
    (hq : (call, q) ∈ c.1.posed) : ∃ n, ∃ m ∈ ms, m.posed? = some (n, call, q) := by
  induction hc with
  | start =>
    rw [hunasked] at hq
    cases hq
  | step _ hx ih =>
    rw [hx.posed_eq, List.mem_append] at hq
    rcases hq with hq | hq
    · obtain ⟨⟨n, _⟩, hposed, rfl⟩ := Option.map_eq_some_iff.mp (Option.mem_toList.mp hq)
      exact ⟨n, _, List.mem_cons_self, hposed⟩
    · obtain ⟨n, m, hm, hposed⟩ := ih hq
      exact ⟨n, m, List.mem_cons_of_mem _ hm, hposed⟩

/-- **What decides the number has come in time**: no new generation has begun since the task began
to have it under way, and the conversation is mounted. -/
theorem Leads.renumbers_in_time (hfresh : a₀.IsFresh) (hc : Leads (a₀, []) ms (a, ws)) {t : Turn}
    (hx : Happens (.turn t) (a, ws) (b, vs)) {y : Option Int}
    (hy : Moment.renumbers? ⟨a, .turn t, b⟩ = some y) : ∃ n r, t = .answer n r ∧
      Course.superseded n ms = false ∧ ∀ u ∈ ms, u.happening.unmounts = false := by
  have hO : (a.affairs ws).Orderly := hc.orderly hfresh
  obtain ⟨n, r, g, ht, hsee, hcurrent⟩ : ∃ n r g, Happening.turn t = .turn (.answer n r) ∧
      (a.affairs ws).see Stage.exchange? n = some g ∧ a.pipeline.isStale g = false := by
    cases hloaded : Moment.loaded? ⟨a, .turn t, b⟩ with
    | some id => exact (hx.loaded hO hloaded).2
    | none =>
      cases hreplied : Moment.replied? ⟨a, .turn t, b⟩ with
      | some nq =>
        obtain ⟨_, -, -, h⟩ := hx.taken hO hreplied
        exact h
      | none =>
        have hreply : Moment.taken? ⟨a, .turn t, b⟩ = none := by rw [Moment.taken?, hreplied]
        cases hy.symm.trans (Moment.renumbers?_of_none rfl hloaded hreply)
  obtain ⟨halive, hg⟩ := Pipeline.isStale_eq_false.mp hcurrent
  cases ht
  exact ⟨n, r, rfl, (hc.superseded_iff hfresh hsee).mp hg, (hc.alive_iff.mp halive).2⟩

/-- **Questions carry the right conversation.** After every course:

* The number of the conversation is what the latest moment that decides it has made of it.
* Every question that was put to the server was accepted before. It bears the persona of the
  settings and the number of the conversation at the moment at which it was accepted, which is the
  number at the moment at which it is put unless a new generation has begun in between. Its text is
  the one that was to be sent; a question that is asked again is the one that failed.
* A moment that does not decide the number leaves it alone. A reply that is taken in decides it if
  the number it says denotes one, and only then. The answer to a task that ends with it decides
  nothing, and neither does one that comes after a new generation has begun or the conversation was
  unmounted. -/
theorem Leads.addresses (hfresh : a₀.IsFresh) (hunasked : a₀.posed = [])
    (hc : Leads (a₀, []) ms c) :
    c.1.pipeline.conversation = Course.conversation? ms ∧
      (∀ call q, (call, q) ∈ c.1.posed → ∃ n later m between m' earlier,
        ms = later ++ m :: (between ++ m' :: earlier) ∧
        m.posed? = some (n, call, q) ∧ m'.accepted? = some (n, q) ∧
        q.persona = a₀.profile.persona ∧
        (m'.sent? = some (n, q.text) ∨ m'.sent? = none ∧ Course.failed? earlier = some q) ∧
        q.conversation = Course.conversation? earlier ∧
        ((∀ u ∈ between, u.renews = false) →
          q.conversation = Course.conversation? (between ++ m' :: earlier))) ∧
      ∀ later m earlier, ms = later ++ m :: earlier →
        (m.renumbers? = none → m.after.pipeline.conversation = m.before.pipeline.conversation) ∧
        (∀ r, m.taken? = some r → ∀ id, m.renumbers? = some (some id) ↔
          ∃ v, r.conversation = some v ∧ Denotes v id) ∧
        ∀ n r, m.happening = .turn (.answer n r) →
          m.after.stage? n = none ∨ Course.superseded n earlier = true ∨
            (∃ u ∈ earlier, u.happening.unmounts = true) → m.renumbers? = none := by
  refine ⟨hc.conversation hfresh, fun call q hq => ?_, ?_⟩
  · obtain ⟨n, m, hm, hposed⟩ := hc.exists_posed hunasked hq
    obtain ⟨later, before, _, _, rfl, hbefore, hx, -⟩ := hc.exists_of_mem hm
    obtain ⟨⟨g, hs⟩, -⟩ := hx.posed hposed
    -- a question that a task is about to ask was accepted
    obtain ⟨⟨m', hm', haccepted⟩, -⟩ := hbefore.questions hfresh hs rfl
    obtain ⟨between, earlier, _, _, rfl, hearlier, hy, hbetween⟩ := hbefore.exists_of_mem hm'
    obtain ⟨hconversation, hpersona, hsent⟩ := hearlier.accepted_addressed hfresh hy haccepted
    exact ⟨n, later, m, between, m', earlier, rfl, hposed, haccepted, hpersona, hsent,
      hconversation, hearlier.posed_addressed hfresh hy haccepted hbetween hs⟩
  · rintro later ⟨a, x, b⟩ earlier rfl
    obtain ⟨_, hbefore, -⟩ := hc.exists_of_append
    cases hbefore with
    | step hearlier hx =>
      refine ⟨fun hnone => ?_, fun r hreply id => ?_, fun n r hm hlate => ?_⟩
      · rw [hx.conversation (hearlier.orderly hfresh), hnone]
        rfl
      · rw [Moment.renumbers?_of_taken? hreply, Option.map_eq_some_iff]
        simp only [Option.some.injEq, exists_eq_right]
        exact conversationIn_eq_some
      · obtain rfl : x = .turn (.answer n r) := hm
        rcases hlate with hgone | hlate
        · exact Moment.renumbers?_of_ended rfl hgone
        · by_contra hsome
          obtain ⟨y, hy⟩ := Option.ne_none_iff_exists'.mp hsome
          obtain ⟨_, _, ht, hcurrent, hmounted⟩ := hearlier.renumbers_in_time hfresh hx hy
          cases ht
          rcases hlate with h | ⟨u, hu, h⟩
          · cases hcurrent.symm.trans h
          · cases (hmounted u hu).symm.trans h

/-- A second message, after a reply that writes the number of its conversation as a text between
blanks: the first question bears no number, the second one that number. -/
theorem addresses_of_second_send :
    let reply : Reply := { message := some (.string "x"), conversation := some (.string " 5 ") }
    let a := blank.run [.call (.send "hi"), .advance 0, .advance 0, .answer 0 (.reply (.ok reply)),
      .call (.send "ho"), .advance 1, .advance 1]
    a.posed = [(1, ⟨"ho", some 5, none⟩), (0, ⟨"hi", none, none⟩)] ∧
      ∃ ms, Leads (blank, []) ms (a, []) ∧ Course.conversation? ms = some 5 ∧
        ∃ n, ∃ m ∈ ms, m.accepted? = some (n, ⟨"ho", some 5, none⟩) := by
  intro reply a
  have hposed : a.posed = [(1, ⟨"ho", some 5, none⟩), (0, ⟨"hi", none, none⟩)] := by
    decide +kernel
  have hnumber : a.pipeline.conversation = some 5 := by decide +kernel
  obtain ⟨ms, hc⟩ := (reached_run blank _).exists_leads (c := (a, []))
  clear_value a
  obtain ⟨hconversation, hquestions, -⟩ := hc.addresses isFresh_blank rfl
  obtain ⟨n, later, m, between, m', earlier, hms, -, haccepted, -⟩ :=
    hquestions 1 _ (hposed ▸ List.mem_cons_self)
  refine ⟨hposed, ms, hc, hconversation.symm.trans hnumber, n, m', ?_, haccepted⟩
  simp [hms]

end App

end Parley
