import Parley.Proofs.Chat.Happening
import Parley.Proofs.Chat.Reading
import Parley.Proofs.Text.Blank

/-!
# What a message looks like

A message of the assistant's comes to a transcript in one of two ways: with the reply to a question,
or from the history of a conversation that is loaded. The two ways share nothing but the readings of
what the server sent and the making of the HTML. That is enough for an answer to look the same the
next day: of the author, the text, the HTML and the titles nothing depends on the way
(`Parley.Message.LooksLike`).

The HTML is made once, when a message is made, and nothing that is done to a conversation touches it
afterwards. So every message of a transcript carries the HTML of its text, or none if its author is
not the assistant (`Parley.Message.IsFaithful`), whatever has happened
(`Parley.App.Leads.isFaithful`).
-/

namespace Parley

open Json (Value)

/-- Two messages look the same. They need not have the same name or be of the same time. -/
structure Message.LooksLike (x y : Message) : Prop where
  role : x.role = y.role
  content : x.content = y.content
  html : x.html = y.html
  refs : x.refs = y.refs

/-- A message carries the HTML of its text. -/
def Message.IsFaithful (x : Message) : Prop := x.html = x.role.snapshot x.content

/-! ### Two ways to the same message -/

/-- **What a reply with a text brings**: a message of the assistant's, with the lines of insight under
the text. -/
theorem Pipeline.interpret_of_text? {r : Reply} {text : String} (h : r.text? = some text)
    (s : Supply) : ∃ arrival s', interpret r s = (.ok arrival, s') ∧
      arrival.message = (Message.agent (withInsights text r.insightLines) r.refs s).1 := by
  unfold interpret
  rw [h]
  exact ⟨_, _, rfl, rfl⟩

namespace HistoryEntry

variable (e : HistoryEntry) (s : Supply)

/-- The text of an entry's message. -/
def shownText : String :=
  if e.author = .agent then withInsights (e.content.getD "") e.insights else e.content.getD ""

/-- **What the message of an entry looks like**, whatever it is called. -/
theorem looksLike_toMessage (id : String) (time : Time.Instant) : (e.toMessage s).1.LooksLike
    ⟨id, e.author, e.shownText, e.author.snapshot e.shownText, time, e.titles⟩ := by
  unfold toMessage
  dsimp only
  split <;> exact ⟨rfl, rfl, rfl, rfl⟩

end HistoryEntry

/-- The assistant's two names, in any spelling. -/
theorem Role.ofWire_of_spells {s : String}
    (h : Text.Spells "assistant" s ∨ Text.Spells "agent" s) : Role.ofWire s = .agent := by
  unfold Role.ofWire
  rcases h with h | h
  · rw [h.lower_trim (by decide)]
    rfl
  · rw [h.lower_trim (by decide)]
    rfl

/-- An object is a reply with a text, insights and artifacts, and without an analysis. -/
structure Reply.Tells (fs : List (String × Value)) (text : String) (insights artifacts : Value) :
    Prop where
  message : Value.lookup "message" fs = some (.string text)
  insights : Value.lookup "insights" fs = some insights
  artifacts : Value.lookup "artifacts" fs = some artifacts
  analysis : Value.lookup "analysis" fs = none

/-- An entry of a history keeps an answer of the assistant's: its text, insights and artifacts. -/
structure HistoryEntry.Keeps (e : HistoryEntry) (text : String) (insights artifacts : Value) :
    Prop where
  role : ∃ r, e.role = some r ∧ (Text.Spells "assistant" r ∨ Text.Spells "agent" r)
  content : e.content = some text
  metadata : ∃ kept, e.metadata = some kept ∧ kept.get? "insights" = some insights ∧
    kept.get? "artifacts" = some artifacts

/-- **An answer that is loaded looks like the one that was given**, if the entry keeps what the reply
told. What the insights and the artifacts are does not matter, since both ways read them alike; only
the lines of an analysis are not kept. -/
theorem Message.looksLike_of_keeps {fs : List (String × Value)} {e : HistoryEntry} {text : String}
    {insights artifacts : Value} (hne : text ≠ "") (hfs : Reply.Tells fs text insights artifacts)
    (he : e.Keeps text insights artifacts) (s s' : Supply) :
    ∃ arrival t, Pipeline.interpret (Reply.ofFields fs) s = (.ok arrival, t) ∧
      arrival.message.role = .agent ∧ arrival.message.LooksLike (e.toMessage s').1 := by
  obtain ⟨role, hrole, hspells⟩ := he.role
  obtain ⟨kept, hmetadata, hkept, hkept'⟩ := he.metadata
  have htext : (Reply.ofFields fs).text? = some text := Reply.text?_ofFields.mpr ⟨hfs.message, hne⟩
  -- the reply as the first way reads it
  have hlines : (Reply.ofFields fs).insightLines = linesIn (some insights) := by
    have hnone : linesIn (Reply.ofFields fs).analysis = [] := by
      rw [Reply.ofFields, Reply.linesIn_presentIn, hfs.analysis]
      rfl
    rw [Reply.insightLines, hnone, Reply.ofFields, Reply.linesIn_presentIn, hfs.insights]
    split
    · rename_i h
      exact h.symm
    · rfl
  have hrefs : (Reply.ofFields fs).refs = titlesIn (some artifacts) := by
    rw [Reply.refs, Reply.ofFields, Reply.titlesIn_presentIn, hfs.artifacts]
  -- the entry as the second way reads it
  have hauthor : e.author = .agent := by
    rw [HistoryEntry.author, hrole]
    exact Role.ofWire_of_spells hspells
  have hshown : e.shownText = withInsights text (linesIn (some insights)) := by
    rw [HistoryEntry.shownText, if_pos hauthor, HistoryEntry.insights, he.content, hmetadata,
      Option.bind_some, hkept]
    rfl
  have htitles : e.titles = titlesIn (some artifacts) := by
    rw [HistoryEntry.titles, hmetadata, Option.bind_some, hkept']
  obtain ⟨arrival, t, hresult, hmade⟩ := Pipeline.interpret_of_text? htext s
  have hlooks := e.looksLike_toMessage s' "" s.now
  rw [hauthor, hshown, htitles] at hlooks
  rw [hlines, hrefs] at hmade
  refine ⟨arrival, t, hresult, ?_, ?_, ?_, ?_, ?_⟩
  · rw [hmade]
    rfl
  · rw [hmade, hlooks.role]
    rfl
  · rw [hmade, hlooks.content]
    rfl
  · rw [hmade, hlooks.html]
    rfl
  · rw [hmade, hlooks.refs]
    rfl

/-! ### Faithful messages -/

theorem Message.isFaithful_fresh (role : Role) (content : String) (refs : List String)
    (s : Supply) : (fresh role content refs s).1.IsFaithful := rfl

theorem HistoryEntry.isFaithful_toMessage (e : HistoryEntry) (s : Supply) :
    (e.toMessage s).1.IsFaithful := by
  have h := e.looksLike_toMessage s "" s.now
  rw [Message.IsFaithful, h.html, h.role, h.content]

theorem HistoryEntry.isFaithful_of_mem_toMessages {es : List HistoryEntry} {s : Supply}
    {x : Message} (hx : x ∈ (toMessages es s).1) : x.IsFaithful := by
  induction es generalizing s with
  | nil => cases hx
  | cons e es ih =>
    rcases List.mem_cons.mp hx with rfl | hx
    · exact e.isFaithful_toMessage s
    · exact ih hx

theorem Message.isFaithful_iff {x : Message} : x.IsFaithful ↔
    (x.role = .agent → x.html = if Markdown.isBlankHtml (Markdown.toHtml x.content) then none
      else some (Markdown.toHtml x.content)) ∧ (x.role ≠ .agent → x.html = none) := by
  unfold IsFaithful
  cases x.role with
  | agent => exact ⟨fun h => ⟨fun _ => h, fun hne => absurd rfl hne⟩, fun h => h.1 rfl⟩
  | user | system => exact ⟨fun h => ⟨nofun, fun _ => h⟩, fun h => h.2 nofun⟩

/-- Every message of a conversation carries the HTML of its text. -/
def Pipeline.IsFaithful (p : Pipeline) : Prop := ∀ x ∈ p.transcript.messages, x.IsFaithful

namespace Pipeline.IsFaithful

variable {p : Pipeline} {g : Nat} {s : Supply}

/-- A message is appended. -/
theorem push (h : p.IsFaithful) {x : Message} (hx : x.IsFaithful) {p' : Pipeline}
    (hp : p'.transcript = p.transcript.push x) : p'.IsFaithful := by
  intro y hy
  rw [hp, Transcript.messages_push] at hy
  rcases List.mem_append.mp hy with hy | hy
  · exact h y hy
  · obtain rfl := List.mem_singleton.mp hy
    exact hx

theorem send? (h : p.IsFaithful) {persona : Option String} {text : String} {y}
    (hy : p.send? persona text s = some y) : y.1.IsFaithful := by
  unfold Pipeline.send? at hy
  split at hy
  · cases hy
  · cases hy
    exact h.push (Message.isFaithful_fresh .user text [] s) rfl

/-- A question that is put again is where it was. -/
theorem retry? (h : p.IsFaithful) {persona : Option String} {y}
    (hy : p.retry? persona = some y) : y.1.IsFaithful := by
  unfold Pipeline.retry? at hy
  split at hy
  · obtain ⟨⟨x, t⟩, hx, rfl⟩ := Option.map_eq_some_iff.mp hy
    have hpush : t.push x = p.transcript := Transcript.push_of_takeUser? hx
    intro z hz
    exact h z (hpush ▸ hz)
  · cases hy

theorem pose (h : p.IsFaithful) (g : Nat) : (p.pose g).IsFaithful := by
  intro x hx
  rw [Pipeline.pose_eq] at hx
  exact h x hx

/-- A reply brings a message of the assistant's, if any. -/
theorem receive (h : p.IsFaithful) (g : Nat) (r : Except Failure Reply) (s : Supply) :
    (p.receive g r s).1.IsFaithful := by
  unfold Pipeline.receive
  split
  · exact h
  · cases r with
    | error f => exact h
    | ok reply =>
      cases htext : reply.text? with
      | some text =>
        obtain ⟨arrival, s', hresult, hmessage⟩ := interpret_of_text? htext s
        simp only [hresult]
        exact h.push (hmessage ▸ Message.isFaithful_fresh .agent _ _ s) rfl
      | none =>
        cases herror : reply.error? with
        | some | none =>
          simp only [interpret, htext, herror]
          exact h

/-- The messages of a history take the place of those that were there. -/
theorem receiveEntries (h : p.IsFaithful) (id : Int) (g : Nat)
    (r : Except Failure (List HistoryEntry)) (s : Supply) :
    (p.receiveEntries id g r s).1.IsFaithful := by
  unfold Pipeline.receiveEntries
  split
  · exact h
  · cases r with
    | error f => exact h
    | ok entries => exact fun _ => HistoryEntry.isFaithful_of_mem_toMessages

end Pipeline.IsFaithful

namespace App

variable {a a₀ : App} {c : App × Errands} {ms : Course}

theorem pipeline_notes (a : App) (ns : List Note) : (a.notes ns).pipeline = a.pipeline :=
  congrArg Affairs.pipeline (a.affairs_notes [] ns)

theorem isFaithful_notes (h : a.pipeline.IsFaithful) (ns : List Note) :
    (a.notes ns).pipeline.IsFaithful := by
  rwa [pipeline_notes]

/-! ### What is done to a conversation -/

theorem isFaithful_advance (h : a.pipeline.IsFaithful) (n : Nat) :
    (a.advance n).pipeline.IsFaithful := by
  unfold advance
  split
  · rename_i o _
    cases o with
    | send text =>
      simp only [begin]
      split
      · rename_i hsend
        exact h.send? hsend
      · exact h
    | retry =>
      simp only [begin]
      split
      · rename_i hretry
        exact h.retry? hretry
      · exact h
    | load | restore | list => exact h
  · exact h
  · exact h.pose _
  · unfold startSave
    split
    · exact h
    · split <;> exact h
  · exact h

theorem isFaithful_takeAnswer (h : a.pipeline.IsFaithful) (n : Nat) (r : Answer) :
    (a.takeAnswer n r).1.pipeline.IsFaithful := by
  unfold takeAnswer
  split
  · rename_i g r _
    have hreceive := h.receive g r a.supply
    simp only [takeReply]
    split <;> exact isFaithful_notes hreceive _
  · rename_i call id g errand r _
    have hreceive := h.receiveEntries id g r a.supply
    simp only [takeEntries]
    split
    · exact isFaithful_notes hreceive _
    · split <;> exact isFaithful_notes hreceive _
    · exact isFaithful_notes hreceive _
  · exact h
  · exact h

theorem isFaithful_enter (h : a.pipeline.IsFaithful) (t : Turn) :
    (a.enter t).1.pipeline.IsFaithful := by
  cases t with
  | call | publish | tell | jot => exact h
  | advance n => exact isFaithful_advance h n
  | answer n r => exact isFaithful_takeAnswer h n r
  | giveSession n r =>
    simp only [enter, giveSession]
    split
    · split <;> exact h
    · exact h
  | giveSaved n r =>
    simp only [enter, giveSaved]
    split
    · cases r <;> exact h
    · exact h

theorem isFaithful_doing (h : a.pipeline.IsFaithful) (w : Work Listener Act) :
    (a.doing w).1.pipeline.IsFaithful := by
  rw [pipeline_doing]
  split
  · exact nofun
  · split
    · exact h
    · split <;> exact h

/-- **Every message of a transcript carries the HTML of its text**, whatever has happened. -/
theorem Leads.isFaithful (hfresh : a₀.IsFresh) (hc : Leads (a₀, []) ms c) :
    c.1.pipeline.IsFaithful :=
  hc.keeps (P := fun a => a.pipeline.IsFaithful) (fun _ t h => isFaithful_enter h t)
    (fun _ w _ h => isFaithful_doing h w) (by
      rw [hfresh.pipeline]
      exact nofun)

/-- **What a message looks like.** An answer that is loaded looks like the one that was given, in its
role, text, HTML and titles, and every message of a transcript shows the HTML of its text: nothing if
it shows nothing or if it is not the assistant's. -/
theorem messages_look_alike :
    (∀ (text : String) (insights artifacts : Value) (fs : List (String × Value)) (e : HistoryEntry)
      (s s' : Supply), text ≠ "" → Reply.Tells fs text insights artifacts →
        e.Keeps text insights artifacts →
        ∃ arrival t, Pipeline.interpret (Reply.ofFields fs) s = (.ok arrival, t) ∧
          arrival.message.role = .agent ∧ arrival.message.LooksLike (e.toMessage s').1) ∧
    (∀ (a₀ : App) (ms : Course) (c : App × Errands), a₀.IsFresh → Leads (a₀, []) ms c →
      ∀ x ∈ c.1.pipeline.transcript.messages,
        (x.role = .agent → x.html = if Markdown.isBlankHtml (Markdown.toHtml x.content) then none
          else some (Markdown.toHtml x.content)) ∧ (x.role ≠ .agent → x.html = none)) :=
  ⟨fun _ _ _ _ _ s s' hne hfs he => Message.looksLike_of_keeps hne hfs he s s',
    fun _ _ _ hfresh hc x hx => Message.isFaithful_iff.mp (hc.isFaithful hfresh x hx)⟩

/-- An answer with insights and artifacts of several kinds, given and loaded, and the first question
of a conversation. -/
theorem messages_look_alike_of_answer :
    let insights := Value.array [.string "up", .null, .number (.integer 5)]
    let artifacts := Value.array [.object [("title", .string "Map")], .string "Note"]
    let fs := [("artifacts", artifacts), ("insights", insights), ("message", Value.string "Hi")]
    let e : HistoryEntry := ⟨none, some " ASSISTANT\t", some "Hi", none, none,
      some (.object [("artifacts", artifacts), ("insights", insights)])⟩
    (∃ arrival t, Pipeline.interpret (Reply.ofFields fs) default = (.ok arrival, t) ∧
      arrival.message.role = .agent ∧ arrival.message.LooksLike (e.toMessage default).1) ∧
    (∀ x ∈ (blank.run [.call (.send "hi"), .advance 0]).pipeline.transcript.messages,
      x.role ≠ .agent → x.html = none) := by
  intro insights artifacts fs e
  have hspells : Text.Spells "assistant" " ASSISTANT\t" :=
    ⟨[' '], "ASSISTANT".toList, ['\t'], rfl, List.forall_mem_singleton.mpr rfl,
      List.forall_mem_singleton.mpr rfl, rfl⟩
  have he : e.Keeps "Hi" insights artifacts :=
    ⟨⟨_, rfl, .inl hspells⟩, rfl, ⟨_, rfl, rfl, rfl⟩⟩
  have hc : Leads (blank, []) _ (blank.run [.call (.send "hi"), .advance 0], []) :=
    (Leads.start.turn (.call (.send "hi"))).turn (.advance 0)
  exact ⟨messages_look_alike.1 _ _ _ _ _ _ _ (by decide) ⟨rfl, rfl, rfl, rfl⟩ he,
    fun x hx => (messages_look_alike.2 _ _ _ isFresh_blank hc x hx).2⟩

end App

end Parley
