import Parley.Proofs.Shell.Serving
import Parley.Proofs.Text.Blank

/-!
# No message is lost at the prompt

A session takes one line after another, and whatever a line says, when it is dealt with nothing is
under way (`Parley.Shell.makes_step`): what it started has come to its end, and the session that a
new conversation leaves to be saved is saved as well. So every line finds the conversation mounted
and idle (`Parley.Shell.makes_arrive`). A line that says something to the assistant is therefore
never turned down, nor is its answer stale, and it is not blank either, since of a blank line nothing
is left when the blanks at its end are removed.

`Parley.Shell.messages_are_answered` is what a user can rely on: a message is put to the server
exactly once, and either its reply is printed or that it failed and can be sent again.
-/

namespace Parley.Shell

open App

variable {σ : Type} {ports : Ports (StateM σ)} {p : Profile} {a b : App} {n : Nat}

/-! ### What is left between two lines -/

/-- A line is dealt with; at most a session is still to be saved. -/
structure Left (p : Profile) (a : App) : Prop extends IsStaffed p a where
  saving : a.saving = none
  phase : a.pipeline.phase = .idle
  tasks : a.tasks = [] ∨ ∃ n g x o, a.tasks = [⟨n, .wantSave g x o⟩]

theorem Rested.left (h : Rested p a) : Left p a := ⟨h.toIsStaffed, h.saving, h.phase, .inl h.tasks⟩

theorem Shows.rested {lines : List String} (hb : Shows a b lines) (h : Rested p a) : Rested p b :=
  ⟨hb.isStaffed h.toIsStaffed, hb.saving.trans h.saving, hb.tasks.trans h.tasks,
    (congrArg Pipeline.phase hb.pipeline).trans h.phase⟩

theorem Left.report (h : Left p a) (more : List String) : Left p (reportOn a more).app :=
  ⟨⟨h.profile, h.registry, h.observers, h.alive⟩, h.saving, h.phase, h.tasks⟩

/-- Where there are no tasks nothing runs. -/
theorem pumpReady_of_tasks_eq_nil {m : Type → Type} [Monad m] (ports : Ports m)
    (h : a.tasks = []) (k : Nat) : pumpReady ports k a = pure a := by
  cases k with
  | zero => rw [pumpReady]
  | succ k => rw [pumpReady, h, List.find?_nil]

/-- **What is left is done**, and nobody hears of it. -/
theorem makes_pumpAll (h : Left p a) : Makes (pumpAll ports.recorded a) fun b made =>
    made = [] ∧ Rested p b ∧ b.pipeline = a.pipeline ∧ spoken b = spoken a := by
  rw [pumpAll]
  obtain htasks | ⟨n, g, x, o, htasks⟩ := h.tasks
  · rw [pumpReady_of_tasks_eq_nil _ htasks]
    exact .pure ⟨rfl, ⟨h.toIsStaffed, h.saving, htasks, h.phase⟩, rfl, rfl⟩
  · have hready : a.tasks.find? (·.stage.isReady) = some ⟨n, .wantSave g x o⟩ := by
      rw [htasks]
      rfl
    rw [pumpReady, hready]
    refine Makes.bind_of_quiet (makes_wantSave ⟨h.toIsStaffed, h.saving, htasks⟩ 4) fun b hb => ?_
    rw [pumpReady_of_tasks_eq_nil _ hb.tasks]
    refine .pure ⟨rfl, ⟨hb.toIsStaffed, hb.saving, hb.tasks, ?_⟩, hb.pipeline, hb.spoken⟩
    rw [hb.pipeline]
    exact h.phase

/-! ### One line -/

/-- A command of the user's that is none of the conversation's business. -/
theorem Rested.tell (h : Rested p a) {c : Command}
    (hc : isCalm (.act (.command none c)) = true) : Rested p (a.tell c) := by
  obtain ⟨shown, -, hshows⟩ := shows_settle h.observers (List.forall_mem_singleton.mpr hc)
  exact hshows.rested h

theorem Shows.left {lines : List String} (hb : Shows a b lines) (h : Left p a) : Left p b :=
  ⟨hb.isStaffed h.toIsStaffed, hb.saving.trans h.saving,
    (congrArg Pipeline.phase hb.pipeline).trans h.phase, hb.tasks ▸ h.tasks⟩

theorem Rested.reset (h : Rested p a) : Left p a.reset := by
  unfold App.reset
  dsimp only
  split
  · exact ⟨⟨h.profile, h.registry, h.observers, h.alive⟩, h.saving, rfl,
      .inr ⟨_, _, _, _, congrArg (· ++ _) h.tasks⟩⟩
  · exact ⟨⟨h.profile, h.registry, h.observers, h.alive⟩, h.saving, rfl, .inl h.tasks⟩

/-- Who is handed the signal that a new conversation begins: the store, the canvas and the
conversation, in this order. -/
theorem settle_newConversation (h : a.registry = bus) (source : String) :
    ∃ b, b = (a.note (a.registry.publishNote ⟨source, .newConversation⟩)).clearStore ∧
      a.settle [.publish ⟨source, .newConversation⟩] =
        ((b.changeCanvas Canvas.hide).1.settle (b.changeCanvas Canvas.hide).2).reset := by
  have hlistening : a.registry.listening .newConversation = [⟨1, .newConversation, .store⟩] ++
      ([⟨4, .newConversation, .canvas⟩] ++ [⟨5, .newConversation, .pipeline⟩]) := by
    rw [h]
    rfl
  have htopic : (⟨source, .newConversation⟩ : Event).topic = .newConversation := rfl
  refine ⟨_, rfl, ?_⟩
  rw [settle_publish, htopic, hlistening, List.map_append, List.map_append, settle_append,
    settle_append, List.map_singleton, List.map_singleton, List.map_singleton, settle_deliver,
    settle_deliver, settle_deliver]
  simp only [react, settle_nil]

/-- **A new conversation is begun**, and the saved session is to be cleared. -/
theorem Rested.left_newConversation (h : Rested p a) :
    Left p (a.tell (.announce .newConversation)) := by
  obtain ⟨b, hb, hpublish⟩ := settle_newConversation h.registry appSource
  have hstore : Shows a b ([] ++ []) := by
    rw [hb]
    exact ((Shows.refl a).notes [_]).trans (shows_clearStore _)
  have hcanvas := hstore.trans (shows_changeCanvas b Canvas.hide)
  obtain ⟨shown, -, hhidden⟩ := shows_settle (hcanvas.isStaffed h.toIsStaffed).observers
    (isCalm_changeCanvas b Canvas.hide)
  have hreset := ((hcanvas.trans hhidden).rested h).reset
  rw [← hpublish] at hreset
  have hgive : ∀ w ∈ ([.act (.give none .done)] : Errands), isCalm w = true :=
    List.forall_mem_singleton.mpr rfl
  obtain ⟨more, -, hgiven⟩ := shows_settle hreset.observers hgive
  have hleft : Left p _ := hgiven.left hreset
  rw [← settle_append] at hleft
  rw [App.tell, settle_act]
  exact hleft

/-- **What a user sees of a question** at the end of a transcript: the assistant's message, which is
appended, or that the question failed and can be sent again. -/
inductive Replied (t : Transcript) (r : Report) : Prop
  | delivered (y : Message) (shown : List String) : y.role = .agent → AboutCanvas shown →
      r.app.pipeline.transcript = t.push y → r.printed = messageLines y ++ shown → Replied t r
  | failed (x : Banner) : r.app.pipeline.transcript = t → r.app.pipeline.banner = some x →
      r.app.pipeline.resendable = true → r.printed = [bannerLine x] → Replied t r

theorem Answered.replied {t : Transcript} {o : Option Outcome} (h : Answered t [] a o) :
    Replied t (reportSent a o) := by
  cases h with
  | delivered y shown hy hshown ht ho hs =>
    rw [ho]
    refine .delivered y shown hy hshown ht ?_
    change spoken a ++ [] = _
    rw [hs, List.append_nil, List.nil_append]
  | failed k x ht hbanner hresendable ho hs =>
    rw [ho]
    refine .failed x ht hbanner hresendable ?_
    change spoken a ++ (a.pipeline.banner.map bannerLine).toList = _
    rw [hs, hbanner]
    rfl

/-- A line that is typed: a message says something. -/
def Line.IsTyped (line : Line) : Prop :=
  ∀ text, line = .message text → Text.isBlankText text = false

/-- **What comes of a line**, as far as the assistant is concerned: a message is put to the server,
once, and answered; the question that failed last may be put again; nothing else is put to it. -/
def Handled (a : App) (r : Report) (made : List Call) : Line → Prop
  | .message text => ∃ x : Message, x.role = .user ∧ x.content = text ∧
      made = [.send (a.questionOf x)] ∧ Replied (a.pipeline.transcript.push x) r
  | .retry => made = [] ∨ ∃ x : Message, x.role = .user ∧ a.pipeline.transcript.last? = some x ∧
      made = [.send (a.questionOf x)] ∧ Replied a.pipeline.transcript r
  | _ => ∀ q, .send q ∉ made

/-- What is reported on an app with at most a session left to save. -/
theorem Left.reported (h : Left p b) {line : Line} {more : List String} {made : List Call}
    (hmade : Handled a (reportOn b more) made line) :
    Left p (reportOn b more).app ∧ spoken (reportOn b more).app = [] ∧
      Handled a (reportOn b more) made line :=
  ⟨h.report more, rfl, hmade⟩

/-- A question is reported on. -/
theorem Rested.report (h : Rested p a) (o : Option Outcome) :
    Left p (reportSent a o).app ∧ spoken (reportSent a o).app = [] := by
  have hnoted : ∀ x, Left p (a.note x) := fun x => (((Shows.refl a).notes [x]).rested h).left
  unfold reportSent
  split
  · exact ⟨h.left.report _, rfl⟩
  · exact ⟨(hnoted _).report _, rfl⟩
  · exact ⟨(hnoted _).report _, rfl⟩
  · exact ⟨h.left.report _, rfl⟩

/-- The artifact that is selected is shown. -/
theorem showActive_eq (a : App) : ∃ xs more, showActive a = reportOn (a.notes xs) more := by
  unfold showActive
  cases a.canvas.artifact? a.store with
  | none => exact ⟨[], _, rfl⟩
  | some shown =>
    obtain ⟨⟨picture, xs⟩, hpicture⟩ : ∃ v, Picture.ofArtifact a.plotter shown = v := ⟨_, rfl⟩
    simp only [hpicture]
    exact ⟨xs, _, rfl⟩

/-- An artifact is shown, or there is no such artifact. -/
theorem openArtifact_eq (a : App) (arg : String) : ∃ more, openArtifact a arg = reportOn a more ∨
    ∃ id xs, openArtifact a arg = reportOn ((a.tell (.openId id)).notes xs) more := by
  unfold openArtifact
  cases chosenId? a (.ofText arg) with
  | none => exact ⟨_, .inl rfl⟩
  | some id =>
    cases hfound : (a.store.find? id).isSome with
    | true =>
      obtain ⟨xs, more, hshown⟩ := showActive_eq (a.tell (.openId id))
      refine ⟨more, .inr ⟨id, xs, ?_⟩⟩
      simp only [hfound, if_true]
      exact hshown
    | false =>
      refine ⟨["No artifact " ++ arg], .inr ⟨id, [], ?_⟩⟩
      simp only [hfound, Bool.false_eq_true, if_false]
      rfl

/-- **A line is dealt with.** -/
theorem makes_respond (hports : ports.IsPrompt) (h : Rested p a) (htrace : spoken a = [])
    {line : Line} (hline : line.IsTyped) :
    Makes (respond ports.recorded a line) fun r made =>
      Left p r.app ∧ spoken r.app = [] ∧ Handled a r made line := by
  cases line with
  | blank | quit | list | unknown => exact .pure (h.left.reported nofun)
  | message text =>
    refine (makes_send hports h (hline text rfl)).bind fun v made hv => .pure ?_
    obtain ⟨x, hrole, hcontent, rfl, hrested, hanswered⟩ := hv
    obtain ⟨hleft, hspoken⟩ := hrested.report v.2
    rw [htrace] at hanswered
    exact ⟨hleft, hspoken, x, hrole, hcontent, rfl, hanswered.replied⟩
  | retry =>
    refine (makes_retry hports h).bind fun v made hv => .pure ?_
    obtain ⟨hrested, hmade⟩ := hv
    obtain ⟨hleft, hspoken⟩ := hrested.report v.2
    refine ⟨hleft, hspoken, ?_⟩
    rw [List.append_nil]
    rcases hmade with rfl | ⟨x, hrole, hlast, rfl, hanswered⟩
    · exact .inl rfl
    · rw [htrace] at hanswered
      exact .inr ⟨x, hrole, hlast, rfl, hanswered.replied⟩
  | fresh => exact .pure (h.left_newConversation.reported nofun)
  | history =>
    refine (makes_list hports h).bind fun v made hv => .pure ?_
    obtain ⟨rfl, hrested⟩ := hv
    refine hrested.left.reported ?_
    exact fun q hq => by cases List.mem_singleton.mp hq
  | load id =>
    cases id with
    | none => exact .pure (h.left.reported nofun)
    | some id =>
      refine (makes_load hports h id).bind fun v made hv => .pure ?_
      obtain ⟨rfl, hrested⟩ := hv
      refine hrested.left.reported ?_
      exact fun q hq => by cases List.mem_singleton.mp hq
  | view arg =>
    obtain ⟨more, hreport | ⟨id, xs, hreport⟩⟩ := openArtifact_eq a arg
    · rw [respond, hreport]
      exact .pure (h.left.reported nofun)
    · have hrested : Rested p (a.tell (.openId id)) := h.tell rfl
      rw [respond, hreport]
      exact .pure ((((Shows.refl _).notes xs).rested hrested).left.reported nofun)
  | back | canvas | cycle | close => exact .pure ((h.tell rfl).left.reported nofun)

/-- A prompt: nothing is under way, and everything has been printed. -/
structure AtPrompt (p : Profile) (a : App) : Prop extends Rested p a where
  spoken : spoken a = []

theorem Handled.congr {r r' : Report} {made : List Call} {line : Line}
    (h : Handled a r made line) (hpipeline : r'.app.pipeline = r.app.pipeline)
    (hprinted : r'.printed = r.printed) : Handled a r' made line := by
  have hreplied : ∀ t, Replied t r → Replied t r' := by
    intro t ht
    cases ht with
    | delivered y shown hy hshown hpush hlines =>
      exact .delivered y shown hy hshown (hpipeline ▸ hpush) (hprinted.trans hlines)
    | failed x hsame hbanner hresendable hlines =>
      exact .failed x (hpipeline ▸ hsame) (hpipeline ▸ hbanner) (hpipeline ▸ hresendable)
        (hprinted.trans hlines)
  cases line with
  | message text =>
    obtain ⟨x, hrole, hcontent, hmade, ht⟩ := h
    exact ⟨x, hrole, hcontent, hmade, hreplied _ ht⟩
  | retry =>
    rcases h with h | ⟨x, hrole, hlast, hmade, ht⟩
    · exact .inl h
    · exact .inr ⟨x, hrole, hlast, hmade, hreplied _ ht⟩
  | _ => exact h

/-- **Every line comes back to the prompt.** -/
theorem makes_step (hports : ports.IsPrompt) (h : AtPrompt p a) {line : Line}
    (hline : line.IsTyped) :
    Makes (step ports.recorded a line) fun r made => AtPrompt p r.app ∧ Handled a r made line := by
  refine (makes_respond hports h.toRested h.spoken hline).bind fun r made hr => ?_
  obtain ⟨hleft, hspoken, hhandled⟩ := hr
  refine Makes.bind_of_quiet (makes_pumpAll hleft) fun b hb => .pure ?_
  obtain ⟨hrested, hpipeline, hsaid⟩ := hb
  refine ⟨⟨?_, rfl⟩, ?_⟩
  · exact ⟨⟨hrested.profile, hrested.registry, hrested.observers, hrested.alive⟩, hrested.saving,
      hrested.tasks, hrested.phase⟩
  · rw [List.append_nil]
    refine hhandled.congr hpipeline ?_
    change r.printed ++ (spoken b ++ []) = r.printed
    rw [hsaid, hspoken, List.append_nil, List.append_nil]

/-! ### Typed lines -/

/-- A typed line without the blanks at its end. -/
def trimmed (text : String) : String := String.ofList (Text.trimEndChars text.toList)

/-- A typed line says something to the assistant: it is not blank, and no command. -/
def Says (text : String) : Prop :=
  Text.trimEndChars text.toList ≠ [] ∧ (Text.trimEndChars text.toList).head? ≠ some '/'

/-- A typed line is a command. -/
def Commands (text : String) : Prop := (Text.trimEndChars text.toList).head? = some '/'

theorem Says.ofText {text : String} (h : Says text) :
    Line.ofText text = .message (trimmed text) := by
  have hquit : Text.trimEndChars text.toList ≠ "/quit".toList := by
    intro hquit
    rw [Says, hquit] at h
    exact h.2 rfl
  simp only [Line.ofText, List.isEmpty_iff, if_neg h.1, if_neg hquit, if_neg h.2]
  rfl

theorem commandLine_ne_message (word arg text : String) : commandLine word arg ≠ .message text := by
  unfold commandLine
  split <;> nofun

/-- **Of a line that is typed something is left**, if it is a message. -/
theorem Line.isTyped_ofText (text : String) : (Line.ofText text).IsTyped := by
  intro message h
  unfold Line.ofText at h
  dsimp only at h
  split at h
  · cases h
  · rename_i hempty
    rw [List.isEmpty_iff] at hempty
    split at h
    · cases h
    · split at h
      · exact absurd h (commandLine_ne_message _ _ _)
      · cases h
        exact Text.isBlankText_trimEndChars hempty

section

variable {m : Type → Type} [Monad m] (ports : Ports m)

/-- Deals with some lines, none of which ends the session, after what was reported so far. -/
def proceed (r : Report) (lines : List Line) : m Report :=
  lines.foldlM (fun r line => do return r.followedBy (← step ports r.app line)) r

/-- A session up to the prompt after some lines. -/
def arrive (s : Settings) (supply : Supply) (lines : List Line) : m Report := do
  proceed ports (← start ports s supply) lines

variable {ports}

variable [LawfulMonad m] {lines : List Line}

end

/-- The profile of a session. -/
def profileOf (s : Settings) : Profile := ⟨s.persona, s.userId, s.historyLimit⟩

theorem rested_appOf (s : Settings) (supply : Supply) : Rested (profileOf s) (appOf s supply) :=
  ⟨⟨rfl, rfl, rfl, rfl⟩, rfl, rfl, rfl⟩

/-- **A session starts with a prompt**, whatever was saved. -/
theorem makes_start (hports : ports.IsPrompt) (s : Settings) (supply : Supply) :
    Makes (start ports.recorded s supply) fun r _ => AtPrompt (profileOf s) r.app := by
  refine (makes_restore hports (rested_appOf s supply)).bind fun v made hv => ?_
  obtain ⟨a, o⟩ := v
  obtain ⟨-, hrested⟩ := hv
  have hnoted : ∀ x, Rested (profileOf s) (a.note x) :=
    fun x => ((Shows.refl a).notes [x]).rested hrested
  have hgreets : ∀ (b : App) (more : List String), Rested (profileOf s) b →
      Makes (b.pumpAll ports.recorded >>= fun c => pure (reportOn c more))
        fun r _ => AtPrompt (profileOf s) r.app := by
    intro b more hb
    refine Makes.bind_of_quiet (makes_pumpAll hb.left) fun c hc => .pure ?_
    obtain ⟨hc, -⟩ := hc
    exact ⟨⟨⟨hc.profile, hc.registry, hc.observers, hc.alive⟩, hc.saving, hc.tasks, hc.phase⟩, rfl⟩
  dsimp only
  split
  · exact hgreets _ _ hrested
  · exact hgreets _ _ (hnoted _)
  · exact hgreets _ _ hrested

/-- **Every prompt of a session is one**: whatever was typed, and whatever the server and the disk
did. -/
theorem makes_arrive (hports : ports.IsPrompt) (s : Settings) (supply : Supply)
    {lines : List Line} (hlines : ∀ line ∈ lines, line.IsTyped) :
    Makes (arrive ports.recorded s supply lines) fun r _ => AtPrompt (profileOf s) r.app := by
  refine (makes_start hports s supply).bind fun r _ hr => ?_
  -- by induction on the lines, each of which leads from one prompt to the next
  induction lines generalizing r with
  | nil => exact .pure hr
  | cons line lines ih =>
    obtain ⟨hline, hlines⟩ := List.forall_mem_cons.mp hlines
    rw [proceed, List.foldlM_cons]
    refine Makes.bind (P := fun r' _ => AtPrompt (profileOf s) r'.app) ?_
      fun r' _ hr' => ih hlines r' hr'
    exact (makes_step hports hr hline).bind fun r' _ hr' => .pure hr'.1

end Parley.Shell
