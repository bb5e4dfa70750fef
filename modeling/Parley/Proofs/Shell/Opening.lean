import Parley.Proofs.App.Stock
import Parley.Proofs.Numeral.Whole
import Parley.Proofs.Shell.Prompt

/-!
# What is listed and what is opened

At the prompt an artifact is named by its place in the list or by its identifier, and a number from
one on is taken for a place (`Parley.Shell.Numbers`). Nothing is under way at a prompt, so a line
that asks nothing of the server comes to the same in every world (`Parley.Shell.Yields`), and what
it changes can be told exactly: an artifact that is opened is selected and shown
(`Parley.Shell.Opens`), and one that is not found leaves everything as it is
(`Parley.Shell.Misses`).

That the artifact at a place is the one that is shown takes more than the place, since what is
selected is an identifier. It is shown because no two artifacts of a session ever have the same one
(`Parley.Shell.makes_arrive_stocked`).

Not everything that is listed can be opened by its identifier: one that reads as a number behind the
end of the list is taken for a place where there is nothing (`Parley.Shell.listed_is_missed`).
-/

namespace Parley

namespace Shell

open App Numeral

variable {σ : Type} {p : Profile} {a b : App}

/-! ### What is typed -/

theorem splitCommand_append {word : List Char} (hword : ' ' ∉ word) (rest : List Char) :
    splitCommand (word ++ ' ' :: rest) =
      (String.ofList word, Text.trim (String.ofList rest)) := by
  have hno : ∀ c ∈ word, decide (c ≠ ' ') = true := fun c hc => by
    simpa using fun h : c = ' ' => hword (h ▸ hc)
  rw [splitCommand, List.takeWhile_append_of_pos hno, List.dropWhile_append_of_pos hno]
  simp

/-- **The argument of a command is what stands behind the first space**, without the blanks around
it. -/
theorem Line.ofText_open (text : String) :
    Line.ofText ("/open " ++ text) = .view (Text.trim text) := by
  have hword : ' ' ∉ "/open".toList := by decide
  have htyped : ("/open " ++ text).toList = ("/open".toList ++ [' ']) ++ text.toList :=
    String.toList_append
  simp only [Line.ofText, htyped, Text.trimEndChars_append _ text.toList]
  split
  · -- of a blank argument nothing is left, and nothing of the space in front of it
    rename_i hblank
    have hempty : Text.trim text = "" := by
      rw [Text.trim, ← Text.trimChars_trimEndChars, hblank]
      rfl
    rw [hempty]
    rfl
  · have hrest : Text.trim (String.ofList (Text.trimEndChars text.toList)) = Text.trim text := by
      rw [Text.trim, String.toList_ofList, Text.trimChars_trimEndChars, Text.trim]
    rw [List.append_assoc, List.singleton_append, splitCommand_append hword, hrest]
    rfl

/-- **An argument is a number of the list**: it spells one from one on that a machine word holds. -/
def Numbers (arg : String) (n : Nat) : Prop :=
  1 ≤ n ∧ Spells arg.toList n ∧ Range.word64.holds n = true

theorem numbers_iff {arg : String} {n : Nat} :
    Numbers arg n ↔ 1 ≤ n ∧ whole? .word64 arg = some (n : Int) := by
  refine and_congr_right fun hn => ?_
  rw [whole?_eq_some_of_pos rfl (by omega)]

/-- **An argument that is a number stands for a place**, and any other for an identifier. -/
theorem Choice.ofText_of_numbers {arg : String} {n : Nat} (h : Numbers arg n) :
    Choice.ofText arg = .position n := by
  obtain ⟨hn, hread⟩ := numbers_iff.mp h
  have hone : (1 : Int) ≤ n := by omega
  simp only [Choice.ofText, hread, hone, if_true, Int.toNat_natCast]

theorem Choice.ofText_of_not_numbers {arg : String} (h : ∀ n, ¬ Numbers arg n) :
    Choice.ofText arg = .id arg := by
  unfold Choice.ofText
  split
  · rename_i i hread
    refine if_neg fun hi => h i.toNat (numbers_iff.mpr ⟨by omega, ?_⟩)
    rw [hread, Int.toNat_of_nonneg (by omega)]
  · rfl

/-- The number in front of an artifact in the list is one. -/
theorem numbers_numberText {n : Nat} (hn : 1 ≤ n) (hholds : Range.word64.holds n = true) :
    Numbers (Pipeline.numberText n) n := by
  refine ⟨hn, ?_, hholds⟩
  rw [Pipeline.numberText, String.toList_ofList]
  exact spells_decimal n

/-- There are no blanks in a number. -/
theorem isBlank_of_spells {cs : List Char} {i : Int} (h : Spells cs i) :
    ∀ c ∈ cs, Text.isBlank c = false := by
  cases h with
  | plain _ hdigits => exact fun c hc => Text.isBlank_of_isDigit (hdigits c hc)
  | plus _ hdigits | minus _ hdigits =>
    exact List.forall_mem_cons.mpr ⟨rfl, fun c hc => Text.isBlank_of_isDigit (hdigits c hc)⟩

theorem Numbers.trim {arg : String} {n : Nat} (h : Numbers arg n) : Text.trim arg = arg := by
  rw [Text.trim, Text.trimChars_of_not_blank (isBlank_of_spells h.2.1), String.ofList_toList]

/-! ### What is opened -/

/-- An app with an empty trace. -/
def erased (a : App) : App := { a with trace := [] }

@[simp] theorem erased_observe (a : App) (o : Observation) : erased (a.observe o) = erased a := rfl

@[simp] theorem erased_notes (a : App) (xs : List Note) : erased (a.notes xs) = erased a := by
  induction xs generalizing a with
  | nil => rfl
  | cons x xs ih => exact ih (a.note x)

/-- What a command gives back is written to the trace. -/
theorem settle_give (a : App) (who : Option Nat) (r : Result) :
    a.settle [.act (.give who r)] = a.observe (.gave who r) := by
  rw [settle_act]
  exact settle_nil _

/-- What is told of a canvas that was opened or hidden: who prints that hears of it, and nobody
else. -/
theorem settle_notice (h : IsStaffed p a) (o : Bool) :
    erased (a.settle [.publish ⟨canvasSource, .canvasStateChanged o⟩]) = erased a ∧
      spoken (a.settle [.publish ⟨canvasSource, .canvasStateChanged o⟩]) =
        spoken a ++ [canvasLine o] := by
  have hlistening : a.registry.listening .canvasStateChanged =
      [⟨7, .canvasStateChanged, .observer canvasObserver⟩] := by
    rw [h.registry]
    rfl
  have htopic : (⟨canvasSource, .canvasStateChanged o⟩ : Event).topic = .canvasStateChanged := rfl
  rw [settle_publish, htopic, hlistening, List.map_singleton, settle_deliver,
    react_observer (a := a.note _) h.observers, settle_nil, spoken_observe, spoken_note]
  exact ⟨rfl, rfl⟩

theorem crossing?_select (c : Canvas) (id : String) :
    Canvas.crossing? c (c.select id) = if c.isOpen then none else some true := by
  have hselected : (c.select id).isOpen = true := by
    obtain ⟨mode, active⟩ := c
    cases mode <;> rfl
  rw [Canvas.crossing?, hselected]

/-- An artifact is selected: a canvas that was hidden is opened. -/
theorem settle_select (h : IsStaffed p a) (id : String) :
    let c := a.changeCanvas (·.select id)
    erased (c.1.settle c.2) = erased { a with canvas := a.canvas.select id } ∧
      spoken (c.1.settle c.2) = spoken a ++ if a.canvas.isOpen then [] else [canvasLine true] := by
  intro c
  have hshows : Shows a c.1 [] := shows_changeCanvas a (·.select id)
  have hspoken : spoken c.1 = spoken a := hshows.spoken.trans (List.append_nil _)
  have herased : erased c.1 = erased { a with canvas := a.canvas.select id } := erased_notes _ _
  cases hopen : a.canvas.isOpen with
  | true =>
    have hnothing : c.2 = [] := by
      simp only [c, changeCanvas, crossing?_select, hopen, if_true]
    rw [hnothing, settle_nil]
    exact ⟨herased, hspoken.trans (List.append_nil _).symm⟩
  | false =>
    have hnotice : c.2 = [.publish ⟨canvasSource, .canvasStateChanged true⟩] := by
      simp only [c, changeCanvas, crossing?_select, hopen, Bool.false_eq_true, if_false]
    obtain ⟨heq, hlines⟩ := settle_notice (hshows.isStaffed h) true
    rw [hnotice]
    exact ⟨heq.trans herased, hlines.trans (by rw [hspoken]; rfl)⟩

/-- **A command to open an artifact that is there** selects it, and does nothing else. -/
theorem tell_openId (h : IsStaffed p a) {x : Artifact} (hfound : a.store.find? x.id = some x) :
    erased (a.tell (.openId x.id)) = erased { a with canvas := a.canvas.select x.id } ∧
      spoken (a.tell (.openId x.id)) =
        spoken a ++ if a.canvas.isOpen then [] else [canvasLine true] := by
  have hperform : a.perform (.command none (.openId x.id)) =
      ((a.changeCanvas (·.select x.id)).1, (a.changeCanvas (·.select x.id)).2 ++
        [.act (.give none (.chosen (some x.id)))]) := by
    simp only [perform, command, App.openArtifact, hfound, Option.map_some]
  rw [App.tell, settle_act, hperform, settle_append, settle_give, erased_observe, spoken_observe]
  obtain ⟨heq, hlines⟩ := settle_select h x.id
  exact ⟨heq, (List.append_nil _).trans hlines⟩

/-- **A command to open what is not there** does nothing. -/
theorem tell_openId_of_eq_none {id : String} (hnone : a.store.find? id = none) :
    erased (a.tell (.openId id)) = erased a ∧ spoken (a.tell (.openId id)) = spoken a := by
  have hperform : a.perform (.command none (.openId id)) =
      (a.note ⟨.debug, "Cannot open unknown artifact " ++ id⟩,
        [.act (.give none (.chosen none))]) := by
    simp only [perform, command, App.openArtifact, hnone, Option.map_none, List.nil_append]
  rw [App.tell, settle_act, hperform, settle_give, spoken_observe, spoken_note]
  exact ⟨rfl, List.append_nil _⟩

/-- What a report says: the app after it, and what is printed. -/
structure Report.Says (r : Report) (b : App) (lines : List String) : Prop where
  app : r.app = b
  printed : r.printed = lines

theorem says_reportOn (a : App) (more : List String) :
    (reportOn a more).Says (erased a) (spoken a ++ more) := ⟨rfl, rfl⟩

/-- What was chosen is there. -/
theorem says_openArtifact (h : IsStaffed p a) {arg : String} {x : Artifact}
    (hfound : a.store.find? x.id = some x) (hchosen : chosenId? a (.ofText arg) = some x.id) :
    (openArtifact a arg).Says (erased { a with canvas := a.canvas.select x.id })
      (spoken a ++ (if a.canvas.isOpen then [] else [canvasLine true]) ++
        shownLines x (Picture.ofArtifact a.plotter x).1) := by
  obtain ⟨heq, hlines⟩ := tell_openId h hfound
  obtain ⟨b, hb⟩ : ∃ b, b = a.tell (.openId x.id) := ⟨_, rfl⟩
  rw [← hb] at heq hlines
  -- what is shown is looked up again, under the identifier that is selected now
  have hactive : b.canvas.artifact? b.store = some x := by
    change (erased b).canvas.artifact? (erased b).store = some x
    rw [heq]
    exact hfound
  have hplotter : b.plotter = a.plotter := by
    change (erased b).plotter = a.plotter
    rw [heq]
    rfl
  have hopens : openArtifact a arg = showActive b := by
    simp only [Shell.openArtifact, hchosen, hfound, Option.isSome_some, if_true, hb]
  have hshows : showActive b = reportOn (b.notes (Picture.ofArtifact a.plotter x).2)
      (shownLines x (Picture.ofArtifact a.plotter x).1) := by
    simp only [showActive, hactive, hplotter]
  have hsays := says_reportOn (b.notes (Picture.ofArtifact a.plotter x).2)
    (shownLines x (Picture.ofArtifact a.plotter x).1)
  rw [erased_notes, heq, spoken_notes, hlines] at hsays
  rwa [hopens, hshows]

/-- What was chosen is not there. -/
theorem says_openArtifact_of_missing {arg : String}
    (hmissing : ∀ id, chosenId? a (.ofText arg) = some id → a.store.find? id = none) :
    (openArtifact a arg).Says (erased a) (spoken a ++ ["No artifact " ++ arg]) := by
  cases hchosen : chosenId? a (.ofText arg) with
  | none =>
    simp only [Shell.openArtifact, hchosen]
    exact says_reportOn a _
  | some id =>
    obtain ⟨heq, hlines⟩ := tell_openId_of_eq_none (hmissing id hchosen)
    have hsays := says_reportOn (a.tell (.openId id)) ["No artifact " ++ arg]
    rw [heq, hlines] at hsays
    simp only [Shell.openArtifact, hchosen, hmissing id hchosen, Option.isSome_none,
      Bool.false_eq_true, if_false]
    exact hsays

/-! ### One line at the prompt -/

/-- **What comes of a typed line**: the app after it, and what is printed. It is the same whatever
server and disk there are, and they are not asked. -/
def Yields (a : App) (text : String) (b : App) (lines : List String) : Prop :=
  ∃ r : Report, r.Says b lines ∧ ∀ (m : Type → Type) [Monad m] [LawfulMonad m] (ports : Ports m),
    step ports a (.ofText text) = pure r

/-- Where a line is dealt with at once nothing is left to do. -/
theorem yields_of_respond {text : String} {r : Report} {lines : List String}
    (hr : r.Says (erased b) lines) (htasks : b.tasks = [])
    (hrespond : ∀ (m : Type → Type) [Monad m] (ports : Ports m),
      respond ports a (.ofText text) = pure r) : Yields a text (erased b) lines := by
  refine ⟨r.followedBy (reportOn r.app []), ?_, fun m _ _ ports => ?_⟩
  · rw [hr.app]
    exact ⟨rfl, (List.append_nil _).trans hr.printed⟩
  · have hready : r.app.tasks = [] := (congrArg App.tasks hr.app).trans htasks
    rw [step, hrespond, pure_bind, pumpAll, pumpReady_of_tasks_eq_nil ports hready, pure_bind]

/-- **A typed line opens an artifact**: it is selected, and shown, and nothing else changes. -/
def Opens (a : App) (text : String) (x : Artifact) : Prop :=
  (a.canvas.select x.id).artifact? a.store = some x ∧
    Yields a text (erased { a with canvas := a.canvas.select x.id })
      ((if a.canvas.isOpen then [] else [canvasLine true]) ++
        shownLines x (Picture.ofArtifact a.plotter x).1)

/-- **A typed line finds no artifact**: that is printed, and nothing changes. -/
def Misses (a : App) (text : String) : Prop :=
  ∃ arg, Line.ofText text = .view arg ∧ Yields a text (erased a) ["No artifact " ++ arg]

theorem AtPrompt.opens (h : AtPrompt p a) {text : String} {x : Artifact}
    (hfound : a.store.find? x.id = some x)
    (hchosen : chosenId? a (.ofText (Text.trim text)) = some x.id) :
    Opens a ("/open " ++ text) x := by
  have hsays := says_openArtifact h.toIsStaffed hfound hchosen
  rw [h.spoken, List.nil_append] at hsays
  refine ⟨hfound, yields_of_respond hsays h.tasks fun m _ ports => ?_⟩
  rw [Line.ofText_open, respond]

theorem AtPrompt.misses (h : AtPrompt p a) {text : String}
    (hmissing : ∀ id, chosenId? a (.ofText (Text.trim text)) = some id → a.store.find? id = none) :
    Misses a ("/open " ++ text) := by
  have hsays := says_openArtifact_of_missing hmissing
  rw [h.spoken, List.nil_append] at hsays
  refine ⟨_, Line.ofText_open text, yields_of_respond hsays h.tasks fun m _ ports => ?_⟩
  rw [Line.ofText_open, respond]

/-! ### Every prompt of a session -/

/-- Whatever the world is like, what is computed has a property. -/
def Always {α : Type} (x : StateM σ α) (P : α → Prop) : Prop := ∀ s, P (x.run s).1

section

variable {α β : Type} {P : α → Prop} {Q : β → Prop}

theorem Always.pure {v : α} (h : P v) : Always (pure v : StateM σ α) P := fun _ => h

theorem Always.bind {x : StateM σ α} {f : α → StateM σ β} (hx : Always x P)
    (hf : ∀ v, P v → Always (f v) Q) : Always (x >>= f) Q :=
  fun s => hf _ (hx s) (x.run s).2

end

variable {ports : Ports (StateM σ)}

theorem always_of_follows {x : StateM σ App} (h : a.Follows x) : Always x (Stocks a) := by
  intro s
  obtain ⟨ts, hts⟩ := h s
  rw [hts]
  exact stocks_run a ts

theorem stocks_reportOn (h : Stocks a b) (more : List String) : Stocks a (reportOn b more).app :=
  h.trans (.of_eq rfl)

theorem stocks_reportSent (h : Stocks a b) (o : Option Outcome) :
    Stocks a (reportSent b o).app := by
  have hnoted : ∀ x, Stocks a (b.note x) := fun x => h.trans (stocks_notes b [x])
  unfold reportSent
  split
  · exact stocks_reportOn h _
  · exact stocks_reportOn (hnoted _) _
  · exact stocks_reportOn (hnoted _) _
  · exact stocks_reportOn h _

theorem always_operate (a : App) (o : Operation) :
    Always (operate ports a o) fun v => Stocks a v.1 := by
  have hpump := always_of_follows (follows_pumpStages ports a.nextTask stageCount
    (a.addTask (.start o)))
  have hcall : Always (a.call ports o) fun v => Stocks a v.1 :=
    hpump.bind fun b hb => .pure (Stocks.trans (.of_eq rfl) hb)
  exact hcall.bind fun v hv => .pure hv

/-- What a line does to the store. -/
theorem always_respond (a : App) (line : Line) :
    Always (respond ports a line) fun r => Stocks a r.app := by
  have htell : ∀ c more, Stocks a (reportOn (a.tell c) more).app :=
    fun c more => stocks_reportOn (stocks_tell a c) more
  cases line with
  | blank | quit | list | unknown => exact .pure (stocks_reportOn (.of_eq rfl) _)
  | message | retry =>
    exact (always_operate a _).bind fun v hv => .pure (stocks_reportSent hv v.2)
  | history => exact (always_operate a _).bind fun v hv => .pure (stocks_reportOn hv _)
  | load id =>
    cases id with
    | none => exact .pure (stocks_reportOn (.of_eq rfl) _)
    | some id => exact (always_operate a _).bind fun v hv => .pure (stocks_reportOn hv _)
  | view arg =>
    obtain ⟨more, hreport | ⟨id, xs, hreport⟩⟩ := openArtifact_eq a arg
    · rw [respond, hreport]
      exact .pure (stocks_reportOn (.of_eq rfl) _)
    · rw [respond, hreport]
      exact .pure (stocks_reportOn ((stocks_tell a _).trans (stocks_notes _ xs)) _)
  | fresh | back | canvas | cycle | close => exact .pure (htell _ _)

theorem always_step (a : App) (line : Line) :
    Always (step ports a line) fun r => Stocks a r.app := by
  refine (always_respond a line).bind fun r hr => ?_
  refine (always_of_follows (follows_pumpAll ports r.app)).bind fun b hb => .pure ?_
  exact stocks_reportOn (hr.trans hb) []

theorem always_start (s : Settings) (supply : Supply) :
    Always (start ports s supply) fun r => Stocks (appOf s supply) r.app := by
  have hready : ∀ {b : App} (more : List String), Stocks (appOf s supply) b →
      Always (b.pumpAll ports >>= fun c => pure (reportOn c more))
        fun r => Stocks (appOf s supply) r.app := by
    intro b more hb
    refine (always_of_follows (follows_pumpAll ports b)).bind fun c hc => .pure ?_
    exact stocks_reportOn (hb.trans hc) more
  refine (always_operate (appOf s supply) .restore).bind fun v hv => ?_
  obtain ⟨b, o⟩ := v
  dsimp only
  split
  · exact hready _ hv
  · exact hready _ (hv.trans (stocks_notes b [_]))
  · exact hready _ hv

/-- **The store of a prompt is what came of the deeds of the session**, whatever server and disk
there are. -/
theorem always_arrive (s : Settings) (supply : Supply) (lines : List Line) :
    Always (arrive ports s supply lines) fun r => Stocks (appOf s supply) r.app := by
  refine (always_start s supply).bind fun r hr => ?_
  -- by induction on the lines, each of which goes on from the store that it finds
  induction lines generalizing r with
  | nil => exact .pure hr
  | cons line lines ih =>
    rw [proceed, List.foldlM_cons]
    refine Always.bind (P := fun r' => Stocks (appOf s supply) r'.app) ?_ fun r' hr' => ih r' hr'
    exact (always_step r.app line).bind fun r' hr' => .pure (hr.trans hr')

/-- **A prompt with artifacts**: nothing is under way, and no two of the artifacts have the same
identifier. -/
structure Stocked (p : Profile) (a : App) : Prop extends AtPrompt p a where
  distinct : a.store.ids.Nodup

/-- **Every prompt of a session is one.** -/
theorem makes_arrive_stocked (w : World (StateM σ)) (s : Settings) (supply : Supply)
    (earlier : List String) :
    Makes (arrive w.ports.recorded s supply (earlier.map Line.ofText)) fun r _ =>
      Stocked (profileOf s) r.app := by
  have htyped : ∀ line ∈ earlier.map Line.ofText, line.IsTyped := by
    intro line hline
    obtain ⟨text, -, rfl⟩ := List.mem_map.mp hline
    exact Line.isTyped_ofText text
  intro t
  obtain ⟨made, hmade, hprompt⟩ := makes_arrive w.isPrompt_ports s supply htyped t
  exact ⟨made, hmade, hprompt, (always_arrive s supply _ t).nodup List.nodup_nil⟩

/-! ### What is listed, and what is opened -/

theorem getElem?_artifactLines {as : List Artifact} {i : Nat} {x : Artifact} (h : as[i]? = some x) :
    (artifactLines as)[i]? = some (artifactLine (i + 1) x) := by
  have hne : as.isEmpty = false := by
    cases as with
    | nil => cases h
    | cons => rfl
  rw [artifactLines, hne, if_neg Bool.false_ne_true, List.getElem?_mapIdx, h, Option.map_some]

/-- The artifact at a place is opened by the number of the place. -/
theorem Stocked.opens_place (h : Stocked p a) {i : Nat} {x : Artifact}
    (hx : a.store.items[i]? = some x) {text : String} (htext : Numbers (Text.trim text) (i + 1)) :
    Opens a ("/open " ++ text) x := by
  refine h.opens (Store.find?_of_mem h.distinct (List.mem_of_getElem? hx)) ?_
  rw [Choice.ofText_of_numbers htext]
  simp only [chosenId?, Nat.add_sub_cancel, hx, Option.map_some]

/-- Behind the last place there is nothing, whatever identifiers there are. -/
theorem AtPrompt.misses_place (h : AtPrompt p a) {text : String} {n : Nat}
    (htext : Numbers (Text.trim text) n) (hn : a.store.size < n) : Misses a ("/open " ++ text) := by
  have hnothing : a.store.items[n - 1]? = none :=
    List.getElem?_eq_none (by change a.store.size ≤ n - 1; omega)
  refine h.misses fun id hid => ?_
  rw [Choice.ofText_of_numbers htext] at hid
  simp only [chosenId?, hnothing, Option.map_none] at hid
  cases hid

theorem Stocked.opens_id (h : Stocked p a) {x : Artifact} (hx : x ∈ a.store.items) {text : String}
    (htext : Text.trim text = x.id) (hname : ∀ n, ¬ Numbers x.id n) :
    Opens a ("/open " ++ text) x := by
  refine h.opens (Store.find?_of_mem h.distinct hx) ?_
  rw [htext, Choice.ofText_of_not_numbers hname]
  rfl

theorem AtPrompt.misses_id (h : AtPrompt p a) {text : String}
    (hname : ∀ n, ¬ Numbers (Text.trim text) n) (hnone : Text.trim text ∉ a.store.ids) :
    Misses a ("/open " ++ text) := by
  refine h.misses fun id hid => ?_
  rw [Choice.ofText_of_not_numbers hname] at hid
  obtain rfl : Text.trim text = id := Option.some.inj hid
  exact Store.find?_eq_none hnone

/-- A line comes to one thing. -/
theorem Yields.unique {b' : App} {text : String} {lines lines' : List String}
    (h : Yields a text b lines) (h' : Yields a text b' lines') : b = b' ∧ lines = lines' := by
  obtain ⟨r, hr, hstep⟩ := h
  obtain ⟨r', hr', hstep'⟩ := h'
  -- in a world without anything in it
  let nobody : Ports Id :=
    ⟨fun _ => (none, []), (.ok ⟨none⟩, []), fun _ => (.ok (), [])⟩
  obtain rfl : r = r' := (hstep Id nobody).symm.trans (hstep' Id nobody)
  exact ⟨hr.app.symm.trans hr'.app, hr.printed.symm.trans hr'.printed⟩

/-- What is shown takes more than one line, and what is not found one. -/
theorem Opens.not_misses {text : String} {x : Artifact} (h : Opens a text x) : ¬ Misses a text := by
  rintro ⟨arg, -, hmiss⟩
  have hlength := congrArg List.length (h.2.unique hmiss).2
  simp only [shownLines, List.length_append, List.length_cons, List.length_nil] at hlength
  omega

/-- **What is listed can be opened, unless its identifier reads as a number behind the end of the
list.** At every prompt of a session (`makes_arrive_stocked`), with whatever artifacts:

* `/list` prints the artifacts in the order of the store, the one at place `n` with the number `n`.
* `/open` and a number `n` shows the artifact at place `n`, for every place there is.
* `/open` and an identifier that is no place shows the artifact that has it if it is no number from
  one on, and only then. There may be blanks around it in the line, but none of its own.
* A number behind the last place is never taken for an identifier: it is printed that there is no
  such artifact.
* The same is printed for what is neither a number nor an identifier. -/
theorem opens_listed (h : Stocked p a) :
    Yields a "/list" (erased a) (artifactLines a.store.items) ∧
    (∀ i x, a.store.items[i]? = some x →
      (artifactLines a.store.items)[i]? = some (artifactLine (i + 1) x) ∧
      (∀ text, Numbers (Text.trim text) (i + 1) → Opens a ("/open " ++ text) x) ∧
      (Range.word64.holds (i + 1) = true →
        Opens a ("/open " ++ Pipeline.numberText (i + 1)) x)) ∧
    (∀ x ∈ a.store.items, ∀ text, Text.trim text = x.id →
      (∀ n ≤ a.store.size, ¬ Numbers x.id n) →
        (Opens a ("/open " ++ text) x ↔ ∀ n, ¬ Numbers x.id n)) ∧
    (∀ text n, Numbers (Text.trim text) n → a.store.size < n → Misses a ("/open " ++ text)) ∧
    ∀ text, (∀ n, ¬ Numbers (Text.trim text) n) → Text.trim text ∉ a.store.ids →
      Misses a ("/open " ++ text) := by
  refine ⟨?_, fun i x hx => ⟨getElem?_artifactLines hx, fun text => h.opens_place hx, ?_⟩, ?_,
    fun text n => h.misses_place, fun text => h.misses_id⟩
  · have hsays := says_reportOn a (artifactLines a.store.items)
    rw [h.spoken, List.nil_append] at hsays
    exact yields_of_respond hsays h.tasks fun m _ ports => rfl
  · intro hholds
    have hnumbers : Numbers (Pipeline.numberText (i + 1)) (i + 1) :=
      numbers_numberText (Nat.le_add_left 1 i) hholds
    refine h.opens_place hx ?_
    rwa [hnumbers.trim]
  · intro x hx text htext hplace
    refine ⟨fun hopens n hn => ?_, h.opens_id hx htext⟩
    -- a number that is no place lies behind all of them, and there nothing is found
    have hbehind : a.store.size < n := Nat.lt_of_not_le fun hle => hplace n hle hn
    exact hopens.not_misses (h.misses_place (htext ▸ hn) hbehind)

/-- Two artifacts are listed, one without a number and one that has the number one for its
identifier. -/
theorem opens_listed_of_two :
    let named (id : String) : Artifact := ⟨id, "", "", .null, none, default⟩
    let a : App := { appOf (Settings.standard "") default with
      store := ⟨[named "b", named "1"]⟩, trace := [] }
    Stocked (profileOf (Settings.standard "")) a ∧
      Opens a ("/open " ++ " b ") (named "b") ∧ Opens a ("/open " ++ "+02") (named "1") ∧
      Misses a ("/open " ++ "3") := by
  intro named a
  have hprompt : Stocked (profileOf (Settings.standard "")) a :=
    ⟨⟨⟨⟨rfl, rfl, rfl, rfl⟩, rfl, rfl, rfl⟩, rfl⟩, by decide⟩
  obtain ⟨-, hplaces, hnames, hmisses, -⟩ := opens_listed hprompt
  have hb : ∀ n, ¬ Numbers "b" n := fun n hn => by
    cases (numbers_iff.mp hn).2
  refine ⟨hprompt, ?_, ?_, ?_⟩
  · exact (hnames (named "b") List.mem_cons_self " b " (by decide) fun n _ => hb n).mpr hb
  · exact (hplaces 1 (named "1") rfl).2.1 "+02" (numbers_iff.mpr (by decide))
  · exact hmisses "3" 3 (numbers_iff.mpr (by decide)) (by decide)

/-- **An artifact with a number for its identifier**, as a server may send it, is listed, and cannot
be opened by the identifier it is listed with. -/
theorem listed_is_missed :
    let sent : List Json.Value := [.object [("id", .number (.integer 7))]]
    let a : App := { appOf (Settings.standard "") default with
      store := (Store.empty.ingest (Artifact.ofWireAll sent default).1 default).store, trace := [] }
    Stocked (profileOf (Settings.standard "")) a ∧ ∃ x ∈ a.store.items, Text.trim x.id = x.id ∧
      (∀ n, 1 ≤ n → n ≤ a.store.size → ¬ Numbers x.id n) ∧ ¬ Opens a ("/open " ++ x.id) x := by
  intro sent a
  have hids : a.store.ids = ["7"] := by decide
  have hprompt : Stocked (profileOf (Settings.standard "")) a :=
    ⟨⟨⟨⟨rfl, rfl, rfl, rfl⟩, rfl, rfl, rfl⟩, rfl⟩, by rw [hids]; decide⟩
  obtain ⟨x, hx, hid⟩ := List.mem_map.mp (hids ▸ List.mem_singleton_self "7" : "7" ∈ a.store.ids)
  have hsize : a.store.size = 1 := by decide
  refine ⟨hprompt, x, hx, ?_, ?_, fun hopens => hopens.not_misses ?_⟩
  · rw [hid]
    decide
  · intro n _ hn hnumbers
    have hread := (numbers_iff.mp (hid ▸ hnumbers)).2
    have hseven : whole? .word64 "7" = some 7 := by decide
    rw [hseven] at hread
    have := Option.some.inj hread
    omega
  · rw [hid]
    exact hprompt.misses_place (n := 7) (numbers_iff.mpr (by decide)) (by omega)

end Shell

end Parley
