import Parley.Proofs.Chat.Signal

/-!
# What the user sees in the end

Somebody selects conversations and starts new ones, and nothing else happens but what that entails:
loads start, their entries come, sessions are saved, in any order. What is shown when nothing is
left to do is what the app *headed for* last (`Parley.App.shows_iff_lastHeading`). Starting anew
takes effect at once, so the app heads for nothing as soon as that is published; but it heads for
another conversation only when the load of it starts, and that may be any time after it was
selected. So the user sees what was asked for last exactly if the app headed for it last, and not if
an earlier load was late to start (`Parley.App.not_shows_of_late_load`).

The invariant is `Parley.Headed`: the load that was headed for last is under way in the present
generation or has arrived, and every other load is of an earlier generation.
-/

namespace Parley

/-- What an app heads for: nothing, or a conversation, with the task that loads it. -/
inductive Heading where
  | anew
  | load (task : Nat) (id : Int)
  deriving DecidableEq, Repr

/-- A heading is what a signal asks for. -/
def Heading.IsFor : Heading → Signal → Prop
  | .anew, .newConversation => True
  | .load _ id, .conversationSelected id' => id = id'
  | _, _ => False

/-- The signal that is published. -/
def Turn.signal? : Turn → Option Signal
  | .publish e => some e.signal
  | _ => none

/-- Somebody selects a conversation or starts a new one, or something goes on that this entails:
and everything that is loaded arrives. -/
def Turn.IsBrowsing : Turn → Prop
  | .publish ⟨_, .newConversation⟩ | .publish ⟨_, .conversationSelected _⟩ => True
  | .answer _ (.entries (.ok _)) => True
  | .advance _ | .giveSaved _ _ | .jot _ => True
  | _ => False

namespace App

/-- What a turn makes an app head for. -/
def heading? (a : App) : Turn → Option Heading
  | .publish ⟨_, .newConversation⟩ => some .anew
  | .advance n =>
    match a.stage? n with
    | some (.startLoad id _) => some (.load n id)
    | _ => none
  | _ => none

namespace History

/-- What was headed for last. -/
def lastHeading? (h : History) : Option Heading := h.findSome? fun (a, t) => a.heading? t

/-- The signal that was published last. -/
def lastSignal? (h : History) : Option Signal := h.findSome? fun (_, t) => t.signal?

/-- The entries with which a task that loads a conversation was answered. -/
def Answered (h : History) (n : Nat) (id : Int) (entries : List HistoryEntry) : Prop :=
  ∃ a call g errand, (a, Turn.answer n (.entries (.ok entries))) ∈ h ∧
    a.stage? n = some (.awaitEntries call id g errand)

end History

/-- What is shown is a conversation, with the messages of the entries that a task brought. -/
def ShowsLoad (p : Pipeline) (h : History) (n : Nat) (id : Int) : Prop :=
  p.conversation = some id ∧ ∃ entries supply, h.Answered n id entries ∧
    p.transcript = ⟨(HistoryEntry.toMessages entries supply).1⟩

/-- What is shown after a history is what a signal asks for: no conversation and no messages, or a
conversation with the messages of entries it was loaded with. -/
def Shows (a : App) (h : History) : Signal → Prop
  | .newConversation => a.pipeline.conversation = none ∧ a.pipeline.transcript = .empty
  | .conversationSelected id => ∃ n, ShowsLoad a.pipeline h n id
  | _ => False

end App

/-! ### The invariant -/

/-- The stages of the tasks that selecting and starting anew entail. -/
def Stage.IsBrowsing : Stage → Prop
  | .startLoad _ _ | .awaitEntries _ _ _ _ | .wantSave _ _ _ | .awaitSaved _ _ _ => True
  | _ => False

/-- Where a conversation is on the way to what it headed for last. -/
def Affairs.IsAt (A : Affairs) (h : App.History) : Option Heading → Prop
  | some (.load n id) =>
    (∃ call errand, A.stage? n = some (.awaitEntries call id A.pipeline.generation errand)) ∨
      App.ShowsLoad A.pipeline h n id
  | _ => A.pipeline.conversation = none ∧ A.pipeline.transcript = .empty

/-- What was headed for last is under way or has arrived, and everything else is behind. -/
structure Headed (h : App.History) (A : Affairs) : Prop where
  alive : A.pipeline.alive = true
  browsing : ∀ n s, A.stage? n = some s → s.IsBrowsing
  current : ∀ n call id g errand, A.stage? n = some (.awaitEntries call id g errand) →
    g ≤ A.pipeline.generation ∧
      (g = A.pipeline.generation → h.lastHeading? = some (.load n id))
  isAt : A.IsAt h h.lastHeading?

namespace Headed

variable {h : App.History} {a : App} {A B : Affairs} {t : Turn} {n : Nat}

theorem of_isFresh (ha : a.IsFresh) : Headed [] (a.affairs []) := by
  have hnone : ∀ n, (a.affairs []).stage? n = none := Affairs.stage?_of_tasks_eq_nil ha.tasks
  have hp : (a.affairs []).pipeline = {} := ha.pipeline
  refine ⟨by rw [hp], fun n s hs => ?_, fun n call id g errand hs => ?_, ?_⟩
  · cases (hnone n).symm.trans hs
  · cases (hnone n).symm.trans hs
  · rw [show App.History.lastHeading? [] = none from rfl]
    exact ⟨by rw [hp], by rw [hp]⟩

/-- What was answered before was answered. -/
theorem answered_cons {x : App × Turn} {n : Nat} {id : Int} {entries : List HistoryEntry}
    (he : h.Answered n id entries) : App.History.Answered (x :: h) n id entries := by
  obtain ⟨a, call, g, errand, hmem, hstage⟩ := he
  exact ⟨a, call, g, errand, List.mem_cons_of_mem _ hmem, hstage⟩

theorem lastHeading_cons (a : App) (t : Turn) (h : App.History) :
    App.History.lastHeading? ((a, t) :: h) = (a.heading? t).or h.lastHeading? := by
  cases ht : a.heading? t <;> simp [App.History.lastHeading?, ht]

/-- **A turn that heads for nothing new** leaves everything where it is if it leaves the
conversation alone, and the tasks but for such as wait for no entries or for stale ones. -/
theorem same (hA : Headed h A) (ht : a.heading? t = none) (hp : B.pipeline = A.pipeline)
    (hof : ∀ m s, B.stage? m = some s → A.stage? m = some s ∨ s.IsBrowsing ∧ s.isLoading = false)
    (hto : ∀ m call id errand,
      A.stage? m = some (.awaitEntries call id A.pipeline.generation errand) →
      B.stage? m = some (.awaitEntries call id A.pipeline.generation errand)) :
    Headed ((a, t) :: h) B := by
  have hlast : App.History.lastHeading? ((a, t) :: h) = h.lastHeading? := by
    rw [lastHeading_cons, ht, Option.none_or]
  refine ⟨hp ▸ hA.alive, fun m s hs => ?_, fun m call id g errand hs => ?_, ?_⟩
  · rcases hof m s hs with hs | hs
    · exact hA.browsing m s hs
    · exact hs.1
  · rw [hp, hlast]
    rcases hof m _ hs with hs | ⟨-, hs⟩
    · exact hA.current m call id g errand hs
    · cases hs
  · have hat := hA.isAt
    rw [hlast]
    cases hheading : h.lastHeading? with
    | none =>
      rw [hheading] at hat
      exact ⟨hp ▸ hat.1, hp ▸ hat.2⟩
    | some H =>
      cases H with
      | anew =>
        rw [hheading] at hat
        exact ⟨hp ▸ hat.1, hp ▸ hat.2⟩
      | load n id =>
        rw [hheading] at hat
        rcases hat with ⟨call, errand, hs⟩ | ⟨hconversation, entries, supply, he, htranscript⟩
        · exact .inl ⟨call, errand, hp ▸ hto n call id errand hs⟩
        · exact .inr ⟨hp ▸ hconversation, entries, supply, answered_cons he, hp ▸ htranscript⟩

/-- A turn that nobody is there for. -/
theorem still (hA : Headed h A) (ht : a.heading? t = none) : Headed ((a, t) :: h) A :=
  hA.same ht rfl (fun _ _ hm => .inl hm) fun _ _ _ _ hm => hm

/-- A task that waits for no entries comes to another such stage. -/
theorem put {s s₀ : Stage} (hA : Headed h A) (ht : a.heading? t = none)
    (hn : A.stage? n = some s₀) (hs₀ : s₀.isLoading = false) (hs : s.IsBrowsing)
    (hs' : s.isLoading = false) (hp : B.pipeline = A.pipeline)
    (htasks : B.tasks = (A.put n s).tasks) :
    Headed ((a, t) :: h) B := by
  have hstage : ∀ m, B.stage? m = (A.put n s).stage? m := by
    intro m
    rw [Affairs.stage?, Affairs.stage?, htasks]
  refine hA.same ht hp (fun m s' hm => ?_) (fun m call id errand hm => ?_)
  · rw [hstage] at hm
    rcases Affairs.stage?_of_put hm with ⟨-, rfl⟩ | ⟨-, hm⟩
    · exact .inr ⟨hs, hs'⟩
    · exact .inl hm
  · rw [hstage, Affairs.stage?_put_of_ne, hm]
    rintro rfl
    obtain rfl := Option.some.inj (hn.symm.trans hm)
    cases hs₀

/-- A task that waits for no entries, or for stale ones, ends. -/
theorem drop {o : Outcome} (hA : Headed h A) (ht : a.heading? t = none)
    (hn : ∀ call id errand,
      A.stage? n ≠ some (.awaitEntries call id A.pipeline.generation errand))
    (hp : B.pipeline = A.pipeline) (htasks : B.tasks = (A.drop n o).tasks) :
    Headed ((a, t) :: h) B := by
  have hstage : ∀ m, B.stage? m = (A.drop n o).stage? m := by
    intro m
    rw [Affairs.stage?, Affairs.stage?, htasks]
  refine hA.same ht hp (fun m s' hm => ?_) (fun m call id errand hm => ?_)
  · rw [hstage] at hm
    exact .inl (Affairs.stage?_of_drop hm).2
  · rw [hstage, Affairs.stage?_drop_of_ne, hm]
    rintro rfl
    exact hn _ _ _ hm

/-- Everything starts anew. -/
theorem anew (hA : Headed h A) (ht : a.heading? t = some .anew) (s : Stage) (hs : s.IsBrowsing)
    (hs' : s.isLoading = false) :
    Headed ((a, t) :: h) ({ A with pipeline := A.pipeline.reset }.spawn s) := by
  have hlast : App.History.lastHeading? ((a, t) :: h) = some .anew := by
    rw [lastHeading_cons, ht, Option.some_or]
  refine ⟨?_, fun m s' hm => ?_, fun m call id g errand hm => ?_, ?_⟩
  · rw [Affairs.pipeline_spawn]
    exact hA.alive
  · rcases Affairs.stage?_of_spawn hm with hm | rfl
    · exact hA.browsing m s' hm
    · exact hs
  · rw [Affairs.pipeline_spawn]
    rcases Affairs.stage?_of_spawn hm with hm | rfl
    · have hle := (hA.current m call id g errand hm).1
      exact ⟨Nat.le_succ_of_le hle, fun hg => absurd hle (by rw [hg]; exact Nat.not_succ_le_self _)⟩
    · cases hs'
  · rw [hlast]
    constructor <;> rw [Affairs.pipeline_spawn] <;> rfl

/-- A load starts. -/
theorem load {s₀ : Stage} {id : Int} (hA : Headed h A) (ht : a.heading? t = some (.load n id))
    (hn : A.stage? n = some s₀) (call : Nat) (errand : Errand) :
    Headed ((a, t) :: h) ({ A with pipeline := A.pipeline.startLoad }.put n
      (.awaitEntries call id (A.pipeline.generation + 1) errand)) := by
  have hlast : App.History.lastHeading? ((a, t) :: h) = some (.load n id) := by
    rw [lastHeading_cons, ht, Option.some_or]
  refine ⟨hA.alive, fun m s hm => ?_, fun m call' id' g errand' hm => ?_, ?_⟩
  · rcases Affairs.stage?_of_put hm with ⟨-, rfl⟩ | ⟨-, hm⟩
    · trivial
    · exact hA.browsing m s hm
  · rcases Affairs.stage?_of_put hm with ⟨rfl, hs⟩ | ⟨-, hm⟩
    · cases hs
      exact ⟨Nat.le_refl _, fun _ => hlast⟩
    · have hle := (hA.current m call' id' g errand' hm).1
      exact ⟨Nat.le_succ_of_le hle, fun hg => absurd hle (by rw [hg]; exact Nat.not_succ_le_self _)⟩
  · rw [hlast]
    exact .inl ⟨call, errand, Affairs.stage?_put_self (Option.isSome_of_mem hn)⟩

/-- The entries of a conversation arrive: if they are not stale, they are those of what was headed
for last. -/
theorem answer {call g : Nat} {id : Int} {errand : Errand} {entries : List HistoryEntry}
    (hA : Headed h A) (hn : A.stage? n = some (.awaitEntries call id g errand))
    (ha : a.stage? n = some (.awaitEntries call id g errand))
    (hchanges : Change (some (.answer n (.entries (.ok entries)))) A B) :
    Headed ((a, .answer n (.entries (.ok entries))) :: h) B := by
  have hlast : ∀ t', t' = Turn.answer n (.entries (.ok entries)) →
      App.History.lastHeading? ((a, t') :: h) = h.lastHeading? := by
    rintro t' rfl
    rw [lastHeading_cons]
    rfl
  cases hchanges with
  | quiet => exact hA.still rfl
  | load _ ht => rcases ht with ht | ⟨_, ht⟩ <;> cases ht
  | @leave _ m _ s _ hstage hs =>
    have hbrowsing := hA.browsing m s hstage
    rcases hs with rfl | ⟨_, rfl⟩ | ⟨_, rfl⟩ <;> cases hbrowsing
  | staleEntries _ hstage hstale =>
    refine hA.drop rfl (fun call' id' errand' hm => ?_) rfl rfl
    cases Option.some.inj (hm.symm.trans hstage)
    rw [Pipeline.isStale_eq_false.mpr ⟨hA.alive, rfl⟩] at hstale
    cases hstale
  | @loaded _ _ call' g' id' errand' _ supply hstage hstale =>
    -- the entries are of the present generation, so they are those of what was headed for last
    cases Option.some.inj (hn.symm.trans hstage)
    obtain ⟨-, hg⟩ := Pipeline.isStale_eq_false.mp hstale
    have hheading := (hA.current n call id g errand hn).2 hg.symm
    refine ⟨hA.alive, fun m s hm => ?_, fun m call' id' g' errand' hm => ?_, ?_⟩
    · rcases Affairs.stage?_of_put hm with ⟨-, rfl⟩ | ⟨-, hm⟩
      · trivial
      · exact hA.browsing m s hm
    · rw [hlast _ rfl]
      rcases Affairs.stage?_of_put hm with ⟨-, hs⟩ | ⟨-, hm⟩
      · cases hs
      · exact hA.current m call' id' g' errand' hm
    · rw [hlast _ rfl, hheading]
      exact .inr ⟨rfl, entries, supply, ⟨a, call, g, errand, List.mem_cons_self, ha⟩, rfl⟩

/-- A task goes on. -/
theorem advance (ha : Headed h (a.affairs [])) (n : Nat) :
    Headed ((a, .advance n) :: h) ((a.advance n).affairs []) := by
  have hunchanged : a.heading? (.advance n) = none → a.advance n = a →
      Headed ((a, .advance n) :: h) ((a.advance n).affairs []) := by
    intro hheading hsame
    rw [hsame]
    exact ha.still hheading
  cases hn : a.stage? n with
  | none => exact hunchanged (by rw [App.heading?, hn]) (by rw [App.advance, hn])
  | some s =>
    have hbrowsing := ha.browsing n s hn
    cases s with
    | startLoad id errand =>
      have hstart : a.advance n = a.startLoad n id errand := by rw [App.advance, hn]
      rw [hstart]
      exact ha.load (by rw [App.heading?, hn]) hn a.calls errand
    | awaitEntries call id g errand =>
      exact hunchanged (by rw [App.heading?, hn]) (by rw [App.advance, hn])
    | awaitSaved g s o => exact hunchanged (by rw [App.heading?, hn]) (by rw [App.advance, hn])
    | wantSave g s o =>
      have hheading : a.heading? (.advance n) = none := by rw [App.heading?, hn]
      have hadvance : a.advance n = a.startSave n g s o := by rw [App.advance, hn]
      rw [hadvance]
      unfold App.startSave
      split
      · exact ha.still hheading
      · split
        · refine ha.drop (o := o) hheading (fun _ _ _ hm => ?_) rfl rfl
          cases hn.symm.trans hm
        · exact ha.put (s := .awaitSaved g s o) hheading hn rfl trivial rfl rfl rfl
    | _ => cases hbrowsing

/-- A session is saved. -/
theorem giveSaved (ha : Headed h (a.affairs [])) (n : Nat) (r : Except Failure Unit) :
    Headed ((a, .giveSaved n r) :: h) ((a.giveSaved n r).affairs []) := by
  unfold App.giveSaved
  split
  · rename_i g s o hn
    have hother : ∀ call id errand, (a.affairs []).stage? n ≠
        some (.awaitEntries call id (a.affairs []).pipeline.generation errand) := by
      intro _ _ _ hm
      cases hn.symm.trans hm
    cases r with
    | ok u => exact ha.drop (o := o) rfl hother rfl rfl
    | error f => exact ha.drop (o := o) rfl hother rfl rfl
  · exact ha.still rfl

/-- Entries come, and nothing is left to do about them. -/
theorem takeAnswer (ha : Headed h (a.affairs [])) (n : Nat) (entries : List HistoryEntry) :
    (a.takeAnswer n (.entries (.ok entries))).2 = [] ∧
      Headed ((a, .answer n (.entries (.ok entries))) :: h)
        ((a.takeAnswer n (.entries (.ok entries))).1.affairs []) := by
  -- whoever does not wait for entries leaves them alone
  have hnobody : a.takeAnswer n (.entries (.ok entries)) = (a, []) →
      (a.takeAnswer n (.entries (.ok entries))).2 = [] ∧
        Headed ((a, .answer n (.entries (.ok entries))) :: h)
          ((a.takeAnswer n (.entries (.ok entries))).1.affairs []) := by
    intro hsame
    rw [hsame]
    exact ⟨rfl, ha.still rfl⟩
  cases hn : a.stage? n with
  | none => exact hnobody (by simp only [App.takeAnswer, hn])
  | some s =>
    have hbrowsing := ha.browsing n s hn
    cases s with
    | awaitEntries call id g errand =>
      have htake : a.takeAnswer n (.entries (.ok entries)) =
          (a.takeEntries n id g errand (.ok entries), []) := by
        simp only [App.takeAnswer, hn]
      rw [htake]
      exact ⟨rfl, ha.answer hn hn (a.change_takeEntries [] _ hn)⟩
    | startLoad | wantSave | awaitSaved => exact hnobody (by simp only [App.takeAnswer, hn])
    | _ => cases hbrowsing

end Headed

/-! ### What is shown in the end -/

namespace App

variable {a a₀ : App} {h : History} {ts : List Turn} {t : Turn} {e : Signal}

/-- Who listens is known from the registry. -/
theorem IsMounted.congr {b : App} (ha : a.IsMounted) (hb : b.registry = a.registry) :
    b.IsMounted := by
  obtain ⟨hnew, hselected⟩ := ha
  constructor
  · rwa [pipelineCount, hb]
  · rwa [pipelineCount, hb]

/-- A turn that leaves nothing to do. -/
theorem bus_turn (ht : (a.enter t).2 = []) : a.turn t = (a.enter t).1 ∧
    (a.turn t).observers = a.observers ∧ (a.turn t).registry = a.registry := by
  have hturn : a.turn t = (a.enter t).1 := turn_of_enter (Prod.ext rfl ht)
  rw [hturn]
  exact ⟨rfl, bus_enter a t⟩

/-- One turn of somebody who browses. -/
theorem turn_of_isBrowsing (hsilent : a.Silent) (hmounted : a.IsMounted)
    (hh : Headed h (a.affairs [])) (ht : t.IsBrowsing) :
    (a.turn t).Silent ∧ (a.turn t).IsMounted ∧ Headed ((a, t) :: h) ((a.turn t).affairs []) := by
  have hquiet : (a.enter t).2 = [] → Headed ((a, t) :: h) ((a.enter t).1.affairs []) →
      (a.turn t).Silent ∧ (a.turn t).IsMounted ∧ Headed ((a, t) :: h) ((a.turn t).affairs []) := by
    intro hnothing hnext
    obtain ⟨hturn, hobservers, hregistry⟩ := bus_turn hnothing
    refine ⟨?_, hmounted.congr hregistry, hturn ▸ hnext⟩
    rw [Silent, hobservers]
    exact hsilent
  cases t with
  | publish e =>
    obtain ⟨source, signal⟩ := e
    cases signal with
    | newConversation =>
      obtain ⟨hsilent', hregistry, haffairs⟩ :=
        turn_publish hsilent (e := ⟨source, .newConversation⟩) hmounted.newConversation
      refine ⟨hsilent', hmounted.congr hregistry, ?_⟩
      rw [haffairs]
      exact hh.anew rfl _ trivial rfl
    | conversationSelected id =>
      obtain ⟨hsilent', hregistry, haffairs⟩ :=
        turn_publish hsilent (e := ⟨source, .conversationSelected id⟩)
          hmounted.conversationSelected
      refine ⟨hsilent', hmounted.congr hregistry, ?_⟩
      rw [haffairs]
      refine hh.same rfl (Affairs.pipeline_spawn _ _) (fun m s hm => ?_) fun m _ _ _ hm =>
        Affairs.stage?_spawn_of_some hm
      rcases Affairs.stage?_of_spawn hm with hm | rfl
      · exact .inl hm
      · exact .inr ⟨trivial, rfl⟩
    | _ => cases ht
  | advance n => exact hquiet rfl (hh.advance n)
  | giveSaved n r => exact hquiet rfl (hh.giveSaved n r)
  | jot n => exact hquiet rfl (hh.still rfl)
  | answer n r =>
    cases r with
    | entries r =>
      cases r with
      | ok entries =>
        obtain ⟨hnothing, hnext⟩ := hh.takeAnswer n entries
        exact hquiet hnothing hnext
      | error f => cases ht
    | _ => cases ht
  | _ => cases ht

/-- While somebody browses, the app is at what it headed for last or on the way to it. -/
theorem headed_run (hfresh : a₀.IsFresh) (hsilent : a₀.Silent) (hmounted : a₀.IsMounted)
    (hts : ∀ t ∈ ts, t.IsBrowsing) :
    (a₀.run ts).Silent ∧ (a₀.run ts).IsMounted ∧
      Headed (a₀.history ts) ((a₀.run ts).affairs []) := by
  induction ts using List.reverseRecOn with
  | nil => exact ⟨hsilent, hmounted, .of_isFresh hfresh⟩
  | append_singleton ts t ih =>
    obtain ⟨hsilent', hmounted', hh⟩ := ih fun u hu => hts u (List.mem_append_left _ hu)
    rw [run_concat, history_concat]
    exact turn_of_isBrowsing hsilent' hmounted' hh (hts t (by simp))

/-- Whoever starts anew heads for that at once. -/
theorem History.lastHeading?_ne_none (h : History) (hlast : h.lastSignal? = some .newConversation) :
    h.lastHeading? ≠ none := by
  obtain ⟨⟨a, t⟩, hmem, ht⟩ := List.exists_of_findSome?_eq_some hlast
  have hheading : a.heading? t = some .anew := by
    cases t with
    | publish e =>
      obtain ⟨source, signal⟩ := e
      obtain rfl : signal = .newConversation := Option.some.inj ht
      rfl
    | _ => cases ht
  intro hnone
  have hmissing := List.findSome?_eq_none_iff.mp hnone (a, t) hmem
  cases hheading.symm.trans hmissing

/-- **What is shown in the end.** On a bus on which nobody commands anything, somebody selects
conversations and starts new ones in any order, loads start and everything that is loaded arrives,
in any order, until no task is left. Then what is shown is what was asked for last if and only if
the app headed for it last; and what the app headed for last is what is shown, if that is a load
with the messages that this load brought. -/
theorem shows_iff_lastHeading (hfresh : a₀.IsFresh) (hsilent : a₀.Silent)
    (hmounted : a₀.IsMounted) (hts : ∀ t ∈ ts, t.IsBrowsing) (hrest : (a₀.run ts).tasks = [])
    (hlast : (a₀.history ts).lastSignal? = some e) :
    ((a₀.run ts).Shows (a₀.history ts) e ↔
        ∃ H, (a₀.history ts).lastHeading? = some H ∧ H.IsFor e) ∧
      ∀ n id, (a₀.history ts).lastHeading? = some (.load n id) →
        ShowsLoad (a₀.run ts).pipeline (a₀.history ts) n id := by
  obtain ⟨-, -, hh⟩ := headed_run hfresh hsilent hmounted hts
  have hat := hh.isAt
  have hnone : ∀ n, ((a₀.run ts).affairs []).stage? n = none :=
    Affairs.stage?_of_tasks_eq_nil hrest
  cases hheading : (a₀.history ts).lastHeading? with
  | none =>
    rw [hheading] at hat
    refine ⟨⟨fun hshows => ?_, ?_⟩, nofun⟩
    · cases e with
      | newConversation => exact absurd hheading (History.lastHeading?_ne_none _ hlast)
      | conversationSelected id =>
        obtain ⟨n, hnumber, -⟩ := hshows
        cases hat.1.symm.trans hnumber
      | _ => cases hshows
    · rintro ⟨H, hH, -⟩
      cases hH
  | some H =>
    rw [hheading] at hat
    suffices h : ((a₀.run ts).Shows (a₀.history ts) e ↔ H.IsFor e) ∧
        ∀ n id, H = .load n id → ShowsLoad (a₀.run ts).pipeline (a₀.history ts) n id by
      simpa using h
    cases H with
    | anew =>
      refine ⟨⟨fun hshows => ?_, fun hfor => ?_⟩, nofun⟩
      · cases e with
        | newConversation => trivial
        | conversationSelected id =>
          obtain ⟨n, hnumber, -⟩ := hshows
          cases hat.1.symm.trans hnumber
        | _ => cases hshows
      · cases e with
        | newConversation => exact hat
        | _ => cases hfor
    | load n id =>
      -- no task is left, so what was headed for has arrived
      obtain ⟨_, _, hn⟩ | hat := hat
      · cases (hnone n).symm.trans hn
      · refine ⟨⟨fun hshows => ?_, fun hfor => ?_⟩, fun m id' hload => ?_⟩
        · cases e with
          | newConversation => cases hat.1.symm.trans hshows.1
          | conversationSelected id' =>
            obtain ⟨m, hnumber, -⟩ := hshows
            exact Option.some.inj (hat.1.symm.trans hnumber)
          | _ => cases hshows
        · cases e with
          | conversationSelected id' =>
            obtain rfl : id = id' := hfor
            exact ⟨n, hat⟩
          | _ => cases hfor
        · cases hload
          exact hat

/-- A conversation that is selected and loaded is shown. -/
theorem shows_of_prompt_load :
    let ts := [.publish ⟨"", .conversationSelected 1⟩, .advance 0, .answer 0 (.entries (.ok [])),
      .advance 0, .giveSaved 0 (.ok ())]
    ((blank.mount "").run ts).Shows ((blank.mount "").history ts) (.conversationSelected 1) := by
  intro ts
  have hbrowsing : ∀ t ∈ ts, t.IsBrowsing := by simp [ts, Turn.IsBrowsing]
  exact (shows_iff_lastHeading (isFresh_blank.mount "") nofun (isMounted_mount "" nofun)
    hbrowsing rfl rfl).1.mpr ⟨.load 0 1, rfl, rfl⟩

/-- A conversation is selected, then a new one is started, and the load is late to start: the
conversation that nobody asks for any longer is shown. -/
theorem not_shows_of_late_load :
    let ts := [.publish ⟨"", .conversationSelected 1⟩, .publish ⟨"", .newConversation⟩, .advance 0,
      .advance 1, .giveSaved 1 (.ok ()), .answer 0 (.entries (.ok [])), .advance 0,
      .giveSaved 0 (.ok ())]
    (∀ t ∈ ts, t.IsBrowsing) ∧ ((blank.mount "").run ts).tasks = [] ∧
      ((blank.mount "").history ts).lastSignal? = some .newConversation ∧
      ((blank.mount "").run ts).pipeline.conversation = some 1 ∧
      ¬ ((blank.mount "").run ts).Shows ((blank.mount "").history ts) .newConversation := by
  intro ts
  have hconversation : ((blank.mount "").run ts).pipeline.conversation = some 1 := rfl
  have hbrowsing : ∀ t ∈ ts, t.IsBrowsing := by simp [ts, Turn.IsBrowsing]
  refine ⟨hbrowsing, rfl, rfl, hconversation, fun hshows => ?_⟩
  cases hconversation.symm.trans hshows.1

end App

end Parley
