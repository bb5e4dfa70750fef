import Parley.Proofs.Bus.Nesting
import Parley.Proofs.Canvas.Notice

/-!
# Artifacts that arrive

Artifacts arrive on the bus, where the store and the canvas are handed them one after the other. The
store took its seat first, nobody sits between the two, and nobody who came later sits in front
(`Parley.App.Leads.listening`). By the law of delivery (`Parley.Delivery.Runs.handed`) everything
that the store does about what arrived is done when the canvas is handed it, whatever the listeners
before do. So the canvas is only ever revealed when there is something to see in the store
(`Parley.App.Arrives`).

The canvas makes room for what arrived, but only if it was hidden, and only as little as possible.
To be larger it takes somebody who asks for it (`Parley.App.Leads.isSmall`).
-/

namespace Parley

/-! ### What the store holds -/

namespace Store

variable {st : Store} {id : String}

theorem exists_find?_of_mem (h : id ∈ st.ids) : ∃ x, st.find? id = some x := by
  obtain ⟨x, hx, rfl⟩ := List.mem_map.mp h
  exact Option.isSome_iff_exists.mp (List.find?_isSome.mpr ⟨x, hx, beq_self_eq_true x.id⟩)

/-- **Everything in a batch is in the store after it**, under the identifier it is labelled with. -/
theorem mem_ids_ingest {batch : List Artifact} {s : Supply} {x : Artifact}
    (hx : x ∈ (label batch s).1) : x.id ∈ (st.ingest batch s).store.ids := by
  rw [ids, items_ingest, List.map_append, List.mem_append]
  by_cases hknown : x.id ∈ st.ids
  · exact .inr hknown
  · exact .inl (mem_ids_novel.mpr ⟨hknown, List.mem_map_of_mem hx⟩)

end Store

/-! ### The size of the canvas -/

/-- The canvas is hidden, or as small as it can be seen. -/
def Canvas.IsSmall (c : Canvas) : Prop := c.mode = .hidden ∨ c.mode = .collapsed

/-- Asks for a larger canvas. -/
def Command.enlarges : Command → Bool
  | .cycle | .openId _ | .openAt _ => true
  | _ => false

/-- Somebody asks for a larger canvas. -/
def Moment.enlarges (m : Moment) : Bool :=
  match m.happening with
  | .errand (.act (.command _ c)) => c.enlarges
  | _ => false

namespace App

variable {a₀ a b t u v : App} {ms : Course} {ws : Errands} {w : Work Listener Act} {e : Event}
  {id : String}

/-- **No signal makes the canvas larger than it has to be** for being seen. -/
theorem isSmall_react (a : App) (e : Event) :
    (a.react .canvas e).1.canvas = a.canvas ∨ (a.react .canvas e).1.canvas.IsSmall := by
  obtain ⟨source, signal⟩ := e
  cases signal with
  | artifactsReceived batch =>
    simp only [react]
    split
    · exact .inl rfl
    · rw [canvas_changeCanvas, Canvas.reveal]
      split
      · exact .inr (.inr rfl)
      · exact .inl rfl
  | toggleCanvas =>
    simp only [react, canvas_changeCanvas, Canvas.toggle]
    split
    · exact .inr (.inl rfl)
    · exact .inr (.inr rfl)
  | newConversation => exact .inr (.inl (congrArg Canvas.mode (canvas_changeCanvas a _)))
  | _ => exact .inl rfl

theorem isSmall_doing (ha : a.canvas.IsSmall)
    (hw : Moment.enlarges ⟨a, .errand w, b⟩ = false) : (a.doing w).1.canvas.IsSmall := by
  cases hmoves : movesCanvas w with
  | false => rwa [canvas_doing hmoves]
  | true =>
    cases w with
    | publish e => cases hmoves
    | deliver s e =>
      have hs : s.listener = .canvas := of_decide_eq_true hmoves
      rw [doing_deliver, hs]
      exact (isSmall_react a e).elim (· ▸ ha) id
    | act w =>
      cases w with
      | command who c =>
        rw [doing_command]
        cases c with
        | toggle =>
          refine (canvas_changeCanvas a Canvas.toggle).symm ▸ ?_
          unfold Canvas.toggle
          split
          · exact .inl rfl
          · exact .inr rfl
        | hide => exact .inl (congrArg Canvas.mode (canvas_changeCanvas a Canvas.hide))
        | deselect => exact .inr (congrArg Canvas.mode (canvas_changeCanvas a Canvas.deselect))
        | cycle | openId | openAt => cases hw
        | _ => cases hmoves
      | _ => cases hmoves

/-- **The canvas stays small unless somebody asks for more.** -/
theorem Leads.isSmall (ha : a₀.canvas.IsSmall) (hc : Leads (a₀, []) ms (a, ws))
    (hms : ∀ m ∈ ms, m.enlarges = false) : a.canvas.IsSmall := by
  refine hc.keeps (P := fun a => a.canvas.IsSmall) (fun b t hb => ?_)
    (fun b w hmem hb => isSmall_doing hb (hms _ hmem)) ha
  rwa [(store_enter b t).2]

/-! ### What holds of every state -/

theorem isProper_doing (ha : a.canvas.IsProper) (w : Work Listener Act) :
    (a.doing w).1.canvas.IsProper := by
  cases hmoves : movesCanvas w with
  | false => rwa [canvas_doing hmoves]
  | true =>
    refine (alters_doing (a := a) (w := w) ?_ ?_).isProper ha
    · rintro ⟨s, e, rfl, hs, -⟩
      have hcanvas : s.listener = .canvas := of_decide_eq_true hmoves
      cases hs.symm.trans hcanvas
    · cases w with
      | act w =>
        cases w with
        | command who c => cases c <;> first | rfl | cases hmoves
        | _ => rfl
      | _ => rfl

theorem Leads.isProper (ha : a₀.canvas.IsProper) (hc : Leads (a₀, []) ms (a, ws)) :
    a.canvas.IsProper := by
  refine hc.keeps (P := fun a => a.canvas.IsProper) (fun b t hb => ?_)
    (fun b w _ hb => isProper_doing hb w) ha
  rwa [(store_enter b t).2]

/-- **Nobody comes to listen** to an app once it goes on. -/
theorem Leads.sublist (hc : Leads (a₀, []) ms (a, ws)) :
    a.registry.subscriptions.Sublist a₀.registry.subscriptions := by
  refine hc.keeps (P := fun a => a.registry.subscriptions.Sublist a₀.registry.subscriptions)
    (fun b t hb => ?_) (fun b w _ hb => ?_) (.refl _)
  · have hregistry := congrArg (·.2.1) (assembly_enter b t)
    exact (congrArg Registry.subscriptions hregistry).symm ▸ hb
  · refine .trans ?_ hb
    cases w with
    | publish e => exact .refl _
    | deliver s e =>
      rw [doing_deliver]
      have hregistry := congrArg (·.1.2.1) (fittings_react b s.listener e)
      exact (congrArg Registry.subscriptions hregistry) ▸ .refl _
    | act w =>
      cases w with
      | command who c =>
        rw [doing_command]
        exact sublist_command b c
      | conclude n g adopted => cases adopted <;> exact .refl _
      | _ => exact .refl _

end App

/-- Where something comes once, what is taken from a list but that comes from before and behind. -/
theorem sublist_of_middle {α : Type} {us vs xs ys : List α} {x : α} (hxs : x ∉ xs)
    (hys : x ∉ ys) (h : (us ++ x :: vs).Sublist (xs ++ x :: ys)) :
    us.Sublist xs ∧ vs.Sublist ys := by
  obtain ⟨l₁, l₂, heq, h₁, h₂⟩ := List.sublist_append_iff.mp h
  rcases List.append_eq_append_iff.mp heq with ⟨zs, rfl, hzs⟩ | ⟨zs, rfl, rfl⟩
  · cases zs with
    | nil =>
      obtain rfl : x :: vs = l₂ := hzs
      exact ⟨by simpa using h₁, List.cons_sublist_cons.mp h₂⟩
    | cons z zs =>
      obtain ⟨rfl, -⟩ := List.cons.inj hzs
      exact absurd (h₁.subset (List.mem_append_right us List.mem_cons_self)) hxs
  · cases zs with
    | nil => exact ⟨by simpa using h₁, List.cons_sublist_cons.mp h₂⟩
    | cons z zs =>
      -- the first of them is `x` or comes from behind it, and so does what comes later
      have hlater : x ∈ ys := by
        rcases List.sublist_cons_iff.mp h₂ with h₂ | ⟨r, hr, h₂⟩
        · exact h₂.subset (List.mem_append_right (z :: zs) List.mem_cons_self)
        · obtain ⟨-, rfl⟩ := List.cons.inj hr
          exact h₂.subset (List.mem_append_right zs List.mem_cons_self)
      exact absurd hlater hys

namespace App

variable {a₀ a t u v : App} {ms : Course} {ws : Errands} {w : Work Listener Act} {e : Event}
  {id : String} {c c' : App × Errands} {ds : List (Delivery.Deed App Listener Act)}

/-- **As long as the store is on the bus, nobody is between it and the canvas**, in any state an
assembled app can come to. -/
theorem Leads.listening (ha : a₀.IsAssembled) (hc : Leads (a₀, []) ms (a, ws))
    (hstore : ∃ s ∈ a.registry.listening .artifactsReceived, s.listener = .store) :
    ∃ us s vs, a.registry.listening .artifactsReceived = us ++ s :: vs ∧ s.listener = .store ∧
      ∀ u ∈ us ++ vs.tail, u.listener ≠ .canvas := by
  obtain ⟨early, late, hobservers, hseats⟩ := ha.listening .artifactsReceived
  have hlisteners : ((a.registry.listening .artifactsReceived).map (·.listener)).Sublist
      (early ++ .store :: .canvas :: late) := by
    have hsublist := ((hc.sublist.filter (·.topic == .artifactsReceived)).map (·.listener))
    rw [← Registry.listening, ← Registry.listening, hseats] at hsublist
    exact hsublist
  have hother : ∀ l ∈ early ++ late, l ≠ .store ∧ l ≠ .canvas := by
    intro l hl
    obtain ⟨n, rfl⟩ := hobservers l hl
    exact ⟨nofun, nofun⟩
  obtain ⟨s, hs, hl⟩ := hstore
  obtain ⟨us, vs, hlist⟩ := List.append_of_mem hs
  rw [hlist, List.map_append, List.map_cons, hl] at hlisteners
  have hfront : Listener.store ∉ early := fun hmem => (hother _ (List.mem_append_left _ hmem)).1 rfl
  have hback : Listener.store ∉ Listener.canvas :: late := by
    simpa using fun hmem => (hother _ (List.mem_append_right _ hmem)).1 rfl
  obtain ⟨hearly, hbehind⟩ := sublist_of_middle hfront hback hlisteners
  refine ⟨us, s, vs, hlist, hl, fun u hu => ?_⟩
  have hlate : (vs.map (·.listener)).tail.Sublist late := by
    simpa using hbehind.tail
  rw [← List.map_tail] at hlate
  rcases List.mem_append.mp hu with hu | hu
  · exact (hother _ (List.mem_append_left _ (hearly.subset (List.mem_map_of_mem hu)))).2
  · exact (hother _ (List.mem_append_right _ (hlate.subset (List.mem_map_of_mem hu)))).2

/-! ### What is done when artifacts arrive -/

/-- What was done of an app. -/
abbrev Deeds := List (Delivery.Deed App Listener Act)

/-- The store is emptied. -/
def Clears (w : Work Listener Act) : Prop := Empties w ∨ ∃ who, w = .act (.command who .clearStore)

/-- The canvas is handed artifacts, in one state of an app, and leaves another, and all that comes of
it is done. -/
structure Arrives (batch labelled : List Artifact) (t t' : App) (rest : Deeds) : Prop where
  /-- What has no identifier is given one, -/
  labels : List.Forall₂ Store.IsLabelled batch labelled
  /-- and the store holds everything that arrived. -/
  stored : ∀ x ∈ labelled, x.id ∈ t.store.ids
  /-- The canvas is not concerned where nothing arrived, -/
  nothing : batch = [] → t' = t ∧ rest = []
  /-- and stays as it is if it is open. -/
  keeps : t.canvas.isOpen = true → t'.canvas = t.canvas ∧ rest = []
  /-- Otherwise it is opened at its smallest, with nothing selected, and announces that next. -/
  reveals : batch ≠ [] → t.canvas.isOpen = false → t'.canvas = ⟨.collapsed, none⟩ ∧
    ∃ u rest', rest = ⟨t', .publish (Canvas.notice true), u⟩ :: rest'
  /-- Whoever acts on account of that can open what arrived, unless the store was emptied since. -/
  opens : ∀ earlier y later, rest = earlier ++ y :: later → (∀ z ∈ earlier, ¬ Clears z.work) →
    ∀ x ∈ labelled, ∃ found, (y.before.openArtifact x.id).2.2 = some found ∧ found.id = x.id

/-- **Nothing is lost from the store** unless it is emptied. -/
theorem mem_ids_doing (hw : ¬ Clears w) (hid : id ∈ a.store.ids) : id ∈ (a.doing w).1.store.ids := by
  by_cases hpart : ∃ who part, w = .act (.command who (.unmount part))
  · obtain ⟨who, part, rfl⟩ := hpart
    rw [doing_command]
    exact (exhibit_unmount a part).1.symm ▸ hid
  · have hwhole : (Happening.errand w).isPartial = false := by
      cases w with
      | act w =>
        cases w with
        | command who c =>
          cases c with
          | clearStore => exact absurd (.inr ⟨who, rfl⟩) hw
          | unmount part => exact absurd ⟨who, part, rfl⟩ hpart
          | _ => rfl
        | _ => rfl
      | _ => rfl
    obtain ⟨x, hx⟩ := Store.exists_find?_of_mem hid
    have halters := alters_doing (a := a) (fun h => hw (.inl h)) hwhole
    generalize Moment.opened? ⟨a, .errand w, (a.doing w).1⟩ = o at halters
    cases halters with
    | keep hstore => exact (Store.of_find?_eq_some (hstore id x hx)).2
    | select _ hstore => exact hstore ▸ hid

theorem mem_ids_of_runs (h : delivery.Runs c ds c') (hds : ∀ z ∈ ds, ¬ Clears z.work)
    (hid : id ∈ c.1.store.ids) : id ∈ c'.1.store.ids := by
  induction h with
  | nil => exact hid
  | cons _ ih =>
    obtain ⟨hfirst, hds⟩ := List.forall_mem_cons.mp hds
    refine ih hds ?_
    rw [step_cons]
    exact mem_ids_doing hfirst hid

theorem isSome_openArtifact (hid : id ∈ a.store.ids) :
    ∃ found, (a.openArtifact id).2.2 = some found ∧ found.id = id := by
  obtain ⟨found, hfound⟩ := Store.exists_find?_of_mem hid
  refine ⟨found, ?_, (Store.of_find?_eq_some hfound).1⟩
  simp only [openArtifact, hfound]

/-- What is in the store can be opened by whoever acts after that, unless the store is emptied. -/
theorem opens_of_runs {bs : List Artifact} (hbs : ∀ x ∈ bs, x.id ∈ c.1.store.ids)
    (hruns : delivery.Runs c ds c') {earlier later : Deeds}
    {y : Delivery.Deed App Listener Act} (hds : ds = earlier ++ y :: later)
    (hearlier : ∀ z ∈ earlier, ¬ Clears z.work) :
    ∀ x ∈ bs, ∃ found, (y.before.openArtifact x.id).2.2 = some found ∧ found.id = x.id := by
  intro x hx
  obtain ⟨ws, hbefore, -, -⟩ := (hds ▸ hruns).exists_of_split
  exact isSome_openArtifact (mem_ids_of_runs hbefore hearlier (hbs x hx))

/-- The canvas is revealed for what arrives. -/
theorem canvas_arrival (hproper : t.canvas.IsProper) (source : String) (batch : List Artifact)
    (hbatch : batch ≠ []) :
    (t.react .canvas ⟨source, .artifactsReceived batch⟩).1.canvas =
      if t.canvas.isOpen then t.canvas else ⟨.collapsed, none⟩ := by
  have hnonempty : batch.isEmpty = false := List.isEmpty_eq_false_iff.mpr hbatch
  simp only [react, hnonempty, Bool.false_eq_true, if_false, canvas_changeCanvas]
  generalize t.canvas = canvas at hproper
  obtain ⟨mode, active⟩ := canvas
  cases mode with
  | hidden =>
    obtain rfl : active = none := hproper rfl
    rfl
  | _ => rfl

/-- The canvas leaves the store alone. -/
theorem store_react_canvas (a : App) (e : Event) : (a.react .canvas e).1.store = a.store := by
  obtain ⟨source, signal⟩ := e
  cases signal with
  | artifactsReceived batch =>
    simp only [react]
    split
    · rfl
    · exact (exhibit_notes _ _).1
  | toggleCanvas | newConversation => exact (exhibit_notes _ _).1
  | _ => rfl

/-- Where the store was handed artifacts before, the canvas is handed them. -/
theorem arrives_of_ingest (hu : u.canvas.IsProper) (source : String) (batch : List Artifact)
    {rest : Deeds} (ht : t = (u.ingest batch).1)
    (hruns : delivery.Runs (t.react .canvas ⟨source, .artifactsReceived batch⟩) rest (v, [])) :
    Arrives batch (Store.label batch u.supply).1 t
      (t.react .canvas ⟨source, .artifactsReceived batch⟩).1 rest := by
  have hstore : t.store = (u.store.ingest batch u.supply).store := by
    rw [ht]
    exact (exhibit_notes _ _).1
  have hproper : t.canvas.IsProper := by
    rw [ht]
    exact (exhibit_notes _ _).2.symm ▸ hu
  have hstored : ∀ x ∈ (Store.label batch u.supply).1, x.id ∈ t.store.ids := fun x hx =>
    hstore ▸ Store.mem_ids_ingest hx
  have hkept := store_react_canvas t ⟨source, .artifactsReceived batch⟩
  have hnext := announces_react t ⟨source, .artifactsReceived batch⟩
  have hnone : batch = [] → t.react .canvas ⟨source, .artifactsReceived batch⟩ = (t, []) := by
    rintro rfl
    rfl
  have hsome := canvas_arrival hproper source batch
  generalize t.react .canvas ⟨source, .artifactsReceived batch⟩ = p at *
  obtain ⟨t', next⟩ := p
  have hnext : next = if t'.canvas.isOpen = t.canvas.isOpen then []
    else [.publish (Canvas.notice t'.canvas.isOpen)] := hnext
  subst hnext
  refine ⟨Store.forall₂_label batch _, hstored, fun hbatch => ?_, fun hopen => ?_, fun hbatch hhidden => ?_,
    fun earlier y later hrest hearlier =>
      opens_of_runs (fun x hx => hkept ▸ hstored x hx) hruns hrest hearlier⟩
  · obtain ⟨rfl, hnext⟩ := Prod.mk.inj (hnone hbatch)
    rw [hnext] at hruns
    exact ⟨rfl, hruns.eq_nil.1⟩
  · have hcanvas : t'.canvas = t.canvas := by
      by_cases hbatch : batch = []
      · exact congrArg canvas (Prod.mk.inj (hnone hbatch)).1
      · exact (hsome hbatch).trans (if_pos hopen)
    rw [if_pos (congrArg Canvas.isOpen hcanvas)] at hruns
    exact ⟨hcanvas, hruns.eq_nil.1⟩
  · have hcanvas : t'.canvas = ⟨.collapsed, none⟩ :=
      (hsome hbatch).trans (if_neg (by rw [hhidden]; exact Bool.false_ne_true))
    have hopened : t'.canvas.isOpen = true := by rw [hcanvas]; rfl
    rw [if_neg (by rw [hopened, hhidden]; exact nofun), hopened] at hruns
    cases hruns with
    | cons _ => exact ⟨hcanvas, _, _, rfl⟩

/-- **The canvas is handed what the store was handed right before.** -/
theorem arrives_of_handed {source : String} {batch : List Artifact} {us vs : List (Subscription Listener)}
    {s s' : Subscription Listener} {dss : List Deeds} (ha : a.canvas.IsProper)
    (hhanded : delivery.Handed ⟨source, .artifactsReceived batch⟩ (us ++ s :: vs) a dss v)
    (hstore : s.listener = .store) (hother : ∀ u ∈ us ++ vs.tail, u.listener ≠ .canvas) {t t' : App}
    {rest : Deeds} (hmem : (⟨t, .deliver s' ⟨source, .artifactsReceived batch⟩, t'⟩ :: rest) ∈ dss)
    (hcanvas : s'.listener = .canvas) : ∃ labelled, Arrives batch labelled t t' rest := by
  obtain ⟨dss₁, dss₂, u, rfl, hfront, hback⟩ := hhanded.exists_of_append
  have hnowhere {ls : List (Subscription Listener)} {b b' : App} {dss : List Deeds}
      (hls : ∀ l ∈ ls, l ∈ us ++ vs.tail)
      (hhanded : delivery.Handed ⟨source, .artifactsReceived batch⟩ ls b dss b') :
      (⟨t, .deliver s' ⟨source, .artifactsReceived batch⟩, t'⟩ :: rest) ∉ dss := by
    intro hmem
    obtain ⟨l, hl, hwork⟩ := hhanded.exists_of_mem hmem
    cases hwork
    exact hother _ (hls _ hl) hcanvas
  have hu : u.canvas.IsProper := hfront.keeps (P := fun b => b.canvas.IsProper)
    (fun b w ws hb => by rw [step_cons]; exact isProper_doing hb w) ha
  have hreact (l : Subscription Listener) (b : App) (e : Event) :
      delivery.react l e b = b.react l.listener e := rfl
  cases hback with
  | @cons _ _ _ b _ ds dss₃ hdone hback =>
    have hingest : delivery.react s ⟨source, .artifactsReceived batch⟩ u =
        ((u.ingest batch).1, []) := by
      rw [hreact, hstore]
      rfl
    rw [hingest] at hdone
    obtain ⟨rfl, hb⟩ := hdone.eq_nil
    obtain rfl : b = (u.ingest batch).1 := congrArg Prod.fst hb
    rcases List.mem_append.mp hmem with hmem | hmem
    · exact absurd hmem (hnowhere (fun l => List.mem_append_left _) hfront)
    rcases List.mem_cons.mp hmem with heq | hmem
    · cases heq
      cases hstore.symm.trans hcanvas
    cases hback with
    | nil => cases hmem
    | @cons s'' _ _ _ _ ds dss₄ hdone hback =>
      rcases List.mem_cons.mp hmem with heq | hmem
      · cases heq
        rw [hreact, hcanvas] at hdone ⊢
        exact ⟨_, arrives_of_ingest hu source batch rfl hdone⟩
      · exact absurd hmem (hnowhere (fun l => List.mem_append_right us) hback)

/-- An empty batch changes nothing of the store. -/
theorem nothing_of_handed {source : String} {ls : List (Subscription Listener)}
    {s : Subscription Listener} {dss : List Deeds}
    (hhanded : delivery.Handed ⟨source, .artifactsReceived []⟩ ls a dss v) {t t' : App}
    {rest : Deeds} (hmem : (⟨t, .deliver s ⟨source, .artifactsReceived []⟩, t'⟩ :: rest) ∈ dss)
    (hstore : s.listener = .store) : t' = t ∧ rest = [] := by
  induction hhanded with
  | nil => cases hmem
  | cons hdone _ ih =>
    rcases List.mem_cons.mp hmem with heq | hmem
    · cases heq
      have hreact : delivery.react s ⟨source, .artifactsReceived []⟩ t = (t, []) := by
        change t.react s.listener _ = _
        rw [hstore]
        rfl
      rw [hreact] at hdone ⊢
      exact ⟨rfl, hdone.eq_nil.1⟩
    · exact ih hmem

/-- **What arrives is stored before it is shown, and takes no more of the canvas than it has to.** In
any state that an assembled app can come to, whatever else is on its bus and however things went on
there:

* Whenever artifacts are published while the store is on the bus, the canvas finds everything that
  arrived in the store, under the identifier it has, or is given if it has none; if the canvas was
  hidden it is opened at its smallest with nothing selected, and if it was open it stays as it is; and
  whoever acts on account of what it announces can open what arrived, as long as the store is not
  emptied. If nothing arrived nothing happens.
* No signal brings the canvas to a size that it does not have, other than the smallest.
* So the canvas is hidden or at its smallest as long as nobody asks for more. -/
theorem Leads.shows_arrival (ha : a₀.IsAssembled) (hc : Leads (a₀, []) ms (a, ws)) :
    (∀ (e : Event) (batch : List Artifact), e.signal = .artifactsReceived batch →
      (∃ s ∈ a.registry.listening e.topic, s.listener = .store) →
      ∃ dss, delivery.Runs (a, [.publish e])
          (⟨a, .publish e, delivery.announce e a⟩ :: dss.flatten) (a.settle [.publish e], []) ∧
        delivery.Handed e (a.registry.listening e.topic) (delivery.announce e a) dss
          (a.settle [.publish e]) ∧
        ∀ s t t' rest, (⟨t, .deliver s e, t'⟩ :: rest) ∈ dss →
          (s.listener = .store → batch = [] → t' = t ∧ rest = []) ∧
            (s.listener = .canvas → ∃ labelled, Arrives batch labelled t t' rest)) ∧
      (∀ e, (a.react .canvas e).1.canvas = a.canvas ∨ (a.react .canvas e).1.canvas.IsSmall) ∧
      ((∀ m ∈ ms, m.enlarges = false) → a.canvas.IsSmall) := by
  have hproper : a₀.canvas.IsProper := by
    rw [ha.canvas]
    exact fun _ => rfl
  have hsmall : a₀.canvas.IsSmall := by
    rw [ha.canvas]
    exact .inl rfl
  refine ⟨fun e batch he hstore => ?_, isSmall_react a, hc.isSmall hsmall⟩
  obtain ⟨source, signal⟩ := e
  obtain rfl : signal = .artifactsReceived batch := he
  have hruns := delivery.runs_deeds (a.workBound [.publish ⟨source, .artifactsReceived batch⟩])
    (a, [.publish ⟨source, .artifactsReceived batch⟩])
  rw [run_settle] at hruns
  obtain ⟨dss, rest, u, hdeeds, hhanded, hrest⟩ := hruns.handed
  obtain ⟨rfl, hu⟩ := hrest.eq_nil
  obtain rfl : _ = u := congrArg Prod.fst hu
  rw [hdeeds, List.append_nil] at hruns
  refine ⟨dss, hruns, hhanded, fun s t t' rest hmem => ⟨?_, fun hcanvas => ?_⟩⟩
  · rintro hs rfl
    exact nothing_of_handed hhanded hmem hs
  · obtain ⟨us, s', vs, hlist, hs', hother⟩ := hc.listening ha hstore
    have hlist : (delivery.registry a).listening (Event.topic ⟨source, .artifactsReceived batch⟩) =
      us ++ s' :: vs := hlist
    rw [hlist] at hhanded
    have hbefore : a.canvas.IsProper := hc.isProper hproper
    have hannounced : (delivery.announce ⟨source, .artifactsReceived batch⟩ a).canvas.IsProper :=
      hbefore
    exact arrives_of_handed hannounced hhanded hs' hother hmem hcanvas

/-- What arrived is not found under an identifier that is empty, nor by somebody who hears of it after
somebody else emptied the store, nor when the store left the bus and the canvas did not. -/
theorem misses_arrival :
    let arrival (id : String) : Event :=
      ⟨"test", .artifactsReceived [⟨id, "", "", .null, none, default⟩]⟩
    let deeds (a : App) (e : Event) : Deeds :=
      delivery.deeds (a.workBound [.publish e]) (a, [.publish e])
    let handed (ds : Deeds) (id : String) : List Bool := ds.filterMap fun x => match x.work with
      | .deliver s _ =>
        if s.listener = .canvas then some (x.before.store.find? id).isSome else none
      | _ => none
    let opened (ds : Deeds) : List Bool := ds.filterMap fun x => match x.work with
      | .act (.command _ (.openId id)) => some (x.before.openArtifact id).2.2.isSome
      | _ => none
    let a := blank.assemble [] [] ""
    let b := blank.assemble []
      [(.canvasStateChanged, [[.clearStore]]), (.canvasStateChanged, [[.openId "a"]])] ""
    a.IsAssembled ∧ b.IsAssembled ∧
      handed (deeds a (arrival "")) "" = [false] ∧
      opened (deeds b (arrival "a")) = [false] ∧
      handed (deeds (a.turn (.tell (.unmount .store))) (arrival "a")) "a" = [false] := by
  refine ⟨isAssembled_assemble isBare_blank _ _ "", isAssembled_assemble isBare_blank _ _ "", ?_⟩
  decide +kernel

/-- The canvas was opened and hidden before, somebody hears of the artifacts first, and somebody else
opens what arrived when the canvas announces itself. -/
theorem shows_arrival_of_opener :
    let a₀ := blank.assemble [(.artifactsReceived, [])] [(.canvasStateChanged, [[], [], [.openId "a"]])] ""
    let ts : List Turn := [.tell .toggle, .tell .hide]
    let batch : List Artifact := [⟨"a", "", "", .null, none, default⟩]
    let a := a₀.run ts
    (a₀.IsAssembled ∧ Leads (a₀, []) (a₀.itinerary ts).1 (a, []) ∧
        (∃ s ∈ a.registry.listening .artifactsReceived, s.listener = .store) ∧
        ∀ m ∈ (a₀.itinerary ts).1, m.enlarges = false) ∧
      (∃ t t' rest labelled, Arrives batch labelled t t' rest ∧ "a" ∈ t.store.ids) ∧
      a.canvas.IsSmall ∧
      (a.settle [.publish ⟨"test", .artifactsReceived batch⟩]).canvas = ⟨.expanded, some "a"⟩ := by
  intro a₀ ts batch a
  have ha : a₀.IsAssembled := isAssembled_assemble isBare_blank _ _ ""
  have hleads : Leads (a₀, []) (a₀.itinerary ts).1 (a, []) :=
    (paces_itinerary Quiet.nil a₀ ts).leads
  have hlistening : a.registry.listening .artifactsReceived =
      [⟨0, .artifactsReceived, .observer 0⟩, ⟨1, .artifactsReceived, .store⟩,
        ⟨3, .artifactsReceived, .canvas⟩] := by decide +kernel
  have hstore : ∃ s ∈ a.registry.listening .artifactsReceived, s.listener = .store := by
    rw [hlistening]
    exact ⟨_, List.mem_cons_of_mem _ List.mem_cons_self, rfl⟩
  have hasked : (a₀.itinerary ts).1.all (fun m => !m.enlarges) = true := by decide +kernel
  have hmoments : ∀ m ∈ (a₀.itinerary ts).1, m.enlarges = false := by simpa using hasked
  obtain ⟨harrival, -, hsmall⟩ := hleads.shows_arrival ha
  obtain ⟨dss, hruns, hhanded, hblocks⟩ :=
    harrival ⟨"test", .artifactsReceived batch⟩ batch rfl hstore
  refine ⟨⟨ha, hleads, hstore, hmoments⟩, ?_, hsmall hmoments, by decide +kernel⟩
  have hhanded := hlistening ▸ hhanded
  cases hhanded with | cons _ hhanded => ?_
  cases hhanded with | cons _ hhanded => ?_
  cases hhanded with | cons _ _ => ?_
  obtain ⟨-, hcanvas⟩ := hblocks _ _ _ _
    (List.mem_cons_of_mem _ (List.mem_cons_of_mem _ List.mem_cons_self))
  obtain ⟨labelled, h⟩ := hcanvas rfl
  obtain ⟨x, xs, hx, -, rfl⟩ := List.forall₂_cons_left_iff.mp h.labels
  rw [Store.IsLabelled, if_neg (by decide)] at hx
  have hid : x.id = "a" := congrArg Artifact.id hx
  exact ⟨_, _, _, _, h, hid ▸ h.stored x List.mem_cons_self⟩

end App

end Parley
