import Parley.Proofs.App.Assembly

/-!
# Who sits next to whom on the bus

The parts of an app take their seats on the bus one after the other, the store first and the canvas
next, on a bus on which others may listen already and more may listen later
(`Parley.App.IsAssembled`, `Parley.App.isAssembled_assemble`). So wherever the store listens, the
canvas is the next to listen (`Parley.App.Seated`): whatever the store is handed the canvas is
handed after it, with nobody in between. That stays so as long as the parts leave the bus together
(`Parley.App.Seated.doing`).
-/

namespace Parley

/-- The listener of a part. -/
def Part.listener : Part → Listener
  | .pipeline => .pipeline
  | .canvas => .canvas
  | .store => .store

theorem Part.listener_injective {p q : Part} (h : p.listener = q.listener) : p = q := by
  cases p <;> cases q <;> first | rfl | cases h

/-- Wherever the store listens the canvas is the next to listen. -/
def Followed : List Listener → Prop
  | [] => True
  | l :: ls => (l = .store → ls.head? = some .canvas) ∧ Followed ls

/-- Where the store does not listen there is nobody to be followed. -/
theorem Followed.of_forall_ne {ls : List Listener} (h : ∀ l ∈ ls, l ≠ .store) : Followed ls := by
  induction ls with
  | nil => trivial
  | cons l ls ih =>
    obtain ⟨hl, hls⟩ := List.forall_mem_cons.mp h
    exact ⟨fun hstore => absurd hstore hl, ih hls⟩

/-- Others may listen before. -/
theorem Followed.append_of_forall_ne {ls ls' : List Listener} (h : ∀ l ∈ ls, l ≠ .store)
    (h' : Followed ls') : Followed (ls ++ ls') := by
  induction ls with
  | nil => exact h'
  | cons l ls ih =>
    obtain ⟨hl, hls⟩ := List.forall_mem_cons.mp h
    exact ⟨fun hstore => absurd hstore hl, ih hls⟩

namespace App

variable {a b : App}

/-! ### Assembled apps -/

/-- A bus on which some listen already is given the parts of an app, and others come to listen. -/
def assemble (a : App) (early late : List (Topic × List (List Command))) (address : String) :
    App :=
  late.foldl (fun b o => b.addObserver o.1 o.2)
    ((early.foldl (fun b o => b.addObserver o.1 o.2) a).mount address)

/-- An app in which nothing has happened, whose parts have taken their seats on the bus. -/
structure IsAssembled (a : App) : Prop where
  fresh : a.IsFresh
  store : a.store = .empty
  canvas : a.canvas = .initial
  /-- Before the parts and after them there are observers only. -/
  seated : ∃ early late : List (Listener × Topic), (∀ s ∈ early ++ late, ∃ n, s.1 = .observer n) ∧
    a.registry.subscriptions.map (fun s => (s.listener, s.topic)) =
      early ++ (seats.map (·.2) ++ late)
  enrolled : ∀ s ∈ a.registry.subscriptions, ∀ part : Part, s.listener = part.listener →
    (part, s.id) ∈ a.memberships

/-- An app with nobody on its bus. -/
structure IsBare (a : App) : Prop where
  fresh : a.IsFresh
  store : a.store = .empty
  canvas : a.canvas = .initial
  registry : a.registry.subscriptions = []

theorem isBare_blank : blank.IsBare := ⟨isFresh_blank, rfl, rfl, rfl⟩

/-- Parts that take their seats, one after the other. -/
structure Seating (a b : App) (seats : List (Listener × Topic)) : Prop where
  fresh : a.IsFresh → b.IsFresh
  store : b.store = a.store
  canvas : b.canvas = a.canvas
  seated : b.registry.subscriptions.map (fun s => (s.listener, s.topic)) =
    a.registry.subscriptions.map (fun s => (s.listener, s.topic)) ++ seats
  enrolled : (∀ s ∈ a.registry.subscriptions, ∀ part : Part, s.listener = part.listener →
      (part, s.id) ∈ a.memberships) →
    ∀ s ∈ b.registry.subscriptions, ∀ part : Part, s.listener = part.listener →
      (part, s.id) ∈ b.memberships

namespace Seating

variable {c : App} {ss ss' : List (Listener × Topic)}

theorem refl (a : App) : Seating a a [] :=
  ⟨id, rfl, rfl, (List.append_nil _).symm, id⟩

theorem trans (h : Seating a b ss) (h' : Seating b c ss') : Seating a c (ss ++ ss') :=
  ⟨h'.fresh ∘ h.fresh, h'.store.trans h.store, h'.canvas.trans h.canvas,
    by rw [h'.seated, h.seated, List.append_assoc], h'.enrolled ∘ h.enrolled⟩

theorem note (h : Seating a b ss) (n : Note) : Seating a (b.note n) ss :=
  ⟨fun ha => (h.fresh ha).note n, h.store, h.canvas, h.seated, h.enrolled⟩

/-- A part takes a seat. -/
theorem enlist (a : App) (part : Part) (topic : Topic) :
    Seating a (a.enlist part part.listener topic) [(part.listener, topic)] where
  fresh ha := ha.enlist part part.listener topic
  store := rfl
  canvas := rfl
  seated := List.map_append
  enrolled ha := by
    intro s hs part' hpart
    rcases List.mem_append.mp
      (hs : s ∈ a.registry.subscriptions ++ [⟨a.registry.next, topic, part.listener⟩]) with hs | hs
    · exact List.mem_append_left _ (ha s hs part' hpart)
    · obtain rfl := List.mem_singleton.mp hs
      obtain rfl := Part.listener_injective hpart
      exact List.mem_append_right _ List.mem_cons_self

theorem enlistAll (a : App) (seats : List (Part × Listener × Topic))
    (hseats : ∀ seat ∈ seats, seat.2.1 = seat.1.listener) :
    Seating a (seats.foldl (fun b seat => b.enlist seat.1 seat.2.1 seat.2.2) a)
      (seats.map (·.2)) := by
  induction seats generalizing a with
  | nil => exact refl a
  | cons seat seats ih =>
    obtain ⟨part, listener, topic⟩ := seat
    obtain ⟨hseat, hrest⟩ := List.forall_mem_cons.mp hseats
    obtain rfl : listener = part.listener := hseat
    exact (enlist a part topic).trans (ih _ hrest)

theorem mount (a : App) (address : String) : Seating a (a.mount address) (seats.map (·.2)) :=
  (enlistAll a seats (by decide)).note _

/-- An observer comes to listen. -/
theorem addObserver (a : App) (topic : Topic) (scripts : List (List Command)) :
    Seating a (a.addObserver topic scripts) [(.observer a.observers.length, topic)] where
  fresh ha := ⟨ha.pipeline, ha.tasks, ha.saving, ha.savedGeneration, ha.saves⟩
  store := rfl
  canvas := rfl
  seated := List.map_append
  enrolled ha := by
    intro s hs part hpart
    rcases List.mem_append.mp (hs : s ∈ a.registry.subscriptions ++
      [⟨a.registry.next, topic, .observer a.observers.length⟩]) with hs | hs
    · exact ha s hs part hpart
    · obtain rfl := List.mem_singleton.mp hs
      cases part <;> cases hpart

theorem addObservers (a : App) (os : List (Topic × List (List Command))) : ∃ ss,
    (∀ s ∈ ss, ∃ n, s.1 = .observer n) ∧
      Seating a (os.foldl (fun b o => b.addObserver o.1 o.2) a) ss := by
  induction os generalizing a with
  | nil => exact ⟨[], List.forall_mem_nil _, refl a⟩
  | cons o os ih =>
    obtain ⟨ss, hss, h⟩ := ih (a.addObserver o.1 o.2)
    exact ⟨_ :: ss, List.forall_mem_cons.mpr ⟨⟨_, rfl⟩, hss⟩, (addObserver a o.1 o.2).trans h⟩

end Seating

/-- **An app is assembled on a bus on which others listen**, before and after. -/
theorem isAssembled_assemble (ha : a.IsBare)
    (early late : List (Topic × List (List Command))) (address : String) :
    (a.assemble early late address).IsAssembled := by
  obtain ⟨ss, hss, hearly⟩ := Seating.addObservers a early
  obtain ⟨ss', hss', hlate⟩ := Seating.addObservers
    ((early.foldl (fun b o => b.addObserver o.1 o.2) a).mount address) late
  have h := (hearly.trans (Seating.mount _ address)).trans hlate
  refine ⟨h.fresh ha.fresh, h.store.trans ha.store, h.canvas.trans ha.canvas, ⟨ss, ss', ?_, ?_⟩,
    h.enrolled ?_⟩
  · intro s hs
    exact (List.mem_append.mp hs).elim (hss s) (hss' s)
  · rw [assemble, h.seated, ha.registry, List.append_assoc]
    rfl
  · rw [ha.registry]
    exact nofun

/-! ### The seats of the store and the canvas -/

/-- Wherever the store listens the canvas is next, and the parts are on the bus under the numbers
they were enlisted with. -/
structure Seated (a : App) : Prop where
  followed : ∀ topic, Followed ((a.registry.listening topic).map (·.listener))
  enrolled : ∀ s ∈ a.registry.subscriptions, ∀ part : Part, s.listener = part.listener →
    (part, s.id) ∈ a.memberships

theorem IsAssembled.listening (ha : a.IsAssembled) (topic : Topic) : ∃ early late : List Listener,
    (∀ l ∈ early ++ late, ∃ n, l = .observer n) ∧
      (a.registry.listening topic).map (·.listener) =
        early ++ (((seats.map (·.2)).filter (·.2 == topic)).map (·.1) ++ late) := by
  obtain ⟨early, late, hobservers, hseated⟩ := ha.seated
  refine ⟨(early.filter (·.2 == topic)).map (·.1), (late.filter (·.2 == topic)).map (·.1), ?_, ?_⟩
  · intro l hl
    rw [← List.map_append, ← List.filter_append] at hl
    obtain ⟨s, hs, rfl⟩ := List.mem_map.mp hl
    exact hobservers s (List.mem_of_mem_filter hs)
  · have hlisteners : (a.registry.listening topic).map (·.listener) =
        ((a.registry.subscriptions.map fun s => (s.listener, s.topic)).filter
          (·.2 == topic)).map (·.1) := by
      rw [List.filter_map, List.map_map]
      rfl
    rw [hlisteners, hseated, List.filter_append, List.filter_append, List.map_append,
      List.map_append]

/-- **The parts of an assembled app are seated.** -/
theorem IsAssembled.isSeated (ha : a.IsAssembled) : a.Seated := by
  refine ⟨fun topic => ?_, ha.enrolled⟩
  obtain ⟨early, late, hobservers, h⟩ := ha.listening topic
  have hother : ∀ l ∈ early ++ late, l ≠ .store := by
    intro l hl
    obtain ⟨n, rfl⟩ := hobservers l hl
    exact nofun
  have hlate : Followed late := .of_forall_ne fun l hl => hother l (List.mem_append_right _ hl)
  rw [h]
  refine .append_of_forall_ne (fun l hl => hother l (List.mem_append_left _ hl)) ?_
  cases topic <;> simp [seats, Followed, hlate]

/-- Everybody keeps the seat as long as nothing happens to the bus. -/
theorem Seated.congr (ha : a.Seated) (hbus : b.assembly = a.assembly) : b.Seated := by
  simp only [assembly, Prod.mk.injEq] at hbus
  obtain ⟨-, hregistry, hmemberships⟩ := hbus
  refine ⟨fun topic => ?_, fun s hs part hpart => ?_⟩
  · rw [hregistry]
    exact ha.followed topic
  · rw [hregistry] at hs
    rw [hmemberships]
    exact ha.enrolled s hs part hpart

theorem Seated.enter (ha : a.Seated) (t : Turn) : (a.enter t).1.Seated :=
  ha.congr (assembly_enter a t)

/-- When all parts leave nobody but observers is left. -/
theorem Seated.shutdown (ha : a.Seated) : (a.command .shutdown).1.Seated := by
  obtain ⟨-, hmembers, hsubscriptions⟩ := bus_unmount a .pipeline
  obtain ⟨-, hmembers', hsubscriptions'⟩ := bus_unmount (a.unmount .pipeline) .canvas
  obtain ⟨-, -, hsubscriptions''⟩ :=
    bus_unmount ((a.unmount .pipeline).unmount .canvas) .store
  have hnobody : ∀ s ∈ (a.command .shutdown).1.registry.subscriptions, ∀ part : Part,
      s.listener ≠ part.listener := by
    intro s hs part hpart
    obtain ⟨hs, hstore⟩ := (hsubscriptions'' s).mp hs
    obtain ⟨hs, hcanvas⟩ := (hsubscriptions' s).mp hs
    obtain ⟨hs, hpipeline⟩ := (hsubscriptions s).mp hs
    have hmember := ha.enrolled s hs part hpart
    cases part with
    | pipeline => exact hpipeline hmember
    | canvas => exact hcanvas ((hmembers _).mpr ⟨hmember, nofun⟩)
    | store => exact hstore ((hmembers' _).mpr ⟨(hmembers _).mpr ⟨hmember, nofun⟩, nofun⟩)
  refine ⟨fun topic => .of_forall_ne fun l hl => ?_, fun s hs part hpart => ?_⟩
  · obtain ⟨s, hs, rfl⟩ := List.mem_map.mp hl
    exact hnobody s (List.mem_of_mem_filter hs) .store
  · exact absurd hpart (hnobody s hs part)

/-- **The store and the canvas stay neighbours**, unless one part leaves the bus without the
others. -/
theorem Seated.doing (ha : a.Seated) {w : Work Listener Act}
    (hw : ∀ who part, w ≠ .act (.command who (.unmount part))) : (a.doing w).1.Seated := by
  by_cases hleave : ∀ who c, w = .act (.command who c) → c.dismantles = false
  · exact ha.congr (congrArg Prod.fst (fittings_doing a hleave))
  · simp only [not_forall, Bool.not_eq_false] at hleave
    obtain ⟨who, c, rfl, hc⟩ := hleave
    cases c with
    | unmount part => exact absurd rfl (hw who part)
    | shutdown => exact ha.shutdown
    | _ => cases hc

end App

end Parley
