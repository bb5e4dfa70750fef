import Mathlib.Data.List.Basic
import Parley.Bus.Switchboard
import Parley.Proofs.Bus.Nesting

/-!
# Who listens at a switchboard

Listeners subscribe and unsubscribe while an event is handed to them, so the registry that deliveries
are taken from changes under way. What it holds at any moment is known all the same from what was
ordered so far (`Parley.Switchboard.Books`): the subscriptions in the order in which they were made,
each under the number of those before it, without the ones that were ended.
-/

namespace Parley

namespace Switchboard

/-- What was done at a switchboard. -/
abbrev Deeds := List (Delivery.Deed Switchboard NamedListener Duty)

/-! ### Listeners of any kind -/

/-- How listeners behave: what they do when they hear an event, and what whoever gave an order does
when told what it gave back. -/
structure Conduct where
  hear : Subscription NamedListener → Event → Switchboard → Switchboard × Duties
  told : Option String → OrderResult → Switchboard → Switchboard × Duties

/-- A switchboard whose listeners behave as they like. -/
def deliveryBy (k : Conduct) : Delivery Switchboard NamedListener Duty :=
  { delivery with
    react := k.hear
    perform w b := match w with
      | .order who o => b.perform (.order who o)
      | .give who r => k.told who r b }

/-- The same listen in two states, under the same names, and both are open or closed. -/
structure SameListeners (b b' : Switchboard) : Prop where
  registry : b'.registry = b.registry
  names : b'.names = b.names
  isOpen : b'.isOpen = b.isOpen

/-- Whatever listeners do about who listens, they do it by giving orders. -/
structure Conduct.IsByOrder (k : Conduct) : Prop where
  hear : ∀ s e b, SameListeners b (k.hear s e b).1
  told : ∀ who r b, SameListeners b (k.told who r b).1

/-- The topic and the listener of the subscription that a deed makes. -/
def subscribed? (x : Delivery.Deed Switchboard NamedListener Duty) : Option (Topic × NamedListener) :=
  match x.work with
  | .act (.order _ (.subscribe name topic orders _)) =>
    if x.before.isOpen then some (topic, ⟨name, orders⟩) else none
  | _ => none

/-- The number of the subscription that a deed ends: the one under a name that is given up, or taken
over. -/
def ended? (x : Delivery.Deed Switchboard NamedListener Duty) : Option Nat :=
  match x.work with
  | .act (.order _ (.subscribe name _ _ _)) | .act (.order _ (.unsubscribe name)) =>
    if x.before.isOpen then x.before.numberOf? name else none
  | _ => none

/-- All subscriptions that were made, in their order; each has the number of those before it. -/
def made (ds : Deeds) : List (Subscription NamedListener) :=
  (ds.filterMap subscribed?).zipIdx.map fun (x, i) => ⟨i, x.1, x.2⟩

/-- The numbers of the subscriptions that were ended. -/
def ended (ds : Deeds) : List Nat := ds.filterMap ended?

/-- The subscriptions that were made and not ended. -/
def live (ds : Deeds) : List (Subscription NamedListener) :=
  (made ds).filter fun s => s.id ∉ ended ds

/-- What the registry of a switchboard holds after what was done at it. -/
structure Books (ds : Deeds) (b : Switchboard) : Prop where
  /-- Who listens, in the order of the subscriptions. -/
  subscriptions : b.registry.subscriptions = live ds
  /-- The next subscription has the number of those that were made before it. -/
  next : b.registry.next = (made ds).length
  /-- So no number that was given up is used again. -/
  past : ∀ n ∈ ended ds, n < b.registry.next
  /-- As long as the switchboard is open there is a name for every subscription that is live. -/
  named : b.isOpen = true → ∀ n, n ∈ b.registry.subscriptions.map (·.id) ↔
    ∃ name, b.numberOf? name = some n
  single : ∀ {name name' n}, b.numberOf? name = some n → b.numberOf? name' = some n → name = name'

theorem made_concat (ds : Deeds) (x : Delivery.Deed Switchboard NamedListener Duty) :
    made (ds ++ [x]) =
      made ds ++ (subscribed? x).toList.map fun y => ⟨(made ds).length, y.1, y.2⟩ := by
  have hlength : (made ds).length = (ds.filterMap subscribed?).length := by
    rw [made, List.length_map, List.length_zipIdx]
  rw [hlength, made, made, List.filterMap_append, List.zipIdx_append, List.map_append]
  cases h : subscribed? x <;> simp [h]

theorem ended_concat (ds : Deeds) (x : Delivery.Deed Switchboard NamedListener Duty) :
    ended (ds ++ [x]) = ended ds ++ (ended? x).toList := by
  rw [ended, ended, List.filterMap_append]
  cases h : ended? x <;> simp [h]

/-- The subscriptions that were made have the numbers from zero on. -/
theorem map_id_made (ds : Deeds) : (made ds).map (·.id) = List.range (made ds).length := by
  have hlength : (made ds).length = (ds.filterMap subscribed?).length := by
    rw [made, List.length_map, List.length_zipIdx]
  rw [hlength, made, List.map_map, List.range_eq_range', ← List.zipIdx_map_snd 0]
  rfl

theorem id_lt_of_mem_made {ds : Deeds} {s : Subscription NamedListener} (hs : s ∈ made ds) :
    s.id < (made ds).length := by
  have hid : s.id ∈ (made ds).map (·.id) := List.mem_map_of_mem hs
  rw [map_id_made] at hid
  exact List.mem_range.mp hid

theorem pairwise_live (ds : Deeds) : ((live ds).map (·.id)).Pairwise (· < ·) := by
  have hmade : ((made ds).map (·.id)).Pairwise (· < ·) := by
    rw [map_id_made]
    exact List.pairwise_lt_range
  exact hmade.sublist (List.filter_sublist.map _)

/-! ### What a deed does to the books -/

/-- What a deed does to the registry and to the names, given the subscription that it makes and the
number of the one that it ends. -/
inductive Entry (b b' : Switchboard) : Option (Topic × NamedListener) → Option Nat → Prop
  | leave (hregistry : b'.registry = b.registry)
      (hnames : b'.isOpen = true → b.isOpen = true ∧ ∀ name, b'.numberOf? name = b.numberOf? name)
      (hold : ∀ name n, b'.numberOf? name = some n → b.numberOf? name = some n) :
      Entry b b' none none
  | subscribe (name : String) (topic : Topic) (l : NamedListener) (hopen : b.isOpen = true)
      (hnext : b'.registry.next = b.registry.next + 1)
      (hsubscriptions : b'.registry.subscriptions =
        (b.registry.subscribe topic l).subscriptions.filter
          fun s => some s.id ≠ b.numberOf? name)
      (hnames : ∀ name', b'.numberOf? name' =
        if name' = name then some b.registry.next else b.numberOf? name') :
      Entry b b' (some (topic, l)) (b.numberOf? name)
  | unsubscribe (name : String) (hopen : b.isOpen = true)
      (hnext : b'.registry.next = b.registry.next)
      (hsubscriptions : b'.registry.subscriptions =
        b.registry.subscriptions.filter fun s => some s.id ≠ b.numberOf? name)
      (hnames : ∀ name', b'.numberOf? name' = if name' = name then none else b.numberOf? name') :
      Entry b b' none (b.numberOf? name)

/-- What the other keys have in a table stays as it is when a key is struck out. -/
theorem find?_without {κ : Type} [BEq κ] [LawfulBEq κ] (xs : List (κ × Nat)) (k k' : κ) :
    (xs.filter (·.1 != k)).find? (·.1 == k') =
      if k' == k then none else xs.find? (·.1 == k') := by
  rw [List.find?_filter]
  split
  · rename_i hk
    obtain rfl := eq_of_beq hk
    simp
  · rename_i hne
    refine congrArg (xs.find? ·) (funext fun x => ?_)
    by_cases hx : x.1 = k'
    · simpa [hx] using hne
    · simp [hx]

theorem registry_endSubscription (b : Switchboard) (id : Nat) :
    (b.endSubscription id).registry = b.registry.unsubscribe id := by
  unfold endSubscription
  split
  · rfl
  · rename_i hnone
    have hnobody : ∀ s ∈ b.registry.subscriptions, s.id ≠ id := by
      simpa [Registry.topicOf?] using hnone
    have hsame : b.registry.subscriptions.filter (·.id != id) = b.registry.subscriptions :=
      List.filter_eq_self.mpr fun s hs => bne_iff_ne.mpr (hnobody s hs)
    rw [Registry.unsubscribe, hsame]

theorem names_endSubscription (b : Switchboard) (id : Nat) :
    (b.endSubscription id).names = b.names := by
  unfold endSubscription
  split <;> rfl

theorem entry_subscribe (b : Switchboard) (hopen : b.isOpen = true) (name : String) (topic : Topic)
    (orders : List Order) (limit : Nat) :
    Entry b (b.subscribe name topic orders limit) (some (topic, ⟨name, orders⟩))
      (b.numberOf? name) := by
  have hnames : (b.subscribe name topic orders limit).names =
      (name, b.registry.next) :: b.names.filter (·.1 != name) := by
    unfold subscribe
    dsimp only
    split
    · rw [names_endSubscription]
      rfl
    · rfl
  have hregistry : (b.subscribe name topic orders limit).registry.next = b.registry.next + 1 ∧
      (b.subscribe name topic orders limit).registry.subscriptions =
        (b.registry.subscribe topic ⟨name, orders⟩).subscriptions.filter
          fun s => some s.id ≠ b.numberOf? name := by
    unfold subscribe
    dsimp only
    cases b.numberOf? name with
    | some id =>
      dsimp only
      rw [registry_endSubscription]
      exact ⟨rfl, List.filter_congr fun s _ => by by_cases h : s.id = id <;> simp [h]⟩
    | none => exact ⟨rfl, (List.filter_eq_self.mpr fun s _ => by simp).symm⟩
  refine .subscribe name topic ⟨name, orders⟩ hopen hregistry.1 hregistry.2 fun name' => ?_
  rw [numberOf?, hnames, List.find?_cons]
  by_cases hname : name' = name
  · simp [hname]
  · rw [beq_eq_false_iff_ne.mpr (Ne.symm hname), find?_without, if_neg (by simpa using hname),
      if_neg hname]
    rfl

/-- A name is given up: on an open switchboard its subscription ends. -/
theorem entry_unsubscribe (b : Switchboard) (name : String) :
    Entry b (b.unsubscribe name).1 none (if b.isOpen then b.numberOf? name else none) := by
  cases h : b.numberOf? name with
  | none =>
    have hsame : (b.unsubscribe name).1 = b := by rw [unsubscribe, h]
    rw [hsame, ite_self]
    exact .leave rfl (fun hopen => ⟨hopen, fun _ => rfl⟩) fun _ _ => id
  | some id =>
    have hnumber : ∀ b' : Switchboard, b'.names = b.names.filter (·.1 != name) → ∀ name',
        b'.numberOf? name' = if name' = name then none else b.numberOf? name' := by
      intro b' hb' name'
      rw [numberOf?, hb', find?_without, numberOf?]
      by_cases hname : name' = name <;> simp [hname]
    by_cases hopen : b.isOpen = true
    · have hend : (b.unsubscribe name).1 =
          ({ b with names := b.names.filter (·.1 != name) } : Switchboard).endSubscription id := by
        rw [unsubscribe, h]
        exact if_pos hopen
      rw [hend, if_pos hopen, ← h]
      refine .unsubscribe name hopen ?_ ?_ (hnumber _ ?_)
      · rw [registry_endSubscription]
        rfl
      · rw [registry_endSubscription, h]
        exact List.filter_congr fun s _ => by by_cases hs : s.id = id <;> simp [hs]
      · rw [names_endSubscription]
    · have hend : (b.unsubscribe name).1 =
          ({ b with names := b.names.filter (·.1 != name) } : Switchboard) := by
        rw [unsubscribe, h]
        exact if_neg hopen
      rw [hend, if_neg hopen]
      refine .leave rfl (fun h => absurd h hopen) fun name' n hn => ?_
      rw [hnumber _ rfl] at hn
      split at hn
      · cases hn
      · exact hn

theorem entry_of_sameListeners {b b' : Switchboard} (h : SameListeners b b') :
    Entry b b' none none := by
  have hnumber : ∀ name, b'.numberOf? name = b.numberOf? name := fun name => by
    rw [numberOf?, h.names, numberOf?]
  exact .leave h.registry (fun hopen => ⟨h.isOpen ▸ hopen, hnumber⟩) fun name n hn =>
    hnumber name ▸ hn

/-- An order subscribes, ends a subscription, or leaves alone who listens. -/
theorem entry_carryOut (b b' : Switchboard) (who : Option String) (o : Order) :
    Entry b (b.carryOut o).1 (subscribed? ⟨b, .act (.order who o), b'⟩)
      (ended? ⟨b, .act (.order who o), b'⟩) := by
  have hsame : Entry b b none none := entry_of_sameListeners ⟨rfl, rfl, rfl⟩
  cases o with
  | unsubscribe name => exact entry_unsubscribe b name
  | subscribe name topic orders limit =>
    simp only [subscribed?, ended?, carryOut]
    cases hopen : b.isOpen with
    | true => exact entry_subscribe b hopen name topic orders limit
    | false => exact hsame
  | publish source signal =>
    simp only [subscribed?, ended?, carryOut]
    split <;> exact entry_of_sameListeners ⟨rfl, rfl, rfl⟩
  | counts =>
    simp only [subscribed?, ended?, carryOut]
    split <;> exact hsame
  | close =>
    simp only [subscribed?, ended?, carryOut]
    split
    · exact hsame
    · exact .leave rfl nofun fun _ _ => id

/-- **What is done at a switchboard** subscribes, ends a subscription, or leaves alone who
listens. -/
theorem entry_step {k : Conduct} (hk : k.IsByOrder) (b : Switchboard)
    (w : Work NamedListener Duty) (ws : Duties) :
    Entry b ((deliveryBy k).step (b, w :: ws)).1
      (subscribed? ⟨b, w, ((deliveryBy k).step (b, w :: ws)).1⟩)
      (ended? ⟨b, w, ((deliveryBy k).step (b, w :: ws)).1⟩) := by
  cases w with
  | publish e => exact entry_of_sameListeners ⟨rfl, rfl, rfl⟩
  | deliver s e => exact entry_of_sameListeners (hk.hear s e b)
  | act w =>
    cases w with
    | give who r => exact entry_of_sameListeners (hk.told who r b)
    | order who o => exact entry_carryOut b _ who o

/-! ### Keeping the books -/

namespace Books

variable {ds ds' : Deeds} {b b' : Switchboard} {new : Option (Topic × NamedListener)}
  {gone : Option Nat}

theorem increasing (h : Books ds b) : (b.registry.subscriptions.map (·.id)).Pairwise (· < ·) :=
  h.subscriptions ▸ pairwise_live ds

theorem nodup (h : Books ds b) : (b.registry.subscriptions.map (·.id)).Nodup :=
  h.increasing.imp Nat.ne_of_lt

/-- As many listen to a topic as have subscribed to it and not ended it. -/
theorem count (h : Books ds b) (topic : Topic) :
    b.registry.count topic = ((live ds).filter (·.topic = topic)).length := by
  rw [Registry.count, Registry.listening, h.subscriptions]
  exact congrArg List.length (List.filter_congr fun s _ => by
    by_cases hs : s.topic = topic <;> simp [hs])

theorem id_lt_next (h : Books ds b) {s : Subscription NamedListener}
    (hs : s ∈ b.registry.subscriptions) : s.id < b.registry.next := by
  rw [h.subscriptions] at hs
  exact h.next ▸ id_lt_of_mem_made (List.mem_of_mem_filter hs)

theorem lt_next_of_numberOf? (h : Books ds b) (hopen : b.isOpen = true) {name : String} {n : Nat}
    (hn : b.numberOf? name = some n) : n < b.registry.next := by
  obtain ⟨s, hs, rfl⟩ := List.mem_map.mp ((h.named hopen n).mpr ⟨name, hn⟩)
  exact h.id_lt_next hs

/-- What is live changes as the registry does. -/
theorem live_entry (h : Books ds b) (made' : List (Subscription NamedListener))
    (hmade' : ∀ s ∈ made', s.id = b.registry.next) (hmade : made ds' = made ds ++ made')
    (hended : ended ds' = ended ds ++ gone.toList) :
    live ds' = (b.registry.subscriptions ++ made').filter fun s => some s.id ≠ gone := by
  rw [h.subscriptions, live, live, hmade, hended, List.filter_append, List.filter_append,
    List.filter_filter]
  congr 1
  · refine List.filter_congr fun s _ => ?_
    cases gone <;> simp [and_comm, eq_comm]
  · refine List.filter_congr fun s hs => ?_
    have hnew : s.id ∉ ended ds := fun hmem =>
      absurd (h.past _ hmem) (by rw [hmade' s hs]; exact Nat.lt_irrefl _)
    cases gone <;> simp [hnew]

theorem mem_map_id_filter {ss : List (Subscription NamedListener)} {n : Nat} :
    n ∈ (ss.filter fun s => some s.id ≠ gone).map (·.id) ↔
      n ∈ ss.map (·.id) ∧ some n ≠ gone := by
  simp only [List.mem_map, List.mem_filter, decide_eq_true_eq]
  constructor
  · rintro ⟨s, ⟨hs, hne⟩, rfl⟩
    exact ⟨⟨s, hs, rfl⟩, hne⟩
  · rintro ⟨⟨s, hs, rfl⟩, hne⟩
    exact ⟨s, ⟨hs, hne⟩, rfl⟩

/-- **A deed that subscribes or ends a subscription is entered in the books.** -/
theorem entry (h : Books ds b) (he : Entry b b' new gone)
    (hmade : made ds' = made ds ++ new.toList.map fun y => ⟨(made ds).length, y.1, y.2⟩)
    (hended : ended ds' = ended ds ++ gone.toList) : Books ds' b' := by
  cases he with
  | leave hregistry hnames hold =>
    have hlive := h.live_entry [] nofun (by simpa using hmade) hended
    have hmade' : made ds' = made ds := by simpa using hmade
    refine ⟨?_, ?_, ?_, fun hopen n => ?_, fun hn hn' => h.single (hold _ _ hn) (hold _ _ hn')⟩
    · rw [hlive, hregistry]
      simp
    · rw [hregistry, h.next, hmade']
    · intro n hn
      rw [hended, Option.toList_none, List.append_nil] at hn
      rw [hregistry]
      exact h.past n hn
    · obtain ⟨hopen, hsame⟩ := hnames hopen
      simp only [hregistry, hsame]
      exact h.named hopen n
  | subscribe name topic l hopen hnext hsubscriptions hnames =>
    have hlive := h.live_entry [⟨b.registry.next, topic, l⟩]
      (fun s hs => by rw [List.mem_singleton.mp hs]) (by rw [h.next]; exact hmade) hended
    have hpast {name' : String} {n : Nat} (hn : b.numberOf? name' = some n) :
        n ≠ b.registry.next := Nat.ne_of_lt (h.lt_next_of_numberOf? hopen hn)
    refine ⟨?_, ?_, ?_, fun _ n => ?_, ?_⟩
    · rw [hlive, hsubscriptions]
      rfl
    · rw [hnext, h.next, hmade, List.length_append]
      rfl
    · intro n hn
      rw [hnext]
      rw [hended, List.mem_append, Option.mem_toList] at hn
      rcases hn with hn | hn
      · exact Nat.lt_succ_of_lt (h.past n hn)
      · exact Nat.lt_succ_of_lt (h.lt_next_of_numberOf? hopen hn)
    · rw [hsubscriptions, mem_map_id_filter, Registry.subscribe, List.map_append, List.mem_append,
        h.named hopen]
      constructor
      · rintro ⟨⟨name', hn⟩ | hn, hne⟩
        · exact ⟨name', by rw [hnames, if_neg (by rintro rfl; exact hne hn.symm), hn]⟩
        · exact ⟨name, by rw [hnames, if_pos rfl, List.mem_singleton.mp hn]⟩
      · rintro ⟨name', hn⟩
        rw [hnames] at hn
        split at hn
        · cases hn
          exact ⟨.inr (List.mem_singleton_self _), fun hn => hpast hn.symm rfl⟩
        · rename_i hname
          exact ⟨.inl ⟨name', hn⟩, fun hn' => hname (h.single hn hn'.symm)⟩
    · intro name₁ name₂ n hn₁ hn₂
      rw [hnames] at hn₁ hn₂
      split at hn₁ <;> split at hn₂
      · exact ‹name₁ = name›.trans ‹name₂ = name›.symm
      · cases hn₁
        exact absurd rfl (hpast hn₂)
      · cases hn₂
        exact absurd rfl (hpast hn₁)
      · exact h.single hn₁ hn₂
  | unsubscribe name hopen hnext hsubscriptions hnames =>
    have hlive := h.live_entry [] nofun (by simpa using hmade) hended
    have hmade' : made ds' = made ds := by simpa using hmade
    refine ⟨?_, ?_, ?_, fun _ n => ?_, ?_⟩
    · rw [hlive, hsubscriptions, List.append_nil]
    · rw [hnext, h.next, hmade']
    · intro n hn
      rw [hnext]
      rw [hended, List.mem_append, Option.mem_toList] at hn
      exact hn.elim (h.past n) (h.lt_next_of_numberOf? hopen)
    · rw [hsubscriptions, mem_map_id_filter, h.named hopen]
      constructor
      · rintro ⟨⟨name', hn⟩, hne⟩
        exact ⟨name', by rw [hnames, if_neg (by rintro rfl; exact hne hn.symm), hn]⟩
      · rintro ⟨name', hn⟩
        rw [hnames] at hn
        split at hn
        · cases hn
        · rename_i hname
          exact ⟨⟨name', hn⟩, fun hn' => hname (h.single hn hn'.symm)⟩
    · intro name₁ name₂ n hn₁ hn₂
      rw [hnames] at hn₁ hn₂
      split at hn₁
      · cases hn₁
      · split at hn₂
        · cases hn₂
        · exact h.single hn₁ hn₂

/-- **The books are kept along whatever is done.** -/
theorem runs {k : Conduct} (hk : k.IsByOrder) {ws ws' : Duties} (h : Books ds b)
    (hruns : (deliveryBy k).Runs (b, ws) ds' (b', ws')) : Books (ds ++ ds') b' := by
  induction ds' generalizing ds b ws with
  | nil =>
    obtain ⟨rfl, rfl⟩ := Prod.mk.inj hruns.eq_of_nil
    rwa [List.append_nil]
  | cons x ds' ih =>
    cases hruns with
    | @cons _ w ws _ _ hruns =>
      rw [List.append_cons]
      exact ih (h.entry (entry_step hk b w ws) (made_concat ..) (ended_concat ..)) hruns

/-- Nothing is in the books of a switchboard at which nobody listens. -/
theorem empty {b : Switchboard} (hregistry : b.registry = .empty) (hnames : b.names = []) :
    Books [] b where
  subscriptions := by rw [hregistry]; rfl
  next := by rw [hregistry]; rfl
  past := nofun
  named := by simp [hregistry, Registry.empty, numberOf?, hnames]
  single := by simp [numberOf?, hnames]

end Books

end Switchboard

end Parley
