import Parley.Proofs.Canvas.Arrival

/-!
# What becomes of the artifacts of an app

Whatever happens to an app, its store is left alone, or a batch is put into it, or it is emptied
(`Parley.App.stocks_doing`). So it goes on from store to store by the deeds of
`Parley.Store.Deed`, and what these keep holds of it all the time: no two of its artifacts ever have
the same identifier (`Parley.App.Stocks.nodup`), and whoever asks for the identifier of one of them
is given that one (`Parley.Store.find?_of_mem`).
-/

namespace Parley

/-! ### One identifier, one artifact -/

namespace Store

variable {st : Store} {x : Artifact}

/-- **No identifier comes twice** into a store. -/
theorem nodup_ids_ingest (h : st.ids.Nodup) (batch : List Artifact) (s : Supply) :
    (st.ingest batch s).store.ids.Nodup := by
  rw [ids, items_ingest, List.map_append, List.nodup_append]
  refine ⟨nodup_ids_novel, h, ?_⟩
  rintro id hid _ hid' rfl
  exact (mem_ids_novel.mp hid).1 hid'

theorem nodup_ids_does (h : st.ids.Nodup) (d : Deed) : (st.does d).ids.Nodup := by
  cases d with
  | ingest c => exact nodup_ids_ingest h c.1 c.2
  | clear => exact List.nodup_nil

/-- **An artifact is found under its identifier.** -/
theorem find?_of_mem (h : st.ids.Nodup) (hx : x ∈ st.items) : st.find? x.id = some x := by
  -- whatever is found has the identifier, and only one artifact has it
  obtain ⟨y, hy⟩ := exists_find?_of_mem (List.mem_map_of_mem hx : x.id ∈ st.ids)
  have hid : y.id = x.id := (of_find?_eq_some hy).1
  rw [hy, List.inj_on_of_nodup_map h (List.mem_of_find?_eq_some hy) hx hid]

end Store

namespace App

variable {a b c : App}

/-! ### From store to store -/

/-- Something was done to the store, or nothing. -/
def Stocks (a b : App) : Prop := ∃ ds : List Store.Deed, b.store = ds.foldl Store.does a.store

namespace Stocks

theorem of_eq (h : b.store = a.store) : Stocks a b := ⟨[], h⟩

theorem deed (d : Store.Deed) (h : b.store = a.store.does d) : Stocks a b := ⟨[d], h⟩

theorem trans (h : Stocks a b) (h' : Stocks b c) : Stocks a c := by
  obtain ⟨ds, hds⟩ := h
  obtain ⟨ds', hds'⟩ := h'
  exact ⟨ds ++ ds', by rw [hds', hds, List.foldl_append]⟩

/-- **No two artifacts come to have the same identifier.** -/
theorem nodup (h : Stocks a b) (ha : a.store.ids.Nodup) : b.store.ids.Nodup := by
  obtain ⟨ds, hds⟩ := h
  rw [hds]
  exact List.foldlRecOn (motive := fun st => st.ids.Nodup) ds Store.does ha
    fun _ hst d _ => Store.nodup_ids_does hst d

end Stocks

theorem stocks_notes (a : App) (ns : List Note) : Stocks a (a.notes ns) :=
  .of_eq (exhibit_notes a ns).1

theorem stocks_ingest (a : App) (batch : List Artifact) : Stocks a (a.ingest batch).1 :=
  .deed (.ingest (batch, a.supply)) (exhibit_notes _ _).1

theorem stocks_clearStore (a : App) : Stocks a a.clearStore := .deed .clear (exhibit_notes _ _).1

theorem stocks_changeCanvas (a : App) (f : Canvas → Canvas) : Stocks a (a.changeCanvas f).1 :=
  .of_eq (exhibit_notes _ _).1

theorem stocks_openArtifact (a : App) (id : String) : Stocks a (a.openArtifact id).1 := by
  unfold openArtifact
  split
  · exact stocks_changeCanvas a (·.select _)
  · exact .of_eq rfl

theorem stocks_reset (a : App) : Stocks a a.reset := by
  refine .of_eq ?_
  simp only [reset]
  split <;> rfl

theorem stocks_unmount (a : App) (part : Part) : Stocks a (a.unmount part) :=
  .of_eq (exhibit_unmount a part).1

/-- What a listener does with a signal. -/
theorem stocks_react (a : App) (l : Listener) (e : Event) : Stocks a (a.react l e).1 := by
  obtain ⟨source, signal⟩ := e
  cases l with
  | store =>
    cases signal with
    | artifactsReceived batch => exact stocks_ingest a batch
    | newConversation => exact stocks_clearStore a
    | _ => exact .of_eq rfl
  | canvas => exact .of_eq (store_react_canvas a _)
  | pipeline =>
    cases signal with
    | newConversation => exact stocks_reset a
    | conversationSelected id =>
      refine .of_eq ?_
      simp only [react, spawnLoad]
      split <;> rfl
    | _ => exact .of_eq rfl
  | observer n =>
    refine .of_eq ?_
    simp only [react]
    split <;> rfl

/-- What a command does. -/
theorem stocks_command (a : App) (c : Command) : Stocks a (a.command c).1 := by
  cases c with
  | toggle | cycle | hide | deselect => exact stocks_changeCanvas a _
  | openId | openAt => exact stocks_openArtifact a _
  | ingest batch => exact (stocks_ingest { a with supply := (batch a.supply).2 } _)
  | clearStore => exact stocks_clearStore a
  | reset => exact stocks_reset a
  | unmount part => exact stocks_unmount a part
  | shutdown =>
    exact (stocks_unmount a .pipeline).trans ((stocks_unmount _ .canvas).trans (stocks_unmount _ .store))
  | picture =>
    refine .of_eq ?_
    simp only [command]
    split
    · exact (exhibit_notes a _).1
    · rfl
  | _ => exact .of_eq rfl

/-- **What is done leaves the store alone, puts a batch into it, or empties it.** -/
theorem stocks_doing (a : App) (w : Work Listener Act) : Stocks a (a.doing w).1 := by
  cases w with
  | publish e =>
    rw [doing_publish]
    exact stocks_notes a [_]
  | deliver s e =>
    rw [doing_deliver]
    exact stocks_react a s.listener e
  | act w =>
    cases w with
    | command who c =>
      rw [doing_command]
      exact stocks_command a c
    | give | note =>
      rw [doing_act]
      exact .of_eq rfl
    | conclude n g adopted =>
      rw [doing_act]
      cases adopted <;> exact .of_eq rfl

theorem stocks_settle (a : App) (ws : Errands) : Stocks a (a.settle ws) :=
  settle_induction (P := fun c => Stocks a c.1) (fun _ w _ hb => hb.trans (stocks_doing _ w))
    (.of_eq rfl)

theorem stocks_turn (a : App) (t : Turn) : Stocks a (a.turn t) :=
  .trans (.of_eq (store_enter a t).1) (stocks_settle _ _)

/-- **Turns do to the store what can be done to a store**, one after the other. -/
theorem stocks_run (a : App) (ts : List Turn) : Stocks a (a.run ts) := by
  induction ts generalizing a with
  | nil => exact .of_eq rfl
  | cons t ts ih => exact (stocks_turn a t).trans (ih _)

theorem stocks_tell (a : App) (c : Command) : Stocks a (a.tell c) := stocks_settle a _

end App

end Parley
