import Parley.Files.Tree
import Parley.Proofs.Chat.Records

/-!
# What is saved is loaded

A disk keeps what is written if a file that has just been written is there and holds its text
(`Parley.Disk.Keeps`). That much is so of a tree of files (`Parley.Tree.keeps`): no path leads on
through what is not a directory, so whatever a file is put in place of, the way to it stays what it was.

On any disk that keeps what is written, a session that was saved is loaded for what it was
(`Parley.SavedSession.load_run_of_saves`), whatever the file held before. To be saved it takes a
directory, which is made first if it is missing, and a file that may be written
(`Parley.SavedSession.saves_iff`). With what is read of messages, of summaries and of questions,
`Parley.records_read_back` is what all the records have in common.
-/

namespace Parley

/-- **A disk keeps what is written**: a file that has been written is there and holds its text. -/
structure Disk.Keeps {σ : Type} (disk : Disk (StateM σ)) : Prop where
  present {path text : String} {d d' : σ} (h : (disk.write path text).run d = (.ok (), d')) :
    ((disk.present path).run d').1 = true
  read {path text : String} {d d' : σ} (h : (disk.write path text).run d = (.ok (), d')) :
    ((disk.read path).run ((disk.present path).run d').2).1 = .ok text

/-! ### Trees -/

namespace Tree

variable {t t' : Tree} {p q here there : Place} {n : Node} {path : String} {bytes : ByteArray}

theorem ne_nil_of_not_directory (hp : t.node? p ≠ some .directory) : p ≠ [] := by
  rintro rfl
  exact hp rfl

theorem node?_put (hq : q ≠ p) : (t.put p n).node? q = t.node? q := by
  have hfind : ((p, n) :: t.nodes.filter (·.1 ≠ p)).find? (·.1 = q) = t.nodes.find? (·.1 = q) := by
    rw [List.find?_cons_of_neg (by simpa using hq.symm), List.find?_filter]
    congr 1
    funext a
    by_cases ha : a.1 = q
    · simp [ha, hq]
    · simp [ha]
  rw [node?, node?, put, hfind]

theorem node?_put_self (hp : p ≠ []) : (t.put p n).node? p = some n := by
  rw [node?, if_neg (by simpa using hp), put, List.find?_cons_of_pos (by simp)]
  rfl

/-- What is put in place of no directory is on the way to nowhere. -/
theorem goOn_put (hp : t.node? p ≠ some .directory) {part : String}
    (h : t.goOn here part = .ok there) : (t.put p n).goOn here part = .ok there := by
  -- only a directory leads on, so whoever goes on is somewhere else
  have hhere : here ≠ p := by
    rintro rfl
    unfold goOn at h
    split at h
    · exact hp ‹_›
    · cases h
    · cases h
  rwa [goOn, node?_put hhere]

theorem foldlM_goOn_put (hp : t.node? p ≠ some .directory) {parts : List String}
    (h : parts.foldlM t.goOn here = .ok there) : parts.foldlM (t.put p n).goOn here = .ok there := by
  induction parts generalizing here with
  | nil => exact h
  | cons part parts ih =>
    rw [List.foldlM_cons] at h ⊢
    cases hpart : t.goOn here part with
    | error e =>
      rw [hpart] at h
      cases h
    | ok next =>
      rw [hpart] at h
      rw [goOn_put hp hpart]
      exact ih h

theorem place_put (hp : t.node? p ≠ some .directory) (h : t.place path = .ok q) :
    (t.put p n).place path = .ok q := by
  unfold place at h ⊢
  split at h
  · cases h
  · rename_i hnul
    rw [if_neg hnul]
    exact foldlM_goOn_put hp h

/-- **A file that is written is put at the end of its path**, where no directory is. -/
theorem exists_of_write (h : t.write path bytes = .ok t') :
    ∃ p, t.place path = .ok p ∧ t.node? p ≠ some .directory ∧ (partsOf path).2 = false ∧
      t' = t.put p (.file bytes) := by
  unfold write at h
  cases hplace : t.place path with
  | error e =>
    rw [hplace] at h
    cases h
  | ok p =>
    simp only [hplace, bind, Except.bind] at h
    refine ⟨p, rfl, ?_⟩
    -- in place of a file or where nothing is, a slash at the end of the path is refused
    have hput : ∀ {e : Refusal}, (if (partsOf path).2 then .error e else .ok (t.put p (.file bytes))) =
        Except.ok t' → (partsOf path).2 = false ∧ t' = t.put p (.file bytes) := fun {e} h => by
      split_ifs at h with hslash
      cases h
      exact ⟨Bool.eq_false_iff.mpr hslash, rfl⟩
    split at h
    · cases h
    · rename_i hnode
      rw [hnode]
      exact ⟨nofun, hput h⟩
    · rename_i hnode
      rw [hnode]
      split at h
      · exact ⟨nofun, hput h⟩
      · cases h
      · cases h

/-- A new file can be written into a directory. -/
theorem write_new (hplace : t.place path = .ok p) (hnew : t.node? p = none)
    (hdirectory : t.node? p.dropLast = some .directory) (hslash : (partsOf path).2 = false) :
    t.write path bytes = .ok (t.put p (.file bytes)) := by
  simp only [write, hplace, bind, Except.bind, hnew, hdirectory, hslash]
  rfl

/-- **What is written is found at the end of its path.** -/
theorem lookup_of_write (h : t.write path bytes = .ok t') : t'.lookup path = .ok (.file bytes) := by
  obtain ⟨p, hplace, hp, hslash, rfl⟩ := exists_of_write h
  have hfound : (t.put p (.file bytes)).place path = .ok p := place_put hp hplace
  simp only [lookup, hfound, bind, Except.bind, node?_put_self (ne_nil_of_not_directory hp), hslash]
  rfl

theorem changing_run {f : Tree → Except Refusal Tree} :
    (changing f).run t = (.ok (), t') ↔ f t = .ok t' := by
  cases hf : f t with
  | ok t₁ =>
    have hrun : (changing f).run t = (.ok (), t₁) := by
      simp only [changing, modifyGet, MonadStateOf.modifyGet, StateT.modifyGet, StateT.run, hf]
      rfl
    rw [hrun]
    exact ⟨fun h => congrArg _ (congrArg Prod.snd h), fun h => congrArg _ (Except.ok.inj h)⟩
  | error e =>
    have hrun : (changing f).run t = (.error (.files e.message), t) := by
      simp only [changing, modifyGet, MonadStateOf.modifyGet, StateT.modifyGet, StateT.run, hf]
      rfl
    rw [hrun]
    exact ⟨nofun, nofun⟩

theorem fromUTF8?_toUTF8 (s : String) : String.fromUTF8? s.toUTF8 = some s := by
  unfold String.fromUTF8?
  exact dif_pos s.isValidUTF8

theorem readText_of_lookup {text : String} (h : t.lookup path = .ok (.file text.toUTF8)) :
    t.readText path = .ok text := by
  simp only [readText, h, bind, Except.bind, fromUTF8?_toUTF8]

/-- **A tree of files keeps what is written.** -/
theorem keeps : Tree.disk.Keeps where
  present {path text t t'} h := by
    have hfound := lookup_of_write (changing_run.mp h)
    change (t'.lookup path).isOk = true
    rw [hfound]
    rfl
  read {path text t t'} h := by
    have hfound := lookup_of_write (changing_run.mp h)
    change asFailure (t'.readText path) = .ok text
    rw [readText_of_lookup hfound]
    rfl

end Tree

/-! ### Sessions -/

namespace SavedSession

variable {σ : Type} {disk : Disk (StateM σ)} {base : String} {s : SavedSession} {d d' : σ}

/-- **The directory is made ready**: it is there, or it is missing and made. -/
inductive Ready (disk : Disk (StateM σ)) (base : String) (d d' : σ) : Prop
  | there (h : (disk.present base).run d = (true, d'))
  | made {d₁ : σ} (hmissing : (disk.present base).run d = (false, d₁))
      (h : (disk.makeDirs base).run d₁ = (.ok (), d'))

/-- A session is saved. -/
def Saves (disk : Disk (StateM σ)) (base : String) (s : SavedSession) (d d' : σ) : Prop :=
  ∃ notes, (save disk base s).run d = ((.ok (), notes), d')

/-- What there is to do once the directory is ready. -/
def store (disk : Disk (StateM σ)) (base : String) (s : SavedSession) :
    StateM σ (Except Failure Unit × List Note) := do
  match ← disk.write (path base) s.toText with
  | .ok () => return (.ok (), [⟨.debug, "Saved session to " ++ path base⟩])
  | .error f => return (.error f, [])

theorem store_run : (∃ notes, (store disk base s).run d = ((.ok (), notes), d')) ↔
    (disk.write (path base) s.toText).run d = (.ok (), d') := by
  rw [store, StateT.run_bind]
  obtain ⟨r | r, d₁⟩ := (disk.write (path base) s.toText).run d
  · constructor
    · rintro ⟨notes, h⟩
      cases h
    · exact nofun
  · constructor
    · rintro ⟨notes, h⟩
      cases h
      rfl
    · intro h
      cases h
      exact ⟨_, rfl⟩

/-- A session is saved in a directory that is there, or else in one that can be made. -/
theorem save_run : (save disk base s).run d =
    match (disk.present base).run d with
    | (true, d₁) => (store disk base s).run d₁
    | (false, d₁) =>
      match (disk.makeDirs base).run d₁ with
      | (.ok (), d₂) => (store disk base s).run d₂
      | (.error f, d₂) => ((.error f, []), d₂) := by
  rw [save, StateT.run_bind]
  obtain ⟨found, d₁⟩ := (disk.present base).run d
  cases found with
  | true => rfl
  | false =>
    change ((disk.makeDirs base >>= _ : StateM σ _)).run d₁ = _
    rw [StateT.run_bind]
    dsimp only
    obtain ⟨r | r, d₂⟩ := (disk.makeDirs base).run d₁ <;> rfl

/-- **A session is saved** exactly if its directory is made ready and its file written then. -/
theorem saves_iff : Saves disk base s d d' ↔ ∃ d₁, Ready disk base d d₁ ∧
    (disk.write (path base) s.toText).run d₁ = (.ok (), d') := by
  rw [Saves, save_run]
  constructor
  · intro h
    split at h
    · rename_i d₁ hthere
      exact ⟨d₁, .there hthere, store_run.mp h⟩
    · rename_i d₁ hmissing
      split at h
      · rename_i d₂ hmade
        exact ⟨d₂, .made hmissing hmade, store_run.mp h⟩
      · obtain ⟨notes, h⟩ := h
        cases h
  · rintro ⟨d₁, hthere | ⟨hmissing, hmade⟩, hwrite⟩
    · rw [hthere]
      exact store_run.mpr hwrite
    · rw [hmissing]
      dsimp only
      rw [hmade]
      exact store_run.mpr hwrite

/-- **A session that was saved is loaded for what it was.** -/
theorem load_run_of_saves (hdisk : disk.Keeps) (h : Saves disk base s d d') :
    ((load disk base).run d').1 = .ok s ↔ IsNumbered s.conversation := by
  obtain ⟨d₁, -, hwrite⟩ := saves_iff.mp h
  have hpresent := hdisk.present hwrite
  have hread := hdisk.read hwrite
  have hload : ((load disk base).run d').1 = ofText s.toText := by
    rw [load, StateT.run_bind]
    -- the file is asked for before it is read, and what is asked may change the disk
    generalize (disk.present (path base)).run d' = found at hpresent hread ⊢
    obtain ⟨found, d₂⟩ := found
    obtain rfl : found = true := hpresent
    change ((disk.read (path base) >>= _ : StateM σ _).run d₂).1 = _
    rw [StateT.run_bind]
    dsimp only at hread
    generalize (disk.read (path base)).run d₂ = read at hread ⊢
    obtain ⟨r, d₃⟩ := read
    obtain rfl : r = .ok s.toText := hread
    rfl
  rw [hload, ofText_toText_eq_ok]

end SavedSession

/-! ### All records -/

/-- **Records are read back.**

* A message is read from its text if and only if its time is one of the calendar, whatever its texts
  are, and a summary if and only if its numbers are within range.
* A session is saved exactly if its directory is there, or is missing and made first, and its file is
  written then. On a disk that keeps what is written it is loaded for what it was, whatever the disk
  held before.
* A question is sent as an object with its text, and with the number of its conversation and with its
  persona where it has them, and nothing else. -/
theorem records_read_back :
    (∀ m : Message, Json.decode Message.decoder m.toJson.render = .ok m ↔ m.createdAt.IsDated) ∧
    (∀ c : Summary, Json.decode Summary.decoder c.toJson.render = .ok c ↔ c.IsRanged) ∧
    (∀ (σ : Type) (disk : Disk (StateM σ)) (base : String) (s : SavedSession) (d d' : σ),
      (SavedSession.Saves disk base s d d' ↔ ∃ d₁, SavedSession.Ready disk base d d₁ ∧
        (disk.write (SavedSession.path base) s.toText).run d₁ = (.ok (), d')) ∧
      (disk.Keeps → SavedSession.Saves disk base s d d' →
        (((SavedSession.load disk base).run d').1 = .ok s ↔ IsNumbered s.conversation))) ∧
    ∀ q : Question, IsNumbered q.conversation →
      Json.parse q.toJson.render = .ok (.object q.fields) :=
  ⟨fun _ => Message.decode_render_eq_ok, fun _ => Summary.decode_render_eq_ok,
    fun _ _ _ _ _ _ => ⟨SavedSession.saves_iff, SavedSession.load_run_of_saves⟩,
    fun _ => Question.parse_render⟩

/-- A message of a year with five digits is read back, and one whose time runs on past the first second
of 1970 is not; a summary is, with the greatest numbers that there are; a session is loaded that was
saved where nothing is; and a question without a persona is sent without one. -/
theorem records_read_back_first :
    let m : Message := ⟨"1-agent-0", .agent, "\"a\\\n\t\u0001é", some "<p>/</p>",
      ⟨568971820800, 1⟩, ["", "b"]⟩
    let late : Message := { m with createdAt := ⟨0, 1000000000⟩ }
    let c : Summary := ⟨9223372036854775807, some "", some 4294967295, none, some "x"⟩
    let s : SavedSession := ⟨some (-9223372036854775808)⟩
    let q : Question := ⟨"why?", some 7, none⟩
    Json.decode Message.decoder m.toJson.render = .ok m ∧
      Json.decode Message.decoder late.toJson.render ≠ .ok late ∧
      Json.decode Summary.decoder c.toJson.render = .ok c ∧
      (∃ t, SavedSession.Saves Tree.disk "home/me" s Tree.empty t ∧
        ((SavedSession.load Tree.disk "home/me").run t).1 = .ok s) ∧
      Json.parse q.toJson.render =
        .ok (.object [("conversation_id", .number (.integer 7)), ("query", .string "why?")]) := by
  intro m late c s q
  obtain ⟨hmessage, hsummary, hsession, hquestion⟩ := records_read_back
  refine ⟨(hmessage m).mpr ⟨by decide +kernel, by decide⟩, fun h => ?_,
    (hsummary c).mpr ⟨by decide, fun n hn => ?_⟩, ?_, hquestion q fun i hi => ?_⟩
  · exact absurd ((hmessage late).mp h).proper (by decide)
  · cases hn
    decide
  · let t : Tree := ⟨[(["home", "me"], .directory), (["home"], .directory)]⟩
    have hpath : SavedSession.path "home/me" = "home/me/session.json" := by decide +kernel
    have hplace : t.place (SavedSession.path "home/me") = .ok ["home", "me", "session.json"] := by
      rw [hpath]
      rfl
    have hslash : (Tree.partsOf (SavedSession.path "home/me")).2 = false := by
      rw [hpath]
      decide +kernel
    have hsaves := (hsession Tree Tree.disk "home/me" s Tree.empty _).1.mpr
      ⟨t, .made rfl rfl, Tree.changing_run.mpr (Tree.write_new hplace rfl rfl hslash)⟩
    have hload := (hsession Tree Tree.disk "home/me" s Tree.empty _).2 Tree.keeps hsaves
    refine ⟨_, hsaves, hload.mpr fun i hi => ?_⟩
    cases hi
    decide
  · cases hi
    decide

end Parley
