import Parley.Proofs.Chat.Publishing

/-!
# Refs and the artifacts they are of

The items of a reply's artifacts are read twice. One reading makes artifacts of those that are
objects, and calls an artifact *Untitled* whose object has no title. The other collects the refs of
the message: the strings among the items, and the titles of the objects, but of an object only if it
has one.

So the two do not differ in what they take for a title, and each ref that is not a string of its own
is the title of an artifact that is there, in the same order (`Parley.Reply.sublist_borrowed`). What
they differ in is the artifact without a title, which has no ref at all.
-/

namespace Parley

open Json (Value)

namespace Json.Value

/-- A value is a string. -/
def isString : Value → Bool
  | .string _ => true
  | _ => false

/-- The title a value has, as an object. -/
def title? (v : Value) : Option String := (v.get? "title").bind (·.text?)

end Json.Value

/-- What an item of a reply's artifacts is referred to by. -/
def Artifact.refOf? : Value → Option String
  | .string s => some s
  | v => v.title?

namespace Reply

variable (r : Reply) (s : Supply)

/-- The items of a reply's artifacts. -/
def items : List Value :=
  match r.artifacts with
  | some (.array vs) => vs
  | _ => []

/-- The refs of a reply, each with the item it comes from. -/
def sources : List (Value × String) :=
  r.items.filterMap fun v => (Artifact.refOf? v).map (v, ·)

/-- The refs of a reply but for those that come from strings. -/
def borrowed : List String := (r.sources.filter (! ·.1.isString)).map Prod.snd

/-- The titles of a reply's artifacts. -/
def titles : List String := (r.artifactList s).1.map (·.title)

/-- The refs are those that come from the items, one after the other. -/
theorem map_snd_sources : r.sources.map Prod.snd = r.refs := by
  have hitems : ∀ vs : List Value, (vs.filterMap fun v =>
      (Artifact.refOf? v).map (v, ·)).map Prod.snd = titlesIn (some (.array vs)) := by
    intro vs
    rw [List.map_filterMap, titlesIn]
    congr 1
    funext v
    cases v <;> simp [Artifact.refOf?, Value.title?, Value.get?, Function.comp_def]
  rw [sources, items, refs]
  split
  · rename_i h
    rw [hitems, h]
  · rename_i h
    have hnone : titlesIn r.artifacts = [] := by
      unfold titlesIn
      split
      · rename_i h'
        exact absurd h' (h _)
      · rfl
    rw [hnone]
    rfl

theorem objects_eq_filter_items : r.objects = r.items.filter Value.isObject := by
  unfold objects items
  cases r.artifacts with
  | none => rfl
  | some v => cases v <;> rfl

/-- **The refs that do not come from strings are the titles of the objects that have one.** -/
theorem borrowed_eq : r.borrowed = r.objects.filterMap Value.title? := by
  rw [objects_eq_filter_items, borrowed, sources]
  induction r.items with
  | nil => rfl
  | cons v vs ih =>
    cases v with
    | object fs =>
      cases h : (Value.object fs).title? with
      | none =>
        have href : Artifact.refOf? (.object fs) = none := h
        rw [List.filterMap_cons_none (by rw [href]; rfl), ih]
        exact (List.filterMap_cons_none h).symm
      | some title =>
        have href : Artifact.refOf? (.object fs) = some title := h
        rw [List.filterMap_cons_some (by rw [href]; rfl)]
        exact (congrArg (title :: ·) ih).trans (List.filterMap_cons_some h).symm
    | null | bool | number | string | array => exact ih

/-- **The artifacts are named after the objects**, each after its own, and one after which nothing can
be named is untitled. -/
theorem forall₂_title : List.Forall₂ (fun v x => x.title = v.title?.getD "Untitled") r.objects
    (r.artifactList s).1 := by
  refine (r.forall₂_artifactList s).imp ?_
  rintro v x ⟨s', -, hx⟩
  unfold Artifact.ofWire? at hx
  split at hx
  · cases hx
    simp only [Artifact.firstText, List.findSome?_singleton]
    rfl
  · cases hx

theorem titles_eq : r.titles s = r.objects.map fun v => v.title?.getD "Untitled" := by
  have h : List.Forall₂ (· = ·) (r.titles s) (r.objects.map fun v => v.title?.getD "Untitled") := by
    rw [titles, List.forall₂_map_left_iff, List.forall₂_map_right_iff]
    exact (r.forall₂_title s).flip
  rwa [List.forall₂_eq_eq_eq] at h

/-- **No ref is of an artifact that is not there**: those that do not come from strings are the titles
of some of the artifacts, in the same order. -/
theorem sublist_borrowed : r.borrowed.Sublist (r.titles s) := by
  have h : ∀ vs : List Value, vs.filterMap Value.title? =
      (vs.filter (·.title?.isSome)).map fun v => v.title?.getD "Untitled" := by
    intro vs
    induction vs with
    | nil => rfl
    | cons v vs ih =>
      cases hv : v.title? with
      | none => rw [List.filterMap_cons_none hv, List.filter_cons_of_neg (by simp [hv]), ih]
      | some title =>
        rw [List.filterMap_cons_some hv, List.filter_cons_of_pos (by simp [hv]), List.map_cons, hv,
          ih]
        rfl
  rw [borrowed_eq, titles_eq, h]
  exact List.filter_sublist.map _

/-- **Every artifact has a ref exactly if every object has a title.** -/
theorem borrowed_eq_titles_iff : r.borrowed = r.titles s ↔ ∀ v ∈ r.objects, v.title?.isSome := by
  rw [borrowed_eq, titles_eq, List.filterMap_eq_map_iff_forall_eq_some]
  refine forall₂_congr fun v _ => ?_
  cases v.title? <;> simp

end Reply

namespace Pipeline

/-- **What is delivered** has the refs of the reply, and brings its artifacts. -/
theorem titles_of_receive {p : Pipeline} {g : Nat} {r : Reply} {s : Supply} {m : Message}
    {as : List Artifact} {adopted : Option Int}
    (h : (p.receive g (.ok r) s).2.1 = .delivered m as adopted) :
    m.refs = r.refs ∧ as.map (·.title) = r.titles s := by
  unfold receive at h
  split at h
  · cases h
  · cases htext : r.text? with
    | some text =>
      simp only [interpret, htext] at h
      cases h
      refine ⟨rfl, ?_⟩
      change r.titles { s with serial := s.serial + 1 } = r.titles s
      rw [Reply.titles_eq, Reply.titles_eq]
    | none =>
      cases herror : r.error? with
      | some | none =>
        simp only [interpret, htext, herror] at h
        cases h

end Pipeline

namespace Reply

/-- **Which artifacts have a ref.** The refs of a reply are the strings among the items of its
artifacts and the titles of the objects. So those that do not come from strings are the titles of the
artifacts, in their order and none of another, but without the artifacts that are only called
*Untitled*; and there are no such exactly if the two are the same. What is delivered of a reply is a
message with these refs, and these artifacts. -/
theorem refs_of_artifacts (r : Reply) (s : Supply) :
    r.sources.map Prod.snd = r.refs ∧
    List.Forall₂ (fun v x => x.title = v.title?.getD "Untitled") r.objects (r.artifactList s).1 ∧
    r.borrowed = r.objects.filterMap Value.title? ∧
    r.borrowed.Sublist (r.titles s) ∧
    (r.borrowed = r.titles s ↔ ∀ v ∈ r.objects, v.title?.isSome) ∧
    (∀ (p : Pipeline) (g : Nat) (m : Message) (as : List Artifact) (adopted : Option Int),
      (p.receive g (.ok r) s).2.1 = .delivered m as adopted →
        m.refs = r.refs ∧ as.map (·.title) = r.titles s) :=
  ⟨r.map_snd_sources, r.forall₂_title s, r.borrowed_eq, r.sublist_borrowed s,
    r.borrowed_eq_titles_iff s, fun _ _ _ _ _ h => Pipeline.titles_of_receive h⟩

/-- A reply with a titled object and a string is delivered: the object's title is the one ref that
does not come from a string, and the title of the one artifact. -/
theorem refs_of_artifacts_of_titled :
    let r : Reply := ofFields [("artifacts", .array [.object [("title", .string "Map")],
      .string "Note"]), ("message", .string "Hi")]
    ∃ m as adopted, (Pipeline.receive {} 0 (.ok r) default).2.1 = .delivered m as adopted ∧
      m.refs = ["Map", "Note"] ∧ as.map (·.title) = ["Map"] ∧ r.borrowed = ["Map"] := by
  intro r
  obtain ⟨-, -, -, -, hsame, hdelivered⟩ := refs_of_artifacts r default
  have htitles : r.titles default = ["Map"] := rfl
  obtain ⟨hrefs, has⟩ := hdelivered {} 0 _ _ _ rfl
  exact ⟨_, _, _, rfl, hrefs, has.trans htitles, (hsame.mpr (by decide)).trans htitles⟩

/-- **An artifact without a title has no ref.** An artifact arrives that is put into the store as
*Untitled*, with a message that does not name it. -/
theorem borrowed_ne_titles_of_untitled :
    let body := "\x7b\"message\":\"x\",\"artifacts\":[\x7b\"id\":\"a\"\x7d]\x7d"
    ((ofBody body).toOption.map fun r => (r.text?, r.refs, r.borrowed, r.titles default)) =
        some (some "x", [], [], ["Untitled"]) ∧
      ¬ ∀ (r : Reply) (s : Supply), r.borrowed = r.titles s := by
  refine ⟨by decide +kernel, fun h => ?_⟩
  have hborrowed := h (ofFields [("artifacts", .array [.object [("id", .string "a")]])]) default
  cases hborrowed

end Reply

end Parley
