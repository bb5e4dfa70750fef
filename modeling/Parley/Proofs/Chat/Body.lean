import Parley.Proofs.Chat.Failing
import Parley.Proofs.Chat.Reading
import Parley.Proofs.Json.Fields
import Parley.Proofs.Json.Text

/-!
# What the body of a response says

A body is read four times over, and each reading has its own idea of what is missing: as JSON text,
for which `null` is a value as any other; for one of two keys, whatever is under them; field by field,
where null is as good as nothing; and for a message or an error, where a text may be empty and a
message may be no text. This file says what they come to together, in terms of the fields of the body
as they are written (`Parley.Json.IsObject`), of which the last one counts that has the key.

A body has something to say if it has a message that is a string and not empty (`Parley.Reply.Says`),
and it complains if it has an error that is not null (`Parley.Reply.Complains`). Whether it is of use
depends on nothing else (`Parley.Reply.judged_ofBody`).
-/

namespace Parley

open Json (IsObject Value maxDepth)

namespace Reply

variable {room : Nat} {body key text reason : String} {v : Value} {fs gs : List (String × Value)}
  {f : Failure} {r : Reply}

/-! ### Field by field -/

/-- Fields of which each has another key, none of them seen before, are not refused. -/
theorem checkKeys_eq_ok {seen : List String} (hnodup : (fs.map Prod.fst).Nodup)
    (hseen : ∀ key ∈ fs.map Prod.fst, key ∉ seen) : checkKeys seen fs = .ok () := by
  induction fs generalizing seen with
  | nil => rfl
  | cons f fs ih =>
    obtain ⟨key, v⟩ := f
    rw [List.map_cons, List.nodup_cons] at hnodup
    obtain ⟨hnew, hnodup⟩ := hnodup
    rw [List.map_cons, List.forall_mem_cons] at hseen
    obtain ⟨hkey, hseen⟩ := hseen
    rw [checkKeys]
    split
    · rw [if_neg (by simpa using hkey)]
      refine ih hnodup fun k hk => ?_
      rw [List.mem_cons, not_or]
      exact ⟨by rintro rfl; exact hnew hk, hseen k hk⟩
    · exact ih hnodup hseen

/-- **The fields of an object that was read always make a reply.** -/
theorem ofObject_of_parse (h : Json.parse body = .ok (.object gs)) :
    ofObject gs = .ok (ofFields gs) := by
  obtain ⟨fs, -, rfl⟩ := Json.isText_object.mp (Json.parse_eq_ok.mp h)
  rw [ofObject, checkKeys_eq_ok (Value.nodup_sortFields fs) fun _ _ => List.not_mem_nil]
  rfl

/-! ### What is read of a body -/

/-- **A body has a value under a key**: it is an object, nested no deeper than there is room, and the
last field with the key has the value. -/
def Has (room : Nat) (body key : String) (v : Value) : Prop :=
  ∃ fs, IsObject room body fs ∧ Value.lookup key fs.reverse = some v

/-- **A body says something**: its message is a string and not empty. -/
def Says (room : Nat) (body text : String) : Prop :=
  Has room body "message" (.string text) ∧ text ≠ ""

/-- **A body complains**: it has an error that is not null. -/
def Complains (room : Nat) (body reason : String) : Prop :=
  ∃ v, Has room body "error" v ∧ v ≠ .null ∧ v.complaint = reason

/-- What is found in the fields that are read is what the body has. -/
theorem has_iff : Has room body key v ↔ ∃ gs,
    Json.whole (Json.value room) body = .ok (.object gs) ∧ Value.lookup key gs = some v := by
  simp only [Json.whole_value_eq_ok, Json.isText_object]
  constructor
  · rintro ⟨fs, hfs, hv⟩
    exact ⟨_, ⟨fs, hfs, rfl⟩, by rw [Value.lookup_sortFields, hv]⟩
  · rintro ⟨_, ⟨fs, hfs, rfl⟩, hv⟩
    exact ⟨fs, hfs, by rw [← Value.lookup_sortFields, hv]⟩

theorem has_of_parse (h : Json.parse body = .ok (.object gs)) :
    Has maxDepth body key v ↔ Value.lookup key gs = some v := by
  have h : Json.whole (Json.value maxDepth) body = .ok (.object gs) := h
  rw [has_iff, h]
  simp only [Except.ok.injEq, Value.object.injEq, exists_eq_left']

/-- There is one value under a key. -/
theorem Has.unique {w : Value} (h : Has room body key v) (h' : Has room body key w) : v = w := by
  obtain ⟨gs, hgs, hv⟩ := has_iff.mp h
  obtain ⟨gs', hgs', hw⟩ := has_iff.mp h'
  cases hgs.symm.trans hgs'
  exact Option.some.inj (hv.symm.trans hw)

theorem Complains.unique {reason' : String} (h : Complains room body reason)
    (h' : Complains room body reason') : reason = reason' := by
  obtain ⟨v, hv, -, rfl⟩ := h
  obtain ⟨w, hw, -, rfl⟩ := h'
  rw [hv.unique hw]

/-- Whether a body has a text can be told by reading it. -/
theorem has_string_iff : Has room body key (.string text) ↔
    ((Json.whole (Json.value room) body).toOption.bind (·.get? key)).bind (·.text?) = some text := by
  rw [has_iff]
  cases Json.whole (Json.value room) body with
  | error e =>
    constructor
    · rintro ⟨gs, h, -⟩
      cases h
    · intro h
      cases h
  | ok w =>
    cases w with
    | object gs =>
      simp only [Except.ok.injEq, Value.object.injEq, exists_eq_left', Except.toOption,
        Option.bind_some, Value.get?]
      cases Value.lookup key gs with
      | none => simp
      | some v => cases v <;> simp [Value.text?]
    | null | bool | number | string | array =>
      constructor
      · rintro ⟨gs, h, -⟩
        cases h
      · intro h
        cases h

/-- What comes of a body that is an object. -/
theorem ofBody_of_parse (h : Json.parse body = .ok (.object gs)) : ofBody body =
    if (Value.lookup "message" gs).isSome || (Value.lookup "error" gs).isSome then .ok (ofFields gs)
    else .error (.malformed "reply has neither message nor error") := by
  rw [ofBody, h]
  dsimp only
  rw [ofObject_of_parse h]
  rfl

/-- A body that is read as a reply is an object. -/
theorem parse_of_ofBody (h : ofBody body = .ok r) :
    ∃ gs, Json.parse body = .ok (.object gs) ∧ ofFields gs = r := by
  cases hparse : Json.parse body with
  | error e =>
    rw [ofBody, hparse] at h
    cases h
  | ok v =>
    cases v with
    | object gs =>
      rw [ofBody_of_parse hparse] at h
      split at h <;> cases h
      exact ⟨gs, rfl, rfl⟩
    | null | bool | number | string | array =>
      rw [ofBody, hparse] at h
      cases h

/-- **A body is read as a reply exactly if it is an object with a message or an error**, whatever
those are. -/
theorem isOk_ofBody : (∃ r, ofBody body = .ok r) ↔
    ∃ v, Has maxDepth body "message" v ∨ Has maxDepth body "error" v := by
  constructor
  · rintro ⟨r, h⟩
    obtain ⟨gs, hparse, -⟩ := parse_of_ofBody h
    rw [ofBody_of_parse hparse] at h
    simp only [has_of_parse hparse]
    split at h
    · rename_i hkeys
      rwa [Bool.or_eq_true, Option.isSome_iff_exists, Option.isSome_iff_exists, ← exists_or]
        at hkeys
    · cases h
  · rintro ⟨v, hv⟩
    obtain ⟨gs, hparse⟩ : ∃ gs, Json.parse body = .ok (.object gs) := by
      rcases hv with hv | hv <;> obtain ⟨gs, hparse, -⟩ := has_iff.mp hv <;> exact ⟨gs, hparse⟩
    rw [has_of_parse hparse, has_of_parse hparse] at hv
    refine ⟨ofFields gs, ?_⟩
    rw [ofBody_of_parse hparse]
    rcases hv with hv | hv <;> simp [hv]

/-- A body that is not read as a reply is malformed. -/
theorem malformed_of_ofBody (h : ofBody body = .error f) : ∃ reason, f = .malformed reason := by
  unfold ofBody at h
  split at h
  · cases h
    exact ⟨_, rfl⟩
  · split at h
    · cases hobject : ofObject _ <;> rw [hobject] at h <;> cases h
      exact ⟨_, rfl⟩
    · cases h
      exact ⟨_, rfl⟩
  · cases h
    exact ⟨_, rfl⟩

/-! ### Whether it is of use -/

/-- The text of a reply is what its body says. -/
theorem text?_of_ofBody (h : ofBody body = .ok r) : r.text? = some text ↔
    Says maxDepth body text := by
  obtain ⟨gs, hparse, rfl⟩ := parse_of_ofBody h
  rw [text?_ofFields, Says, has_of_parse hparse]

/-- The error of a reply is what its body complains of. -/
theorem error?_of_ofBody (h : ofBody body = .ok r) : r.error? = some reason ↔
    Complains maxDepth body reason := by
  obtain ⟨gs, hparse, rfl⟩ := parse_of_ofBody h
  simp only [error?_ofFields, Complains, has_of_parse hparse]

/-- What is judged of a body: that it is of use, or why not. -/
inductive Judged (body : String) : Option Failure → Prop
  | useful {text : String} (h : Says maxDepth body text) : Judged body none
  | complaint {reason : String} (hmessage : ∀ text, ¬ Says maxDepth body text)
      (h : Complains maxDepth body reason) : Judged body (some (.service reason))
  | useless {reason : String} (hmessage : ∀ text, ¬ Says maxDepth body text)
      (hcomplains : ∀ reason, ¬ Complains maxDepth body reason) :
      Judged body (some (.malformed reason))

/-- **Whether a body is of use**: if it says something; if not, it is a complaint, if it complains; and
anything else is malformed. -/
theorem judged_ofBody (body : String) : Judged body (Pipeline.refusal? (ofBody body)) := by
  cases h : ofBody body with
  | error f =>
    obtain ⟨reason, rfl⟩ := malformed_of_ofBody h
    have hnone : ¬ ∃ v, Has maxDepth body "message" v ∨ Has maxDepth body "error" v := fun hv => by
      obtain ⟨r, hr⟩ := isOk_ofBody.mpr hv
      cases h.symm.trans hr
    exact .useless (fun text hmessage => hnone ⟨_, .inl hmessage.1⟩)
      fun reason ⟨v, hv, _⟩ => hnone ⟨v, .inr hv⟩
  | ok r =>
    unfold Pipeline.refusal?
    dsimp only
    cases htext : r.text? with
    | some text => exact .useful ((text?_of_ofBody h).mp htext)
    | none =>
      have hmessage : ∀ text, ¬ Says maxDepth body text := fun text hmessage => by
        rw [← text?_of_ofBody h, htext] at hmessage
        cases hmessage
      cases herror : r.error? with
      | some reason => exact .complaint hmessage ((error?_of_ofBody h).mp herror)
      | none =>
        refine .useless hmessage fun reason hcomplains => ?_
        rw [← error?_of_ofBody h, herror] at hcomplains
        cases hcomplains

end Reply

end Parley
