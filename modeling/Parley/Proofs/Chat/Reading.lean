import Parley.Chat.History

/-!
# What is read of a reply

Nothing is asked of a reply's fields when it is taken apart, they may be missing, null or of any
type, so what a reply says depends on a few tolerant readings. This file says what they come to, in
terms of the object the reply was made of. A field that is null is everywhere as good as none.
-/

namespace Parley

open Json (Value)

/-- What an error that a reply holds says: a text as it is, and of anything else the text under
`message`, or all of it as it is written. -/
def Json.Value.complaint : Value → String
  | .string s => s
  | v => ((v.get? "message").bind (·.text?)).getD v.render

namespace Reply

variable {fs : List (String × Value)} {key text reason : String}

theorem presentIn_eq_some_iff {v : Value} :
    presentIn fs key = some v ↔ Value.lookup key fs = some v ∧ v ≠ .null := by
  unfold presentIn
  split
  · rename_i h
    rw [h]
    constructor
    · nofun
    · rintro ⟨hv, hne⟩
      exact absurd (Option.some.inj hv).symm hne
  · rename_i h
    exact ⟨fun hv => ⟨hv, fun hnull => h (hv.trans (congrArg some hnull))⟩, And.left⟩

theorem linesIn_presentIn (fs : List (String × Value)) (key : String) :
    linesIn (presentIn fs key) = linesIn (Value.lookup key fs) := by
  unfold presentIn
  split
  · rename_i h
    rw [h]
    rfl
  · rfl

theorem titlesIn_presentIn (fs : List (String × Value)) (key : String) :
    titlesIn (presentIn fs key) = titlesIn (Value.lookup key fs) := by
  unfold presentIn
  split
  · rename_i h
    rw [h]
    rfl
  · rfl

/-- **A reply has a text if its message is a string that is not empty**. -/
theorem text?_ofFields : (ofFields fs).text? = some text ↔
    Value.lookup "message" fs = some (.string text) ∧ text ≠ "" := by
  have hmessage : (ofFields fs).message = presentIn fs "message" := rfl
  unfold text?
  split
  · rename_i s h
    rw [hmessage, presentIn_eq_some_iff] at h
    rw [h.1]
    split
    · rename_i hempty
      rw [String.isEmpty_iff] at hempty
      constructor
      · nofun
      · rintro ⟨hs, hne⟩
        cases hs
        exact absurd hempty hne
    · rename_i hempty
      constructor
      · rintro ⟨⟩
        exact ⟨rfl, fun hs => hempty (String.isEmpty_iff.mpr hs)⟩
      · rintro ⟨⟨⟩, -⟩
        rfl
  · rename_i h
    constructor
    · nofun
    · rintro ⟨hs, -⟩
      exact absurd (hmessage.trans (presentIn_eq_some_iff.mpr ⟨hs, nofun⟩)) (h text)

/-- **A reply reports an error if its error is not null**. -/
theorem error?_ofFields : (ofFields fs).error? = some reason ↔
    ∃ v, Value.lookup "error" fs = some v ∧ v ≠ .null ∧ v.complaint = reason := by
  have herror : (ofFields fs).error = presentIn fs "error" := rfl
  simp only [← and_assoc, ← presentIn_eq_some_iff, ← herror]
  unfold error?
  split
  · rename_i h
    rw [h]
    exact ⟨nofun, nofun⟩
  · rename_i h
    rw [herror, presentIn_eq_some_iff] at h
    exact absurd rfl h.2
  · rename_i s h
    rw [h]
    constructor
    · exact fun hs => ⟨_, rfl, Option.some.inj hs⟩
    · rintro ⟨v, ⟨⟩, hs⟩
      exact congrArg some hs
  · rename_i v _ hstring h
    rw [h]
    have hv : v.complaint = ((v.get? "message").bind (·.text?)).getD v.render := by
      unfold Json.Value.complaint
      split
      · exact absurd rfl (hstring _)
      · rfl
    rw [← hv]
    constructor
    · exact fun hs => ⟨_, rfl, Option.some.inj hs⟩
    · rintro ⟨w, ⟨⟩, hs⟩
      exact congrArg some hs

end Reply

end Parley
