import Parley.Chat.History
import Parley.Proofs.Text.Decimal

/-!
# No name is given twice

The name of a message that arrives without one is made of a time, a role and a serial number, and
neither the time nor the role keeps names apart: a clock may stand still or be set back, and before
1970 the time itself begins with a dash. But no dash is in the digits of the serial number, so it is
what is behind the last dash of the name (`Parley.Supply.serial_of_messageName`), and every name
that is drawn has a number of its own.

Messages are made one after the other (`Parley.MadeInTurn`), and in between anything may happen to the
clock and to the other names that are drawn. The entries of a conversation that is loaded are made so
too, in one go (`Parley.MadeInTurn.toMessages`). A step draws the serial number at which it stands
(`Parley.Maker.drawn_of_isNaming`), so in a run all numbers that were drawn lie between its two ends
(`Parley.MadeInTurn.drawn`), and those of its rest are behind the first one (`Parley.names_differ`).
-/

namespace Parley

open Time
open Json (Value)

/-! ### Names and their serial numbers -/

namespace Supply

variable {time time' : Instant} {role role' : Role} {n n' : Nat}

theorem dash_not_mem_decimal (n : Nat) : '-' ∉ Text.decimal n := by
  intro h
  cases Text.isDigit_of_mem_decimal h

/-- What is behind the last dash of a text is told by the text. -/
theorem eq_of_append_dash {front front' digits digits' : List Char} (hdigits : '-' ∉ digits)
    (hdigits' : '-' ∉ digits') (h : front ++ '-' :: digits = front' ++ '-' :: digits') :
    digits = digits' := by
  rcases List.append_eq_append_iff.mp h with ⟨between, -, h⟩ | ⟨between, -, h⟩
  · cases between with
    | nil => exact (List.cons.inj h).2
    | cons c between =>
      obtain ⟨-, rfl⟩ := List.cons.inj h
      exact absurd (List.mem_append_right _ List.mem_cons_self) hdigits
  · cases between with
    | nil => exact (List.cons.inj h).2.symm
    | cons c between =>
      obtain ⟨-, rfl⟩ := List.cons.inj h
      exact absurd (List.mem_append_right _ List.mem_cons_self) hdigits'

/-- **The serial number is told by the name**, whatever the times and the roles. -/
theorem serial_of_messageName (h : messageName time role n = messageName time' role' n') :
    n = n' := by
  have hchars := String.ofList_injective h
  have hdigits := eq_of_append_dash (dash_not_mem_decimal n) (dash_not_mem_decimal n') hchars
  rw [← Text.digitsValue_decimal n, hdigits, Text.digitsValue_decimal]

end Supply

/-! ### Who makes messages -/

/-- What a message is made of. -/
inductive Maker where
  /-- What the user typed. -/
  | user (content : String)
  /-- What the assistant answered, with the titles of the artifacts that came along. -/
  | agent (content : String) (refs : List String)
  /-- An entry of a saved conversation. -/
  | entry (e : HistoryEntry)

/-- **A field gives no name**: it is missing or null, an empty string, or neither a string nor a
number. -/
inductive IsNameless : Option Value → Prop
  | absent : IsNameless none
  | null : IsNameless (some .null)
  | empty : IsNameless (some (.string ""))
  | bool (b : Bool) : IsNameless (some (.bool b))
  | array (items : List Value) : IsNameless (some (.array items))
  | object (fields : List (String × Value)) : IsNameless (some (.object fields))

theorem givenId?_eq_none {v : Option Value} : Artifact.givenId? v = none ↔ IsNameless v := by
  constructor
  · intro h
    match v with
    | none => exact .absent
    | some .null => exact .null
    | some (.bool b) => exact .bool b
    | some (.array items) => exact .array items
    | some (.object fields) => exact .object fields
    | some (.number n) => cases h
    | some (.string s) =>
      simp only [Artifact.givenId?, ite_eq_left_iff, reduceCtorEq, imp_false, not_not,
        String.isEmpty_iff] at h
      exact h ▸ .empty
  · rintro (_ | _ | _ | _ | _ | _) <;> rfl

namespace Maker

/-- The message that is made, and what is left to draw names from. -/
def make : Maker → Supply → Message × Supply
  | user content => Message.user content
  | agent content refs => Message.agent content refs
  | entry e => e.toMessage

/-- **A name is drawn**: for everything that is said, and for an entry that gives none. -/
inductive IsNaming : Maker → Prop
  | user (content : String) : IsNaming (.user content)
  | agent (content : String) (refs : List String) : IsNaming (.agent content refs)
  | entry (e : HistoryEntry) (h : IsNameless e.id) : IsNaming (.entry e)

variable {k : Maker} {s : Supply}

/-- **A name that is drawn has the serial number that was next**, and that number is used up. -/
theorem drawn_of_isNaming (h : k.IsNaming) (s : Supply) :
    (∃ time role, (k.make s).1.id = Supply.messageName time role s.serial) ∧
      (k.make s).2.serial = s.serial + 1 := by
  rcases h with content | ⟨content, refs⟩ | ⟨e, hid⟩
  · exact ⟨⟨s.now, .user, rfl⟩, rfl⟩
  · exact ⟨⟨s.now, .agent, rfl⟩, rfl⟩
  · rw [make, HistoryEntry.toMessage, givenId?_eq_none.mpr hid]
    exact ⟨⟨e.time?.getD s.now, e.author, rfl⟩, rfl⟩

/-- No serial number is given back. -/
theorem serial_le (k : Maker) (s : Supply) : s.serial ≤ (k.make s).2.serial := by
  cases k with
  | user content => exact Nat.le_succ _
  | agent content refs => exact Nat.le_succ _
  | entry e =>
    rw [make, HistoryEntry.toMessage]
    dsimp only
    split
    · exact Nat.le_refl _
    · exact Nat.le_succ _

end Maker

/-! ### Runs -/

/-- **Messages are made one after the other.** In between, the clock may be set to any time and
other names may be drawn, as long as no serial number is given back. -/
inductive MadeInTurn : Supply → List (Maker × Message) → Supply → Prop
  | none (s : Supply) : MadeInTurn s [] s
  | pass {s s₁ s' : Supply} {made : List (Maker × Message)} (hle : s.serial ≤ s₁.serial)
      (rest : MadeInTurn s₁ made s') : MadeInTurn s made s'
  | next {s s' : Supply} {made : List (Maker × Message)} (k : Maker)
      (rest : MadeInTurn (k.make s).2 made s') : MadeInTurn s ((k, (k.make s).1) :: made) s'

namespace MadeInTurn

variable {s s' : Supply} {made : List (Maker × Message)} {x : Maker × Message}

theorem serial_le (h : MadeInTurn s made s') : s.serial ≤ s'.serial := by
  induction h with
  | none s => exact Nat.le_refl _
  | pass hle _ ih => exact Nat.le_trans hle ih
  | next k _ ih => exact Nat.le_trans (k.serial_le _) ih

/-- **Every name that is drawn in a run has a serial number from between its two ends.** -/
theorem drawn (h : MadeInTurn s made s') (hx : x ∈ made) (hnaming : x.1.IsNaming) :
    ∃ time role n, s.serial ≤ n ∧ n < s'.serial ∧ x.2.id = Supply.messageName time role n := by
  induction h with
  | none s => cases hx
  | pass hle _ ih =>
    obtain ⟨time, role, n, hn, hn', hid⟩ := ih hx
    exact ⟨time, role, n, Nat.le_trans hle hn, hn', hid⟩
  | @next s s' made k rest ih =>
    rcases List.mem_cons.mp hx with rfl | hx
    · obtain ⟨⟨time, role, hid⟩, hserial⟩ := Maker.drawn_of_isNaming (k := k) hnaming s
      refine ⟨time, role, s.serial, Nat.le_refl _, ?_, hid⟩
      have hle := rest.serial_le
      omega
    · obtain ⟨time, role, n, hn, hn', hid⟩ := ih hx
      exact ⟨time, role, n, Nat.le_trans (k.serial_le s) hn, hn', hid⟩

/-- The entries of a conversation are made into messages one after the other. -/
theorem toMessages (es : List HistoryEntry) (s : Supply) :
    ∃ made, MadeInTurn s made (HistoryEntry.toMessages es s).2 ∧
      made.map (·.1) = es.map .entry ∧ made.map (·.2) = (HistoryEntry.toMessages es s).1 := by
  induction es generalizing s with
  | nil => exact ⟨[], .none s, rfl, rfl⟩
  | cons e es ih =>
    obtain ⟨made, hmade, hmakers, hmessages⟩ := ih (e.toMessage s).2
    refine ⟨(.entry e, (e.toMessage s).1) :: made, .next (.entry e) hmade, ?_, ?_⟩
    · rw [List.map_cons, hmakers, List.map_cons]
    · rw [List.map_cons, hmessages]
      rfl

end MadeInTurn

/-- **No name is drawn twice in a run.** Of the messages that are made one after the other, whatever
the clock shows at each of them, any two for which a name is drawn have different ones: what was
typed, what was answered, and every entry that gives no name of its own. -/
theorem names_differ {s s' : Supply} {made : List (Maker × Message)} (h : MadeInTurn s made s') :
    made.Pairwise fun x y => x.1.IsNaming → y.1.IsNaming → x.2.id ≠ y.2.id := by
  induction h with
  | none s => exact .nil
  | pass _ _ ih => exact ih
  | @next s s' made k rest ih =>
    refine .cons (fun y hy hk hnaming hid => ?_) ih
    obtain ⟨⟨time, role, hdrawn⟩, hserial⟩ := Maker.drawn_of_isNaming (k := k) hk s
    obtain ⟨time', role', n, hn, -, hdrawn'⟩ := rest.drawn hy hnaming
    -- The first number was used up before any of the others was drawn.
    have hsame : s.serial = n := Supply.serial_of_messageName (hdrawn.symm.trans (hid.trans hdrawn'))
    omega

/-- The clock is set back to before 1970 between two messages, and an entry with nothing for a name
follows at the same time. -/
theorem names_differ_set_back :
    MadeInTurn ⟨⟨5, 0⟩, 8, 0⟩
        [(.user "hi", (Message.user "hi" ⟨⟨5, 0⟩, 8, 0⟩).1),
          (.user "hi", (Message.user "hi" ⟨⟨-5, 0⟩, 9, 0⟩).1),
          (.entry { id := some (.string ""), role := some "user" },
            (HistoryEntry.toMessage { id := some (.string ""), role := some "user" }
              ⟨⟨-5, 0⟩, 10, 0⟩).1)] ⟨⟨-5, 0⟩, 11, 0⟩ ∧
      (Message.user "hi" ⟨⟨-5, 0⟩, 9, 0⟩).1.id ≠
        (HistoryEntry.toMessage { id := some (.string ""), role := some "user" }
          ⟨⟨-5, 0⟩, 10, 0⟩).1.id := by
  have hlate : MadeInTurn ⟨⟨-5, 0⟩, 9, 0⟩ [(.user "hi", _), (.entry _, _)] _ :=
    .next (.user "hi") (.next (.entry { id := some (.string ""), role := some "user" }) (.none _))
  have hmakes : MadeInTurn ⟨⟨5, 0⟩, 8, 0⟩ ((.user "hi", _) :: _) _ :=
    .next (.user "hi") (.pass (by decide) hlate)
  refine ⟨hmakes, ?_⟩
  obtain ⟨-, hrest⟩ := List.pairwise_cons.mp (names_differ hmakes)
  exact (List.pairwise_cons.mp hrest).1 _ List.mem_cons_self (.user "hi") (.entry _ .empty)

end Parley
