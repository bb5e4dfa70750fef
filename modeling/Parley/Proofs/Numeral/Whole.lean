import Mathlib.Data.List.Basic
import Parley.Numeral.Whole
import Parley.Proofs.Text.Decimal

/-!
# What a text says that is read as a whole number

A reader of whole numbers adds digits one by one and gives up as soon as it leaves the range. That
is no loss: digits only take a number further from zero, so a number that lies in the range has lain
in it all the time. What is read is therefore what is *spelled*
(`Parley.Numeral.Spells`, `Parley.Numeral.readWhole_eq_ok`): an optional sign and some digits, with
any number of zeros in front.
-/

namespace Parley.Numeral

/-- A text spells a number: an optional sign, and one or more digits. -/
inductive Spells : List Char → Int → Prop
  | plain {ds : List Char} (hne : ds ≠ []) (hdigits : ∀ d ∈ ds, Text.isDigit d = true) :
      Spells ds (Text.digitsValue ds)
  | plus {ds : List Char} (hne : ds ≠ []) (hdigits : ∀ d ∈ ds, Text.isDigit d = true) :
      Spells ('+' :: ds) (Text.digitsValue ds)
  | minus {ds : List Char} (hne : ds ≠ []) (hdigits : ∀ d ∈ ds, Text.isDigit d = true) :
      Spells ('-' :: ds) (-Text.digitsValue ds)

/-- The number that digits denote behind others. -/
def appendDigits (n : Nat) (ds : List Char) : Nat :=
  ds.foldl (fun n d => n * 10 + Text.digitValue d) n

/-- A number, upwards or downwards. -/
def signed (down : Bool) (n : Nat) : Int := if down then -n else n

theorem le_appendDigits (n : Nat) (ds : List Char) : n ≤ appendDigits n ds := by
  induction ds generalizing n with
  | nil => exact Nat.le_refl n
  | cons d ds ih =>
    have h := ih (n * 10 + Text.digitValue d)
    simp only [appendDigits, List.foldl_cons] at h ⊢
    omega

theorem Range.holds_iff {r : Range} {i : Int} : r.holds i = true ↔ r.least ≤ i ∧ i ≤ r.greatest := by
  rw [Range.holds, Bool.and_eq_true, decide_eq_true_eq, decide_eq_true_eq]

/-- Whoever counts up or down has lain in the range all the time. -/
theorem Range.holds_signed {r : Range} (hr : r.holds 0 = true) {down : Bool} {m n : Nat}
    (hmn : m ≤ n) (hn : r.holds (signed down n) = true) : r.holds (signed down m) = true := by
  simp only [Range.holds, Bool.and_eq_true, decide_eq_true_eq] at *
  cases down with
  | false =>
    simp only [signed, Bool.false_eq_true, if_false] at *
    omega
  | true =>
    simp only [signed, if_true] at *
    omega

/-- **Digits are added as long as the range holds**: what comes of them is the number they denote
behind the digits before. -/
theorem addDigits_eq_ok {r : Range} (hr : r.holds 0 = true) {down : Bool} {n : Nat}
    {ds : List Char} {i : Int} : addDigits r down (signed down n) ds = .ok i ↔
      (∀ d ∈ ds, Text.isDigit d = true) ∧ i = signed down (appendDigits n ds) ∧
        (ds = [] ∨ r.holds i = true) := by
  induction ds generalizing n with
  | nil =>
    simp only [addDigits, appendDigits, List.foldl_nil, Except.ok.injEq, true_or, and_true]
    exact ⟨fun h => ⟨List.forall_mem_nil _, h.symm⟩, fun h => h.2.symm⟩
  | cons d ds ih =>
    have hnext : (if down then signed down n * 10 - (Text.digitValue d : Int)
        else signed down n * 10 + (Text.digitValue d : Int)) =
        signed down (n * 10 + Text.digitValue d) := by
      cases down with
      | false => simp [signed]
      | true =>
        simp only [signed, if_true]
        omega
    have happend : appendDigits n (d :: ds) = appendDigits (n * 10 + Text.digitValue d) ds := rfl
    simp only [addDigits, hnext, happend, List.forall_mem_cons, reduceCtorEq, false_or]
    cases hd : Text.isDigit d with
    | false => simp
    | true =>
      simp only [Bool.not_true, Bool.false_eq_true, if_false, true_and]
      split
      · rename_i hholds
        rw [ih]
        refine and_congr_right fun _ => and_congr_right ?_
        rintro rfl
        refine ⟨fun h => h.elim (fun hnil => ?_) id, .inr⟩
        rw [hnil]
        exact hholds
      · rename_i hholds
        refine iff_of_false nofun ?_
        rintro ⟨-, rfl, h⟩
        exact hholds (Range.holds_signed hr (le_appendDigits _ _) h)

/-- Digits without a sign, in either direction. -/
theorem addDigits_zero_eq_ok {r : Range} (hr : r.holds 0 = true) {down : Bool} {ds : List Char}
    (hne : ds ≠ []) {i : Int} : addDigits r down 0 ds = .ok i ↔
      (∀ d ∈ ds, Text.isDigit d = true) ∧ i = signed down (Text.digitsValue ds) ∧
        r.holds i = true := by
  have hzero : (0 : Int) = signed down 0 := by cases down <;> rfl
  rw [hzero, addDigits_eq_ok hr, or_iff_right hne]
  rfl

/-! ### How a text is read -/

section

variable {r : Range} {cs : List Char}

theorem readWhole_plus (hne : cs ≠ []) : readWhole r ('+' :: cs) = addDigits r false 0 cs := by
  cases cs with
  | nil => exact absurd rfl hne
  | cons c cs => rfl

theorem readWhole_minus (hne : cs ≠ []) (hr : r.least < 0) :
    readWhole r ('-' :: cs) = addDigits r true 0 cs := by
  cases cs with
  | nil => exact absurd rfl hne
  | cons c cs =>
    rw [readWhole, if_pos hr]
    exact nofun

theorem readWhole_minus_of_unsigned (hne : cs ≠ []) (hr : ¬ r.least < 0) :
    readWhole r ('-' :: cs) = .error .invalidDigit := by
  cases cs with
  | nil => exact absurd rfl hne
  | cons c cs =>
    rw [readWhole, if_neg hr]
    exact nofun

theorem readWhole_plain (hne : cs ≠ []) (hplus : cs.head? ≠ some '+')
    (hminus : cs.head? ≠ some '-') : readWhole r cs = addDigits r false 0 cs := by
  unfold readWhole
  split
  · exact absurd rfl hne
  · exact absurd rfl hplus
  · exact absurd rfl hminus
  · exact absurd rfl hplus
  · exact absurd rfl hminus
  · rfl

end

/-- A digit is not a sign. -/
theorem head?_ne_of_isDigit {ds : List Char} (hdigits : ∀ d ∈ ds, Text.isDigit d = true) {c : Char}
    (hc : Text.isDigit c = false) : ds.head? ≠ some c := by
  intro h
  cases hc.symm.trans (hdigits c (List.mem_of_head? h))

/-- **A whole number is read exactly where it is spelled**, and a minus sign only if the range holds
negative numbers. -/
theorem readWhole_eq_ok {r : Range} (hr : r.holds 0 = true) {cs : List Char} {i : Int} :
    readWhole r cs = .ok i ↔
      Spells cs i ∧ r.holds i = true ∧ (cs.head? = some '-' → r.least < 0) := by
  constructor
  · intro h
    by_cases hplus : cs.head? = some '+'
    · obtain ⟨ds, rfl⟩ := List.head?_eq_some_iff.mp hplus
      have hne : ds ≠ [] := by
        rintro rfl
        cases h
      rw [readWhole_plus hne, addDigits_zero_eq_ok hr hne] at h
      obtain ⟨hdigits, rfl, hholds⟩ := h
      exact ⟨.plus hne hdigits, hholds, nofun⟩
    · by_cases hminus : cs.head? = some '-'
      · obtain ⟨ds, rfl⟩ := List.head?_eq_some_iff.mp hminus
        have hne : ds ≠ [] := by
          rintro rfl
          cases h
        by_cases hsigned : r.least < 0
        · rw [readWhole_minus hne hsigned, addDigits_zero_eq_ok hr hne] at h
          obtain ⟨hdigits, rfl, hholds⟩ := h
          exact ⟨.minus hne hdigits, hholds, fun _ => hsigned⟩
        · rw [readWhole_minus_of_unsigned hne hsigned] at h
          cases h
      · have hne : cs ≠ [] := by
          rintro rfl
          cases h
        rw [readWhole_plain hne hplus hminus, addDigits_zero_eq_ok hr hne] at h
        obtain ⟨hdigits, rfl, hholds⟩ := h
        exact ⟨.plain hne hdigits, hholds, fun h => absurd h hminus⟩
  · rintro ⟨h, hholds, hsigned⟩
    cases h with
    | plain hne hdigits =>
      rw [readWhole_plain hne (head?_ne_of_isDigit hdigits rfl) (head?_ne_of_isDigit hdigits rfl)]
      exact (addDigits_zero_eq_ok hr hne).mpr ⟨hdigits, rfl, hholds⟩
    | plus hne hdigits =>
      rw [readWhole_plus hne]
      exact (addDigits_zero_eq_ok hr hne).mpr ⟨hdigits, rfl, hholds⟩
    | minus hne hdigits =>
      rw [readWhole_minus hne (hsigned rfl)]
      exact (addDigits_zero_eq_ok hr hne).mpr ⟨hdigits, rfl, hholds⟩

theorem whole?_eq_some {r : Range} (hr : r.holds 0 = true) {s : String} {i : Int} :
    whole? r s = some i ↔
      Spells s.toList i ∧ r.holds i = true ∧ (s.toList.head? = some '-' → r.least < 0) := by
  rw [← readWhole_eq_ok hr, whole?]
  cases readWhole r s.toList <;> simp [Except.toOption]

/-- **The number of a conversation is read from a text** that spells it and does not leave the
range. -/
theorem whole?_int64_eq_some {s : String} {i : Int} :
    whole? .int64 s = some i ↔ Spells s.toList i ∧ Range.int64.holds i = true := by
  rw [whole?_eq_some rfl, and_iff_left fun _ => by decide]

/-- A number from one on is spelled without a minus sign. -/
theorem Spells.head?_ne {cs : List Char} {i : Int} (h : Spells cs i) (hi : 0 < i) :
    cs.head? ≠ some '-' := by
  cases h with
  | plain hne hdigits => exact head?_ne_of_isDigit hdigits rfl
  | plus hne hdigits => exact nofun
  | minus hne hdigits => omega

/-- **A number from one on is read from a text** that spells it and does not leave the range, whether
or not there are negative numbers in it. -/
theorem whole?_eq_some_of_pos {r : Range} (hr : r.holds 0 = true) {s : String} {i : Int}
    (hi : 0 < i) : whole? r s = some i ↔ Spells s.toList i ∧ r.holds i = true := by
  rw [whole?_eq_some hr, ← and_assoc]
  exact and_iff_left_of_imp fun h hhead => absurd hhead (h.1.head?_ne hi)

/-- A number is spelled by its digits. -/
theorem spells_decimal (n : Nat) : Spells (Text.decimal n) n := by
  have hne : Text.decimal n ≠ [] := Nat.toDigits_ne_nil
  have h := Spells.plain hne fun _ hd => Text.isDigit_of_mem_decimal hd
  rwa [Text.digitsValue_decimal] at h

end Parley.Numeral
