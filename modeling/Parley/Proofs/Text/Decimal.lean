import Mathlib.Algebra.Group.Nat.Defs
import Mathlib.Data.Nat.Basic
import Parley.Text.Ascii

/-!
# Digits and the number they stand for

A number that is written in decimal digits is made of digits and of nothing else, and they stand for
it again. Zeros in front make no difference to that, so a number can be written in as many digits as
one likes, as long as it fits (`Parley.Text.WrittenIn`); and no larger number is written in so many
(`Parley.Text.digitsValue_lt`). Digits can be cut in two, and the parts are written by themselves
(`Parley.Text.zeroPadded_eq_append`).
-/

namespace Parley.Text

variable {n width : Nat} {ds : List Char} {c : Char}

theorem isDigit_eq (c : Char) : isDigit c = c.isDigit := by
  rw [isDigit, Char.isDigit]
  rfl

theorem isDigit_of_mem_decimal (h : c ∈ decimal n) : isDigit c = true := by
  rw [isDigit_eq]
  exact Nat.isDigit_of_mem_toDigits (by decide) (by decide) h

/-- Digits behind others. -/
theorem foldl_digits (h : ∀ d ∈ ds, isDigit d = true) (n : Nat) :
    ds.foldl (fun n c => n * 10 + digitValue c) n = Nat.ofDigitChars 10 ds n := by
  induction ds generalizing n with
  | nil => rfl
  | cons d ds ih =>
    rw [List.forall_mem_cons] at h
    have hd : n * 10 + digitValue d = 10 * n + (d.toNat - '0'.toNat) := by
      rw [digitValue, if_pos h.1, Nat.mul_comm]
    rw [List.foldl_cons, hd, ih h.2]
    rfl

theorem digitsValue_decimal (n : Nat) : digitsValue (decimal n) = n := by
  rw [digitsValue, foldl_digits (fun _ hd => isDigit_of_mem_decimal hd)]
  exact Nat.ofDigitChars_ten_toDigits

/-- Zeros in front make no difference. -/
theorem digitsValue_replicate_append (k : Nat) (ds : List Char) :
    digitsValue (List.replicate k '0' ++ ds) = digitsValue ds := by
  induction k with
  | zero => rfl
  | succ k ih => rwa [List.replicate_succ, List.cons_append]

theorem digitValue_le (c : Char) : digitValue c ≤ 9 := by
  unfold digitValue
  split
  · rename_i h
    simp only [isDigit, Bool.and_eq_true, decide_eq_true_eq] at h
    have hc : c.toNat ≤ '9'.toNat := h.2
    have h0 : '0'.toNat = 48 := rfl
    have h9 : '9'.toNat = 57 := rfl
    omega
  · exact Nat.zero_le 9

theorem foldl_digits_lt (ds : List Char) (n : Nat) :
    ds.foldl (fun n c => n * 10 + digitValue c) n < (n + 1) * 10 ^ ds.length := by
  induction ds generalizing n with
  | nil => simp
  | cons d ds ih =>
    have hd := digitValue_le d
    rw [List.foldl_cons, List.length_cons, Nat.pow_succ', ← Nat.mul_assoc]
    exact Nat.lt_of_lt_of_le (ih _) (Nat.mul_le_mul_right _ (by omega))

/-- **So many digits make no more than so large a number.** -/
theorem digitsValue_lt (ds : List Char) : digitsValue ds < 10 ^ ds.length := by
  simpa [digitsValue] using foldl_digits_lt ds 0

theorem isDigit_of_mem_zeroPadded (h : c ∈ zeroPadded width n) : isDigit c = true := by
  rcases List.mem_append.mp h with h | h
  · rw [List.eq_of_mem_replicate h]
    rfl
  · exact isDigit_of_mem_decimal h

theorem digitsValue_zeroPadded (width n : Nat) : digitsValue (zeroPadded width n) = n := by
  rw [zeroPadded, digitsValue_replicate_append, digitsValue_decimal]

/-- **Digits write a number in a width.** -/
structure WrittenIn (width n : Nat) (ds : List Char) : Prop where
  digits : ∀ d ∈ ds, isDigit d = true
  length : ds.length = width
  value : digitsValue ds = n

/-- **A number that fits is written in a width** with zeros in front. -/
theorem writtenIn_zeroPadded (hwidth : 0 < width) (h : n < 10 ^ width) :
    WrittenIn width n (zeroPadded width n) where
  digits _ := isDigit_of_mem_zeroPadded
  length := by
    have hle : (decimal n).length ≤ width := (Nat.length_toDigits_le_iff (by decide) hwidth).mpr h
    rw [zeroPadded, List.length_append, List.length_replicate, Nat.sub_add_cancel hle]
  value := digitsValue_zeroPadded width n

/-! ### A number in two parts -/

theorem zeroPadded_one (n : Nat) : zeroPadded 1 n = decimal n := by
  have hpos : 1 ≤ (decimal n).length := Nat.length_toDigits_pos
  rw [zeroPadded, Nat.sub_eq_zero_of_le hpos]
  rfl

/-- The last digit stands behind those of the tenth part, with zeros in front as before. -/
theorem zeroPadded_succ (width n : Nat) :
    zeroPadded (width + 2) n = zeroPadded (width + 1) (n / 10) ++ [(n % 10).digitChar] := by
  rcases Nat.lt_or_ge n 10 with hn | hn
  · -- the tenth part is zero, which has a digit too
    rw [Nat.div_eq_of_lt hn, Nat.mod_eq_of_lt hn, zeroPadded, zeroPadded, decimal, decimal,
      Nat.toDigits_zero, Nat.toDigits_of_lt_base hn]
    simp [List.replicate_succ']
  · have hdecimal : decimal n = decimal (n / 10) ++ [(n % 10).digitChar] :=
      Nat.toDigits_of_base_le (by decide) hn
    rw [zeroPadded, zeroPadded, hdecimal, List.length_append, List.length_singleton,
      Nat.add_sub_add_right (width + 1) 1, List.append_assoc]

/-- **A number is written in two parts**, of which the last digits keep the zeros in front. -/
theorem zeroPadded_eq_append (width n : Nat) : zeroPadded (width + 2) n =
    decimal (n / 10 ^ (width + 1)) ++ zeroPadded (width + 1) (n % 10 ^ (width + 1)) := by
  induction width generalizing n with
  | zero =>
    have hlast : decimal (n % 10) = [(n % 10).digitChar] :=
      Nat.toDigits_of_lt_base (Nat.mod_lt n (by decide))
    rw [zeroPadded_succ, zeroPadded_one, zeroPadded_one, Nat.zero_add, Nat.pow_one, hlast]
  | succ width ih =>
    rw [zeroPadded_succ, ih, zeroPadded_succ width (n % 10 ^ (width + 2)),
      Nat.pow_succ' (n := width + 1), Nat.div_div_eq_div_mul, Nat.mod_mul_right_div_self,
      Nat.mod_mul_right_mod, List.append_assoc]

end Parley.Text
