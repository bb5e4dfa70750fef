import Parley.Numeral.Fixed
import Parley.Proofs.Text.Decimal

/-!
# Decimals are as near as their places allow

A quotient is rounded to the natural number nearest to it, and where two are equally near to the
even one. There is one such number and no other (`Parley.Numeral.IsNearest.unique`), and it is the one
that rounding finds (`Parley.Numeral.Binary64.isNearest_roundEven`).

To be written with places after its point a number is rounded once, to a whole number of whatever the
last place counts, and the point is put in afterwards (`Parley.Numeral.Binary64.fixed_eq`).
-/

namespace Parley.Numeral

variable {num den q q' : Nat}

/-- **A natural number is nearest to a quotient**, and is the even one if there are two. -/
structure IsNearest (num den q : Nat) : Prop where
  low : 2 * (q * den) ≤ 2 * num + den
  high : 2 * num ≤ 2 * (q * den) + den
  even : 2 * (q * den) = 2 * num + den ∨ 2 * num = 2 * (q * den) + den → q % 2 = 0

/-- What is nearest to a quotient is not exceeded by anything else that is. -/
theorem IsNearest.le (hden : 0 < den) (h : IsNearest num den q) (h' : IsNearest num den q') :
    q' ≤ q := by
  by_contra hlt
  have hstep : q * den + den ≤ q' * den := by
    rw [← Nat.succ_mul]
    exact Nat.mul_le_mul_right den (Nat.lt_of_not_le hlt)
  have hlow := h'.low
  have hhigh := h.high
  -- then the quotient is right between them, and both are even
  have hnext : q' = q + 1 := by
    refine Nat.eq_of_mul_eq_mul_right hden ?_
    rw [Nat.succ_mul]
    omega
  have heven := h.even (.inr (by omega))
  have heven' := h'.even (.inl (by omega))
  omega

/-- **No other number is nearest to a quotient.** -/
theorem IsNearest.unique (hden : 0 < den) (h : IsNearest num den q) (h' : IsNearest num den q') :
    q = q' :=
  Nat.le_antisymm (h'.le hden h) (h.le hden h')

namespace Binary64

/-- **Rounding finds the nearest number.** -/
theorem isNearest_roundEven (num : Nat) (hden : 0 < den) :
    IsNearest num den (roundEven num den) := by
  have hnum : num / den * den + num % den = num := by
    rw [Nat.mul_comm]
    exact Nat.div_add_mod num den
  have hrest := Nat.mod_lt num hden
  have hnext : (num / den + 1) * den = num / den * den + den := Nat.succ_mul _ _
  unfold roundEven
  dsimp only
  split_ifs with _ _ heven
  · exact ⟨by omega, by omega, by omega⟩
  · exact ⟨by omega, by omega, by omega⟩
  · exact ⟨by omega, by omega, fun _ => heven⟩
  · exact ⟨by omega, by omega, by omega⟩

theorem ratio_pos (x : Binary64) : 0 < x.ratio.2 := by
  rw [ratio]
  split
  · exact Nat.one_pos
  · exact Nat.pow_pos Nat.two_pos

/-- **A number with places after its point** is the nearest that has so many, behind its sign. -/
theorem fixed_eq (x : Binary64) (places : Nat) :
    ∃ q, IsNearest (x.ratio.1 * 10 ^ (places + 1)) x.ratio.2 q ∧ x.fixed (places + 1) =
      (if x.negative then ['-'] else []) ++ Text.decimal (q / 10 ^ (places + 1)) ++
        '.' :: Text.zeroPadded (places + 1) (q % 10 ^ (places + 1)) := by
  refine ⟨_, isNearest_roundEven _ x.ratio_pos, ?_⟩
  generalize hq : roundEven (x.ratio.1 * 10 ^ (places + 1)) x.ratio.2 = q
  have hfixed : x.fixed (places + 1) =
      let ds := Text.zeroPadded (places + 2) q
      (if x.negative then ['-'] else []) ++ ds.take (ds.length - (places + 1)) ++
        '.' :: ds.drop (ds.length - (places + 1)) := hq ▸ rfl
  have hlast : (Text.zeroPadded (places + 1) (q % 10 ^ (places + 1))).length = places + 1 :=
    (Text.writtenIn_zeroPadded (Nat.succ_pos places)
      (Nat.mod_lt q (Nat.pow_pos (by decide)))).length
  -- so many digits from the end is where the last digits begin
  have hfront : (Text.decimal (q / 10 ^ (places + 1)) ++
      Text.zeroPadded (places + 1) (q % 10 ^ (places + 1))).length - (places + 1) =
        (Text.decimal (q / 10 ^ (places + 1))).length := by
    rw [List.length_append, hlast, Nat.add_sub_cancel]
  simp only [hfixed, Text.zeroPadded_eq_append, hfront, List.take_left', List.drop_left']

end Binary64

end Parley.Numeral
