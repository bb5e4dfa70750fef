import Parley.Proofs.Text.Blank

/-!
# Small and capital letters

Only the Latin letters are small or capital. What is made small can be made capital again, and the
other way round, as far as letters are told apart when their size is not; and a letter is no blank in
either size. So texts that spell the same word are the same in capital letters, without the blanks
around them (`Parley.Text.Alike.upper_trim`).
-/

namespace Parley.Text

variable {c : Char} {s t word : String}

/-- What holds of every character of seven bits, and of every other one, holds of all. -/
theorem char_cases {P : Char → Prop} (hlow : ∀ n : Fin 128, P (Char.ofNat n))
    (hhigh : ∀ c : Char, 128 ≤ c.toNat → P c) (c : Char) : P c := by
  rcases Nat.lt_or_ge c.toNat 128 with h | h
  · have hc := hlow ⟨c.toNat, h⟩
    rwa [Char.ofNat_toNat] at hc
  · exact hhigh c h

theorem lowerChar_of_le (h : 128 ≤ c.toNat) : lowerChar c = c := by
  refine if_neg fun hletter => ?_
  simp only [Bool.and_eq_true, decide_eq_true_eq, Char.le_def, UInt32.le_iff_toNat_le] at hletter
  have hZ : 'Z'.val.toNat = 90 := rfl
  have hn : c.toNat = c.val.toNat := rfl
  omega

theorem upperChar_of_le (h : 128 ≤ c.toNat) : upperChar c = c := by
  refine if_neg fun hletter => ?_
  simp only [Bool.and_eq_true, decide_eq_true_eq, Char.le_def, UInt32.le_iff_toNat_le] at hletter
  have hz : 'z'.val.toNat = 122 := rfl
  have hn : c.toNat = c.val.toNat := rfl
  omega

theorem upperChar_lowerChar (c : Char) : upperChar (lowerChar c) = upperChar c := by
  refine char_cases (P := fun c => upperChar (lowerChar c) = upperChar c) (by decide +kernel) ?_ c
  intro c h
  rw [lowerChar_of_le h]

theorem lowerChar_upperChar (c : Char) : lowerChar (upperChar c) = lowerChar c := by
  refine char_cases (P := fun c => lowerChar (upperChar c) = lowerChar c) (by decide +kernel) ?_ c
  intro c h
  rw [upperChar_of_le h]

theorem upperChar_upperChar (c : Char) : upperChar (upperChar c) = upperChar c := by
  refine char_cases (P := fun c => upperChar (upperChar c) = upperChar c) (by decide +kernel) ?_ c
  intro c h
  rw [upperChar_of_le h]
  exact upperChar_of_le h

theorem isBlank_upperChar (c : Char) : isBlank (upperChar c) = isBlank c := by
  refine char_cases (P := fun c => isBlank (upperChar c) = isBlank c) (by decide +kernel) ?_ c
  intro c h
  rw [upperChar_of_le h]

theorem upper_lower (s : String) : upper (lower s) = upper s := by
  simp only [upper, lower, String.toList_ofList, List.map_map, Function.comp_def,
    upperChar_lowerChar]

theorem lower_upper (s : String) : lower (upper s) = lower s := by
  simp only [upper, lower, String.toList_ofList, List.map_map, Function.comp_def,
    lowerChar_upperChar]

theorem upper_upper (s : String) : upper (upper s) = upper s := by
  simp only [upper, String.toList_ofList, List.map_map, Function.comp_def, upperChar_upperChar]

/-- It makes no difference whether blanks are removed before letters are made capital or after. -/
theorem trim_upper (s : String) : trim (upper s) = upper (trim s) := by
  simp only [upper, trim, String.toList_ofList, trimChars_map isBlank_upperChar]

/-- **Two texts differ only in small and capital letters and in the blanks around**: there is a word
that both spell. -/
def Alike (s t : String) : Prop := ∃ word, Spells word s ∧ Spells word t

/-- What a text spells, without blanks around, is told by its letters in capitals. -/
theorem Spells.upper_trim (h : Spells word s) : upper (trim s) = upper (trim word) := by
  obtain ⟨before, letters, after, hs, hbefore, hafter, hletters⟩ := h
  have htrim : trim s = trim (String.ofList letters) := by
    rw [trim, trim, hs, trimChars_surrounded hbefore hafter, String.toList_ofList]
  have hword : lower (String.ofList letters) = word := by
    rw [lower, String.toList_ofList, hletters, String.ofList_toList]
  rw [htrim, ← hword, ← trim_upper, ← trim_upper, upper_lower]

/-- **Texts that spell the same word are the same in capitals.** -/
theorem Alike.upper_trim (h : Alike s t) : upper (trim s) = upper (trim t) := by
  obtain ⟨word, hs, ht⟩ := h
  rw [hs.upper_trim, ht.upper_trim]

/-- **A text spells a word** if its letters are those of the word in capitals, without the blanks
around. -/
theorem spells_iff_upper (hword : word.toList.all (! isBlank ·) = true) (hlower : lower word = word) :
    Spells word s ↔ upper (trim s) = upper word := by
  rw [spells_iff hword]
  constructor
  · intro h
    rw [← upper_lower, h]
  · intro h
    rw [← lower_upper, h, lower_upper, hlower]

end Parley.Text
