import Mathlib.Data.List.DropRight
import Parley.Text.Ascii
import Parley.Text.Blank

/-!
# What is left when blanks are removed

Trimming is a matter of the two ends of a text: blanks there make no difference
(`Parley.Text.trimChars_surrounded`), and what neither begins nor ends with a blank is left as it is
(`Parley.Text.trimChars_eq_self`). So what is left of a word with blanks around it is the word
(`Parley.Text.trimChars_of_surrounded`), nothing more is left out the second time
(`Parley.Text.trimChars_trimChars`), and a typed line of which something is left when the blanks at
its end are removed says something (`Parley.Text.isBlankText_trimEndChars`).
-/

namespace Parley.Text

variable {s t u : List Char} {c : Char}

theorem trimEndChars_eq_rdropWhile (s : List Char) : trimEndChars s = s.rdropWhile isBlank := rfl

theorem trimEndChars_append_of_blank (h : ∀ c ∈ t, isBlank c = true) :
    trimEndChars (s ++ t) = trimEndChars s := by
  unfold trimEndChars dropEndWhile
  rw [List.reverse_append, List.dropWhile_append_of_pos fun c hc => h c (List.mem_reverse.mp hc)]

/-- **A text without the blanks at its end says something, unless nothing is left of it.** -/
theorem isBlankText_trimEndChars (h : trimEndChars s ≠ []) :
    isBlankText (String.ofList (trimEndChars s)) = false := by
  rw [trimEndChars_eq_rdropWhile] at h ⊢
  rw [isBlankText, String.toList_ofList, List.all_eq_false]
  exact ⟨_, List.getLast_mem h, List.rdropWhile_last_not isBlank s h⟩

/-- **Blanks around a text make no difference.** -/
theorem trimChars_surrounded (hs : ∀ c ∈ s, isBlank c = true) (hu : ∀ c ∈ u, isBlank c = true) :
    trimChars (s ++ (t ++ u)) = trimChars t := by
  rw [trimChars, trimChars, trimStartChars, trimStartChars, List.dropWhile_append_of_pos hs,
    List.dropWhile_append]
  split
  · rename_i hempty
    rw [List.isEmpty_iff.mp hempty, List.dropWhile_eq_nil_iff.mpr hu]
  · exact trimEndChars_append_of_blank hu

/-- A text is what is left of it, with blanks around it. -/
theorem exists_surrounded (s : List Char) : ∃ before after, s = before ++ (trimChars s ++ after) ∧
    (∀ c ∈ before, isBlank c = true) ∧ ∀ c ∈ after, isBlank c = true := by
  refine ⟨s.takeWhile isBlank, (s.dropWhile isBlank).rtakeWhile isBlank, ?_,
    fun c hc => List.mem_takeWhile_imp hc, fun c hc => List.mem_rtakeWhile_imp hc⟩
  rw [trimChars, trimEndChars_eq_rdropWhile, trimStartChars, List.rdropWhile_append_rtakeWhile,
    List.takeWhile_append_dropWhile]

/-- **A text that neither begins nor ends with a blank is left as it is.** -/
theorem trimChars_eq_self (hhead : ∀ c, s.head? = some c → isBlank c = false)
    (hlast : ∀ c, s.getLast? = some c → isBlank c = false) : trimChars s = s := by
  have hstart : trimStartChars s = s := by
    cases s with
    | nil => rfl
    | cons c s => exact List.dropWhile_cons_of_neg (by rw [hhead c rfl]; exact Bool.false_ne_true)
  rw [trimChars, hstart, trimEndChars_eq_rdropWhile, List.rdropWhile_eq_self_iff]
  intro hne
  rw [hlast _ (List.getLast?_eq_some_getLast hne)]
  exact Bool.false_ne_true

theorem trimChars_of_not_blank (h : ∀ c ∈ s, isBlank c = false) : trimChars s = s :=
  trimChars_eq_self (fun c hc => h c (List.mem_of_head? hc)) fun c hc => h c (List.mem_of_getLast? hc)

/-- **A word is what is left of it with blanks around it.** -/
theorem trimChars_of_surrounded (hs : ∀ c ∈ s, isBlank c = true)
    (ht : ∀ c ∈ t, isBlank c = false) (hu : ∀ c ∈ u, isBlank c = true) :
    trimChars (s ++ (t ++ u)) = t :=
  (trimChars_surrounded hs hu).trans (trimChars_of_not_blank ht)

theorem isBlank_of_getLast?_trimEndChars (h : (trimEndChars s).getLast? = some c) :
    isBlank c = false := by
  have hne : trimEndChars s ≠ [] := by
    rintro hnil
    rw [hnil] at h
    cases h
  obtain rfl : (trimEndChars s).getLast hne = c :=
    Option.some.inj ((List.getLast?_eq_some_getLast hne).symm.trans h)
  rw [← Bool.not_eq_true]
  exact List.rdropWhile_last_not isBlank _ hne

theorem isBlank_of_head?_trimChars (h : (trimChars s).head? = some c) : isBlank c = false := by
  have hprefix : trimChars s <+: trimStartChars s := List.rdropWhile_prefix _ _
  obtain ⟨rest, hrest⟩ := hprefix
  have hhead : (s.dropWhile isBlank).head? = some c := by
    rw [← trimStartChars, ← hrest, List.head?_append, h, Option.some_or]
  have hnot := List.head?_dropWhile_not isBlank s
  rwa [hhead] at hnot

/-- **Nothing more is left out the second time.** -/
theorem trimChars_trimChars (s : List Char) : trimChars (trimChars s) = trimChars s :=
  trimChars_eq_self (fun _ => isBlank_of_head?_trimChars) fun _ => isBlank_of_getLast?_trimEndChars

theorem trim_trim (s : String) : trim (trim s) = trim s := by
  rw [trim, trim, String.toList_ofList, trimChars_trimChars]

/-- **What is left of a text says something**, unless nothing is left. -/
theorem isBlankText_trim {s : String} (h : trim s ≠ "") : isBlankText (trim s) = false := by
  have hne : trimChars s.toList ≠ [] := fun hnil => h (by rw [trim, hnil])
  rw [isBlankText, trim, String.toList_ofList, List.all_eq_false]
  refine ⟨_, List.head_mem hne, ?_⟩
  rw [isBlank_of_head?_trimChars (List.head?_eq_some_head hne)]
  exact Bool.false_ne_true

/-- **Nothing is left of a text exactly if there is nothing in it but blanks.** -/
theorem trim_eq_empty_iff {s : String} : trim s = "" ↔ isBlankText s = true := by
  obtain ⟨before, after, hs, hbefore, hafter⟩ := exists_surrounded s.toList
  rw [isBlankText, List.all_eq_true, trim, ← String.toList_inj, String.toList_ofList]
  constructor
  · intro hnil c hc
    have hnil : trimChars s.toList = [] := hnil
    rw [hs, hnil, List.nil_append] at hc
    exact (List.mem_append.mp hc).elim (hbefore c) (hafter c)
  · intro hblank
    have hstart : trimStartChars s.toList = [] := (trimStartChars_eq_nil_iff _).mpr hblank
    rw [trimChars, hstart]
    rfl

/-- A digit is no blank. -/
theorem isBlank_of_isDigit (h : isDigit c = true) : isBlank c = false := by
  simp only [isDigit, Bool.and_eq_true, decide_eq_true_eq, Char.le_def,
    UInt32.le_iff_toNat_le] at h
  have h0 : '0'.val.toNat = 48 := rfl
  have h9 : '9'.val.toNat = 57 := rfl
  have hn : c.toNat = c.val.toNat := rfl
  rw [← Bool.not_eq_true]
  simp only [isBlank, Bool.or_eq_true, Bool.and_eq_true, decide_eq_true_eq, beq_iff_eq]
  omega

/-- Blanks at the end of two texts are those of the second, and if there is nothing else in it those
of the first. -/
theorem trimEndChars_append (s t : List Char) :
    trimEndChars (s ++ t) = if trimEndChars t = [] then trimEndChars s else s ++ trimEndChars t := by
  simp only [trimEndChars, dropEndWhile, List.reverse_append, List.dropWhile_append,
    List.isEmpty_iff, List.reverse_eq_nil_iff]
  split <;> simp

/-- Blanks at the end make no difference. -/
theorem trimChars_trimEndChars (s : List Char) : trimChars (trimEndChars s) = trimChars s := by
  have hblank : ∀ c ∈ s.rtakeWhile isBlank, isBlank c = true := fun _ => List.mem_rtakeWhile_imp
  have h := trimChars_surrounded (s := []) (t := trimEndChars s) (List.forall_mem_nil _) hblank
  rw [List.nil_append, trimEndChars_eq_rdropWhile, List.rdropWhile_append_rtakeWhile] at h
  exact h.symm

/-- It makes no difference whether characters are replaced before blanks are removed or after, as
long as blanks are replaced by blanks and nothing else is. -/
theorem trimChars_map {f : Char → Char} (hf : ∀ c, isBlank (f c) = isBlank c) (s : List Char) :
    trimChars (s.map f) = (trimChars s).map f := by
  have hcomp : isBlank ∘ f = isBlank := funext hf
  simp only [trimChars, trimStartChars, trimEndChars, dropEndWhile, List.dropWhile_map, hcomp,
    ← List.map_reverse]

/-! ### Words in any spelling -/

/-- A text spells a word: small and capital letters are not told apart, and there may be blanks
around it. -/
def Spells (word s : String) : Prop :=
  ∃ before letters after : List Char, s.toList = before ++ (letters ++ after) ∧
    (∀ c ∈ before, isBlank c = true) ∧ (∀ c ∈ after, isBlank c = true) ∧
    letters.map lowerChar = word.toList

/-- A capital letter is no blank, so blanks are left as they are. -/
theorem lowerChar_of_isBlank (h : isBlank c = true) : lowerChar c = c := by
  refine if_neg fun hcapital => ?_
  simp only [Bool.and_eq_true, decide_eq_true_eq, Char.le_def, UInt32.le_iff_toNat_le] at hcapital
  have hA : 'A'.val.toNat = 65 := rfl
  have hZ : 'Z'.val.toNat = 90 := rfl
  have hn : c.toNat = c.val.toNat := rfl
  simp only [isBlank, Bool.or_eq_true, Bool.and_eq_true, decide_eq_true_eq, beq_iff_eq] at h
  omega

/-- **What a text spells is told by its letters in small type, without the blanks around.** -/
theorem Spells.lower_trim {word s : String} (h : Spells word s)
    (hword : word.toList.all (! isBlank ·) = true) : lower (trim s) = word := by
  obtain ⟨before, letters, after, hs, hbefore, hafter, hletters⟩ := h
  have hblank : ∀ c ∈ letters, isBlank c = false := by
    intro c hc
    cases hc' : isBlank c with
    | false => rfl
    | true =>
      have hmem : c ∈ word.toList := hletters ▸ List.mem_map.mpr ⟨c, hc, lowerChar_of_isBlank hc'⟩
      have hnot := List.all_eq_true.mp hword c hmem
      rw [hc'] at hnot
      cases hnot
  rw [lower, trim, hs, trimChars_of_surrounded hbefore hblank hafter, String.toList_ofList,
    hletters, String.ofList_toList]

/-- What a text spells is what its letters spell in small type. -/
theorem spells_lower_trim (s : String) : Spells (lower (trim s)) s := by
  obtain ⟨before, after, hs, hbefore, hafter⟩ := exists_surrounded s.toList
  refine ⟨before, trimChars s.toList, after, hs, hbefore, hafter, ?_⟩
  rw [lower, trim, String.toList_ofList, String.toList_ofList]

/-- **A text spells a word** if its letters are those of the word in small type, without the blanks
around. -/
theorem spells_iff {word s : String} (hword : word.toList.all (! isBlank ·) = true) :
    Spells word s ↔ lower (trim s) = word :=
  ⟨fun h => h.lower_trim hword, fun h => h ▸ spells_lower_trim s⟩

end Parley.Text
