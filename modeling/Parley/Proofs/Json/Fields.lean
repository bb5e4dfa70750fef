import Mathlib.Data.List.Induction
import Mathlib.Data.String.Basic
import Parley.Json.Value

/-!
# The fields of an object

An object may give a key twice. Its fields are put in the order of their keys one by one, and a field
takes the place of one that was there under its key, so what is found under a key is what was given
last (`Parley.Json.Value.lookup_sortFields`). No key is left twice
(`Parley.Json.Value.nodup_sortFields`), and if none was given twice, the fields are those that were
given, in the one order in which their keys increase (`Parley.Json.Value.sortFields_eq`).
-/

namespace Parley.Json.Value

variable {fs : List (String × Value)} {key k : String} {v : Value}

theorem lookup_cons : lookup key ((k, v) :: fs) = if k = key then some v else lookup key fs := by
  unfold lookup
  by_cases h : k = key
  · rw [List.find?_cons_of_pos (by simpa using h), if_pos h]
    rfl
  · rw [List.find?_cons_of_neg (by simpa using h), if_neg h]

theorem insertField_cons (k' : String) (v' : Value) : insertField k v ((k', v') :: fs) =
    if k = k' then (k, v) :: fs
    else if k < k' then (k, v) :: (k', v') :: fs else (k', v') :: insertField k v fs := by
  rw [insertField]
  simp only [beq_iff_eq]

/-- Where no key is given twice, a field is what is found under its key. -/
theorem lookup_eq_some_iff (h : (fs.map Prod.fst).Nodup) :
    lookup key fs = some v ↔ (key, v) ∈ fs := by
  induction fs with
  | nil => exact ⟨nofun, nofun⟩
  | cons f fs ih =>
    obtain ⟨k, w⟩ := f
    rw [List.map_cons, List.nodup_cons] at h
    rw [lookup_cons, List.mem_cons, Prod.mk.injEq]
    split
    · rename_i hk
      subst hk
      have hnot : (k, v) ∉ fs := fun hmem => h.1 (List.mem_map.mpr ⟨_, hmem, rfl⟩)
      simp [hnot, eq_comm]
    · rename_i hk
      rw [ih h.2]
      simp [Ne.symm hk]

/-- Where no key is given twice, the order of the fields makes no difference. -/
theorem lookup_perm {gs : List (String × Value)} (hperm : fs.Perm gs)
    (h : (gs.map Prod.fst).Nodup) (key : String) : lookup key fs = lookup key gs := by
  have hfs : (fs.map Prod.fst).Nodup := (hperm.map Prod.fst).nodup_iff.mpr h
  refine Option.ext fun v => ?_
  rw [lookup_eq_some_iff hfs, lookup_eq_some_iff h, hperm.mem_iff]

/-- What is found under the key of a field that is put in its place is that field. -/
theorem lookup_insertField :
    lookup key (insertField k v fs) = if k = key then some v else lookup key fs := by
  induction fs with
  | nil => rw [insertField, lookup_cons]
  | cons f fs ih =>
    obtain ⟨k', v'⟩ := f
    rw [insertField_cons]
    split
    · rename_i h
      subst h
      rw [lookup_cons, lookup_cons]
      split <;> rfl
    · rename_i hne
      split
      · rw [lookup_cons]
      · rw [lookup_cons, lookup_cons, ih]
        by_cases hk : k = key
        · rw [if_pos hk, if_pos hk, if_neg fun h => hne (hk.trans h.symm)]
        · rw [if_neg hk, if_neg hk]

theorem sortFields_concat (f : String × Value) :
    sortFields (fs ++ [f]) = insertField f.1 f.2 (sortFields fs) := by
  rw [sortFields, List.foldl_append]
  rfl

/-- **What is found under a key is what was given last.** -/
theorem lookup_sortFields (fs : List (String × Value)) (key : String) :
    lookup key (sortFields fs) = lookup key fs.reverse := by
  induction fs using List.reverseRecOn with
  | nil => rfl
  | append_singleton fs f ih =>
    rw [sortFields_concat, lookup_insertField, ih, List.reverse_append]
    exact lookup_cons.symm

/-- Putting a field in its place adds no key but its own. -/
theorem mem_keys_insertField {x : String} :
    x ∈ (insertField k v fs).map Prod.fst ↔ x = k ∨ x ∈ fs.map Prod.fst := by
  induction fs with
  | nil => simp [insertField]
  | cons f fs ih =>
    obtain ⟨k', v'⟩ := f
    rw [insertField_cons]
    split
    · rename_i h
      subst h
      simp
    · split
      · simp
      · simp only [List.map_cons, List.mem_cons, ih]
        tauto

theorem KeysIncrease.insertField (h : KeysIncrease fs) : KeysIncrease (insertField k v fs) := by
  induction fs with
  | nil => simp [Value.insertField, KeysIncrease]
  | cons f fs ih =>
    obtain ⟨k', v'⟩ := f
    have hcons := List.pairwise_cons.mp h
    obtain ⟨hk', hfs⟩ := hcons
    rw [insertField_cons]
    split
    · rename_i hk
      subst hk
      exact List.pairwise_cons.mpr ⟨hk', hfs⟩
    · rename_i hne
      split
      · rename_i hlt
        refine List.pairwise_cons.mpr ⟨fun x hx => ?_, h⟩
        rcases List.mem_cons.mp hx with rfl | hx
        · exact hlt
        · exact lt_trans hlt (hk' x hx)
      · rename_i hnlt
        refine List.pairwise_cons.mpr ⟨fun x hx => ?_, ih hfs⟩
        rcases mem_keys_insertField.mp hx with rfl | hx
        · exact lt_of_le_of_ne (not_lt.mp hnlt) (Ne.symm hne)
        · exact hk' x hx

theorem keysIncrease_sortFields (fs : List (String × Value)) : KeysIncrease (sortFields fs) := by
  induction fs using List.reverseRecOn with
  | nil => exact List.Pairwise.nil
  | append_singleton fs f ih =>
    rw [sortFields_concat]
    exact ih.insertField

/-- A field under a new key is put among those that are there. -/
theorem perm_insertField (hk : k ∉ fs.map Prod.fst) : (insertField k v fs).Perm ((k, v) :: fs) := by
  induction fs with
  | nil => exact .refl _
  | cons f fs ih =>
    obtain ⟨hne, hrest⟩ := not_or.mp (mt List.mem_cons.mpr hk)
    rw [insertField_cons, if_neg hne]
    split
    · exact .refl _
    · exact ((ih hrest).cons f).trans (.swap _ _ _)

theorem perm_sortFields (h : (fs.map Prod.fst).Nodup) : (sortFields fs).Perm fs := by
  induction fs using List.reverseRecOn with
  | nil => exact .refl _
  | append_singleton fs f ih =>
    rw [List.map_append] at h
    -- the last field is put among the others under a key that none of them has
    obtain ⟨hfs, -, hdisjoint⟩ := List.nodup_append.mp h
    have hperm := ih hfs
    have hf : f.1 ∉ (sortFields fs).map Prod.fst := fun hmem =>
      hdisjoint f.1 ((hperm.map Prod.fst).mem_iff.mp hmem) f.1 (List.mem_singleton_self _) rfl
    rw [sortFields_concat]
    exact (perm_insertField hf).trans ((hperm.cons f).trans (List.perm_append_singleton f fs).symm)

/-- **There is one order in which the keys increase.** -/
theorem sortFields_eq {gs : List (String × Value)} (hperm : gs.Perm fs) (hgs : KeysIncrease gs) :
    sortFields fs = gs := by
  have hkeys : (fs.map Prod.fst).Nodup :=
    (hperm.map Prod.fst).nodup_iff.mp (hgs.imp ne_of_lt)
  refine ((perm_sortFields hkeys).trans hperm.symm).eq_of_pairwise (fun f g _ _ hfg hgf => ?_)
    (List.pairwise_map.mp (keysIncrease_sortFields fs)) (List.pairwise_map.mp hgs)
  exact absurd hgf (lt_asymm hfg)

/-- Fields that are in the order of their keys are left where they are. -/
theorem sortFields_of_keysIncrease (h : KeysIncrease fs) : sortFields fs = fs :=
  sortFields_eq (.refl _) h

/-- **No key is left twice.** -/
theorem nodup_sortFields (fs : List (String × Value)) : ((sortFields fs).map Prod.fst).Nodup :=
  (keysIncrease_sortFields fs).imp ne_of_lt

end Parley.Json.Value
