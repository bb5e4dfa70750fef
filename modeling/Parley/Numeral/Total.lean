/-!
# Sums of numbers
-/

namespace Parley.Numeral

/-- The sum of the numbers in a list. -/
def total : List Nat → Nat
  | [] => 0
  | n :: ns => n + total ns

@[simp] theorem total_nil : total [] = 0 := rfl

@[simp] theorem total_cons (n : Nat) (ns : List Nat) : total (n :: ns) = n + total ns := rfl

@[simp] theorem total_append (ms ns : List Nat) : total (ms ++ ns) = total ms + total ns := by
  induction ms with
  | nil => simp
  | cons m ms ih => simp [ih, Nat.add_assoc]

theorem total_map_const {α : Type} (k : Nat) (xs : List α) :
    total (xs.map fun _ => k) = xs.length * k := by
  induction xs with
  | nil => simp
  | cons x xs ih => rw [List.map_cons, total_cons, ih, List.length_cons, Nat.succ_mul, Nat.add_comm]

end Parley.Numeral
