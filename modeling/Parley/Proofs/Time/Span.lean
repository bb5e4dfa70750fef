import Parley.Time.Span

/-!
# Spans that are taken several times

A span has as many seconds as a word of sixty-four bits holds, and fewer nanoseconds than there are
in a second (`Parley.Time.Span.IsProper`). To be taken `k` times it is taken apart: seconds and
nanoseconds are multiplied each on their own, and what the nanoseconds come to in whole seconds is
carried. Twice it is looked whether a word still holds the seconds, before the carry and after it.
`Parley.Time.Span.times_eq` says that all this comes to the product of the length, unless that is
longer than the longest span.

It is never looked whether a word holds the nanoseconds. It does: fewer nanoseconds than there are
in a second, times a factor of thirty-two bits, make a number of sixty-two bits
(`Parley.Time.Span.toNat_nanosTimes`).
-/

namespace Parley.Time.Span

variable {s : Span} {k n : Nat}

/-- A span as there are spans: a word holds its seconds, and the nanoseconds make less than one. -/
structure IsProper (s : Span) : Prop where
  seconds : s.seconds < UInt64.size
  nanos : s.nanos < second

/-! ### The span of a number of nanoseconds -/

/-- No span is longer than the longest, and a number of nanoseconds is no longer than that if a word
holds its whole seconds. -/
theorem le_total_longest : n ≤ longest.total ↔ n / second < UInt64.size := by
  have hlongest : longest.total + 1 = UInt64.size * second := rfl
  rw [Nat.div_lt_iff_lt_mul (by decide), ← hlongest, Nat.lt_succ_iff]

theorem ofNanos_of_le (h : n ≤ longest.total) : ofNanos n = ⟨n / second, n % second⟩ := if_pos h

theorem ofNanos_of_lt (h : longest.total < n) : ofNanos n = longest := if_neg (Nat.not_le_of_lt h)

theorem isProper_ofNanos (n : Nat) : (ofNanos n).IsProper := by
  rcases Nat.lt_or_ge longest.total n with h | h
  · rw [ofNanos_of_lt h]
    exact ⟨by decide, by decide⟩
  · rw [ofNanos_of_le h]
    exact ⟨le_total_longest.mp h, Nat.mod_lt n (by decide)⟩

theorem isProper_ofMillis (n : Nat) : (ofMillis n).IsProper := isProper_ofNanos (n * 1000000)

/-- **The span of a number of nanoseconds is as long as that**, or the longest. -/
theorem total_ofNanos (n : Nat) : (ofNanos n).total = min n longest.total := by
  rcases Nat.lt_or_ge longest.total n with h | h
  · rw [ofNanos_of_lt h, Nat.min_eq_right (Nat.le_of_lt h)]
  · rw [ofNanos_of_le h, Nat.min_eq_left h]
    exact Nat.div_add_mod' n second

/-! ### The product -/

theorem word?_of_lt (h : n < UInt64.size) : word? n = some n := if_pos h

theorem word?_of_le (h : UInt64.size ≤ n) : word? n = none := if_neg (Nat.not_lt_of_le h)

/-- **A word holds the nanoseconds**, before whole seconds are carried. -/
theorem toNat_nanosTimes (hs : s.nanos < second) (hk : k < UInt32.size) :
    (s.nanosTimes k).toNat = s.nanos * k := by
  have hproduct : s.nanos * k < UInt64.size := calc
    s.nanos * k ≤ second * UInt32.size := Nat.mul_le_mul (Nat.le_of_lt hs) (Nat.le_of_lt hk)
    _ < UInt64.size := by decide
  rw [nanosTimes, UInt64.toNat_mul, UInt64.toNat_ofNat', UInt64.toNat_ofNat', ← Nat.mul_mod]
  exact Nat.mod_eq_of_lt hproduct

/-- The product of the length, in whole seconds and what is left. -/
theorem div_mod_total_mul (s : Span) (k : Nat) :
    s.total * k / second = s.seconds * k + s.nanos * k / second ∧
      s.total * k % second = s.nanos * k % second := by
  have htotal : s.total * k = s.nanos * k + s.seconds * k * second := by
    rw [total, Nat.add_mul, Nat.mul_right_comm, Nat.add_comm]
  rw [htotal, Nat.add_mul_div_right _ _ (by decide), Nat.add_mul_mod_self_right, Nat.add_comm]
  exact ⟨rfl, rfl⟩

/-- **A span is taken `k` times as one would expect**: what is worked out in parts, with a carry, is
the product of the length, or the longest span if the product is longer. -/
theorem times_eq (hs : s.nanos < second) (hk : k < UInt32.size) :
    s.times k = ofNanos (s.total * k) := by
  obtain ⟨hdiv, hmod⟩ := div_mod_total_mul s k
  rw [times, times?, toNat_nanosTimes hs hk]
  rcases Nat.lt_or_ge (s.seconds * k + s.nanos * k / second) UInt64.size with h | h
  · -- a word holds the seconds with the carry, and so without it
    rw [ofNanos_of_le (le_total_longest.mpr (hdiv ▸ h)), hdiv, hmod,
      word?_of_lt (Nat.lt_of_le_of_lt (Nat.le_add_right _ _) h), Option.bind_eq_bind,
      Option.bind_some, word?_of_lt h]
    rfl
  · have hlong : longest.total < s.total * k := by
      rw [← Nat.not_le, le_total_longest, hdiv]
      exact Nat.not_lt_of_le h
    rw [ofNanos_of_lt hlong]
    rcases Nat.lt_or_ge (s.seconds * k) UInt64.size with hseconds | hseconds
    · -- it is the carry that is too much
      rw [word?_of_lt hseconds, Option.bind_eq_bind, Option.bind_some, word?_of_le h]
      rfl
    · rw [word?_of_le hseconds]
      rfl

end Parley.Time.Span
