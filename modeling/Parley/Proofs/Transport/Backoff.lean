import Mathlib.Order.MinMax
import Parley.Proofs.Http.Exchange
import Parley.Proofs.Settings.Variables
import Parley.Proofs.Time.Span

/-!
# How long the pauses are

The pause before attempt number `i` after the first is the base taken `i` times, and `i` is counted
in thirty-two bits. Seconds and nanoseconds of the base are taken apart for that
(`Parley.Time.Span.times`), so what a pause comes to has to be put together again:
`Parley.Backoff.total_pause` says that its length is the product, or the longest there is. That
pauses never get shorter, with more attempts or from a longer base, is read off this equation and
not off the arithmetic of the parts.

A rule for pauses is what its type makes of it (`Parley.Backoff.IsProper`). The rules that settings
come to are such rules (`Parley.Settings.isProper_backoff`), and the attempts at a request only ask
for pauses with a number that such a rule can count to (`Parley.Backoff.total_pauses_tries`).
-/

namespace Parley

open Time Http

/-! ### One pause -/

namespace Backoff

variable {b : Backoff} {i j : Nat}

/-- A rule as there are rules: the repetitions are counted in thirty-two bits, and the base is a
span. -/
structure IsProper (b : Backoff) : Prop where
  retries : b.retries < UInt32.size
  base : b.base.IsProper

/-- How long the pause with a number is to be. -/
def due (b : Backoff) (i : Nat) : Nat := b.base.total * max i 1

theorem due_le_due_of_le (b : Backoff) (h : i ≤ j) : b.due i ≤ b.due j :=
  Nat.mul_le_mul_left b.base.total (max_le_max_right 1 h)

theorem due_le_due_of_base {b' : Backoff} (h : b.base.total ≤ b'.base.total) (i : Nat) :
    b.due i ≤ b'.due i :=
  Nat.mul_le_mul_right (max i 1) h

/-- Where there is no attempt to count, one is counted; that fits into thirty-two bits as well. -/
theorem max_one_lt (hi : i < UInt32.size) : max i 1 < UInt32.size :=
  Nat.max_lt.mpr ⟨hi, by decide⟩

/-- **A pause is the span of the length that is due.** -/
theorem pause_eq (hb : b.IsProper) (hi : i < UInt32.size) : b.pause i = .ofNanos (b.due i) :=
  Span.times_eq hb.base.nanos (max_one_lt hi)

/-- **A pause is as long as is due**, or the longest. -/
theorem total_pause (hb : b.IsProper) (hi : i < UInt32.size) :
    (b.pause i).total = min (b.due i) Span.longest.total := by
  rw [pause_eq hb hi, Span.total_ofNanos]

end Backoff

/-! ### The rules that settings come to -/

namespace Settings

open Numeral

variable {env : Environment} {name platformDir : String} {r : Range} {standard i : Int}
  {s : Settings}

/-- What a variable holds is in its range, and so is what is taken if it holds nothing. -/
theorem holds_of_numberAt (hr : r.holds 0 = true) (hstandard : r.holds standard = true)
    (h : numberAt env name r standard = .ok i) : r.holds i = true := by
  unfold numberAt at h
  split at h
  · obtain rfl := Except.ok.inj h
    exact hstandard
  · rename_i text _
    cases hread : readWhole r text.toList with
    | error why =>
      rw [hread] at h
      cases h
    | ok n =>
      rw [hread] at h
      obtain rfl := Except.ok.inj h
      exact ((readWhole_eq_ok hr).mp hread).2.1

/-- What comes to something in the end has come to something at first. -/
theorem exists_of_bind_eq_ok {α β : Type} {x : Except Failure α} {f : α → Except Failure β} {y : β}
    (h : x >>= f = .ok y) : ∃ a, x = .ok a ∧ f a = .ok y := by
  cases x with
  | error e => cases h
  | ok a => exact ⟨a, rfl, h⟩

/-- **Settings come to a rule as there are rules.** -/
theorem isProper_backoff (h : ofEnvironment env platformDir = .ok s) : s.backoff.IsProper := by
  obtain ⟨retries, hretries, h⟩ := exists_of_bind_eq_ok h
  obtain ⟨base, -, h⟩ := exists_of_bind_eq_ok h
  obtain ⟨timeout, -, h⟩ := exists_of_bind_eq_ok h
  obtain ⟨userId, -, h⟩ := exists_of_bind_eq_ok h
  obtain ⟨limit, -, h⟩ := exists_of_bind_eq_ok h
  obtain rfl := Except.ok.inj h
  have hholds := holds_of_numberAt rfl rfl hretries
  rw [Range.holds, Bool.and_eq_true, decide_eq_true_iff, decide_eq_true_iff] at hholds
  have hgreatest : retries ≤ 4294967295 := hholds.2
  have hlt : retries.toNat < UInt32.size := by
    rw [UInt32.size]
    omega
  exact ⟨hlt, Span.isProper_ofMillis base.toNat⟩

end Settings

/-! ### The pauses of an exchange -/

namespace Backoff

variable {b : Backoff}

/-- **The pauses between attempts are as long as is due**: the base as often as the number of the
attempt says, or the longest. -/
theorem total_pauses_tries (hb : b.IsProper) (e : Except String Request) {k : Nat}
    (hk : k ≤ b.retries) : (pauses (tries b e 0 k)).map Span.total =
      (List.range' 1 k).map fun i => min (b.base.total * i) Span.longest.total := by
  rw [pauses_tries, List.map_map]
  refine List.map_congr_left fun i hi => ?_
  obtain ⟨hpos, hle⟩ := List.mem_range'_1.mp hi
  have hlt : i < UInt32.size := by
    have := hb.retries
    omega
  rw [Function.comp_apply, total_pause hb hlt, due, Nat.max_eq_left hpos]

/-- **How long pauses are**, in nanoseconds, by a rule whose numbers have the sizes of their types.

* The pause with a number of thirty-two bits is the exact product of the base and that number, which
  counts as one if it is zero, if there is a span of that length, and the longest span otherwise.
  Either way it is a span, with less than a second in nanoseconds.
* What is multiplied without a look at the size of the result, the nanoseconds, is multiplied
  exactly.
* A pause is no shorter than one with a smaller number, and no shorter than one from a smaller base.
* The pauses of an exchange are those with the numbers from one on. -/
theorem pauses_are_exact (hb : b.IsProper) :
    (∀ i < UInt32.size,
      (b.base.total * max i 1 ≤ Span.longest.total →
        (b.pause i).total = b.base.total * max i 1) ∧
      (Span.longest.total < b.base.total * max i 1 → b.pause i = Span.longest) ∧
      (b.pause i).IsProper ∧
      (b.base.nanosTimes (max i 1)).toNat = b.base.nanos * max i 1) ∧
    (∀ i j, i ≤ j → j < UInt32.size → (b.pause i).total ≤ (b.pause j).total) ∧
    (∀ b' : Backoff, b'.IsProper → b.base.total ≤ b'.base.total →
      ∀ i < UInt32.size, (b.pause i).total ≤ (b'.pause i).total) ∧
    ∀ e k, k ≤ b.retries → (pauses (tries b e 0 k)).map Span.total =
      (List.range' 1 k).map fun i => min (b.base.total * i) Span.longest.total := by
  refine ⟨fun i hi => ⟨fun hfits => ?_, fun hlong => ?_, ?_, ?_⟩, fun i j hij hj => ?_,
    fun b' hb' hbase i hi => ?_, fun e k hk => total_pauses_tries hb e hk⟩
  · rw [total_pause hb hi]
    exact Nat.min_eq_left hfits
  · rw [pause_eq hb hi]
    exact Span.ofNanos_of_lt hlong
  · rw [pause_eq hb hi]
    exact Span.isProper_ofNanos _
  · exact Span.toNat_nanosTimes hb.base.nanos (max_one_lt hi)
  · rw [total_pause hb (Nat.lt_of_le_of_lt hij hj), total_pause hb hj]
    exact min_le_min_right _ (due_le_due_of_le b hij)
  · rw [total_pause hb hi, total_pause hb' hi]
    exact min_le_min_right _ (due_le_due_of_base hbase i)

/-- A base of which three make the longest span there is, to the nanosecond. With one nanosecond
more it is only what the nanoseconds carry that is too much, and the pause is the longest as well;
two of them still have their exact length. -/
theorem pauses_at_the_longest :
    let b : Backoff := ⟨3, 6148914691236517205, 333333333⟩
    let b' : Backoff := ⟨3, 6148914691236517205, 333333334⟩
    (b.IsProper ∧ b'.IsProper) ∧ b.base.total * 3 = Span.longest.total ∧
      (b.pause 3).total = b.base.total * 3 ∧ b'.pause 3 = Span.longest ∧
      (b'.pause 2).total = b'.base.total * 2 ∧ (b.pause 2).total ≤ (b'.pause 2).total := by
  intro b b'
  have hb : b.IsProper := ⟨by decide, by decide, by decide⟩
  have hb' : b'.IsProper := ⟨by decide, by decide, by decide⟩
  obtain ⟨hexact, -, hbase, -⟩ := pauses_are_exact hb
  obtain ⟨hexact', -⟩ := pauses_are_exact hb'
  exact ⟨⟨hb, hb'⟩, by decide, (hexact 3 (by decide)).1 (by decide),
    (hexact' 3 (by decide)).2.1 (by decide), (hexact' 2 (by decide)).1 (by decide),
    hbase b' hb' (by decide) 2 (by decide)⟩

end Backoff

end Parley
