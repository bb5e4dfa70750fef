import Parley.Text.Ascii

/-!
# Spans of time

A span is a number of seconds below `2 ^ 64` and a number of nanoseconds below a second. A
product that would be longer than the longest span is that one.
-/

namespace Parley.Time

/-- A span of time. -/
structure Span where
  seconds : Nat
  nanos : Nat
  deriving DecidableEq, Repr, Inhabited

namespace Span

/-- The nanoseconds of a second. -/
def second : Nat := 1000000000

/-- The length in nanoseconds. -/
def total (s : Span) : Nat := s.seconds * second + s.nanos

/-- The longest span. -/
def longest : Span := ⟨18446744073709551615, second - 1⟩

/-- The span of a number of nanoseconds, at most the longest. -/
def ofNanos (n : Nat) : Span :=
  if n ≤ longest.total then ⟨n / second, n % second⟩ else longest

/-- The span of a number of milliseconds. -/
def ofMillis (n : Nat) : Span := ofNanos (n * 1000000)

/-- No time at all. -/
def zero : Span := ⟨0, 0⟩

/-- A number, if a word of sixty-four bits holds it. -/
def word? (n : Nat) : Option Nat := if n < UInt64.size then some n else none

/-- The nanoseconds of a span taken `k` times, before whole seconds are carried. It is not checked
that a word holds them. -/
def nanosTimes (s : Span) (k : Nat) : UInt64 := .ofNat s.nanos * .ofNat k

/-- A span taken `k` times, if there is such a span. Seconds and nanoseconds are multiplied apart,
and the whole seconds among the nanoseconds are carried. -/
def times? (s : Span) (k : Nat) : Option Span := do
  let nanos := (s.nanosTimes k).toNat
  let seconds ← word? (s.seconds * k)
  let seconds ← word? (seconds + nanos / second)
  return ⟨seconds, nanos % second⟩

/-- A span taken `k` times, at most the longest. -/
def times (s : Span) (k : Nat) : Span := (s.times? k).getD longest

/-- The fraction of a unit made of `width` digits, without zeros at its end. -/
def fractionText (width n : Nat) : List Char :=
  let ds := ((Text.zeroPadded width n).reverse.dropWhile (· = '0')).reverse
  if ds.isEmpty then [] else '.' :: ds

/-- A span in the largest unit of which it has at least one. -/
def chars (s : Span) : List Char :=
  if 0 < s.seconds then
    Text.decimal s.seconds ++ fractionText 9 s.nanos ++ ['s']
  else if 1000000 ≤ s.nanos then
    Text.decimal (s.nanos / 1000000) ++ fractionText 6 (s.nanos % 1000000) ++ ['m', 's']
  else if 1000 ≤ s.nanos then
    Text.decimal (s.nanos / 1000) ++ fractionText 3 (s.nanos % 1000) ++ ['µ', 's']
  else Text.decimal s.nanos ++ ['n', 's']

/-- The text of a span. -/
def render (s : Span) : String := String.ofList s.chars

end Span

end Parley.Time
