/-!
# Blank characters

What counts as blank is decided once, for trimming typed lines, tags, settings and
addresses alike: the characters with the Unicode property `White_Space`. It is a
fixed set of twenty-five code points, so it is written out.

Trimming is stated on lists of characters, where it is a `dropWhile` from either end,
and carried over to strings.
-/

namespace Parley.Text

/-- The characters with the Unicode property `White_Space`. -/
def isBlank (c : Char) : Bool :=
  let n := c.toNat
  (0x09 ≤ n && n ≤ 0x0D) || n == 0x20 || n == 0x85 || n == 0xA0 || n == 0x1680 ||
    (0x2000 ≤ n && n ≤ 0x200A) || n == 0x2028 || n == 0x2029 || n == 0x202F ||
    n == 0x205F || n == 0x3000

/-- Removes characters satisfying `p` from the end. -/
def dropEndWhile (p : Char → Bool) (s : List Char) : List Char :=
  (s.reverse.dropWhile p).reverse

/-- Removes blanks from the end. -/
def trimEndChars (s : List Char) : List Char := dropEndWhile isBlank s

/-- Removes blanks from the start. -/
def trimStartChars (s : List Char) : List Char := s.dropWhile isBlank

/-- Removes blanks from both ends. -/
def trimChars (s : List Char) : List Char := trimEndChars (trimStartChars s)

/-- The text without the blanks at its two ends. -/
def trim (s : String) : String := String.ofList (trimChars s.toList)

/-- The text without the blanks at its end. -/
def trimEnd (s : String) : String := String.ofList (trimEndChars s.toList)

/-- A text that holds nothing but blanks. -/
def isBlankText (s : String) : Bool := s.toList.all isBlank

/-! ### The trimmed forms -/

/-- Trimming at the start leaves nothing exactly when there is nothing but blanks. -/
theorem trimStartChars_eq_nil_iff (s : List Char) :
    trimStartChars s = [] ↔ ∀ c ∈ s, isBlank c := by
  induction s with
  | nil => simp [trimStartChars]
  | cons c r ih =>
    by_cases hc : isBlank c
    · simp only [trimStartChars] at ih
      simp [trimStartChars, hc, ih]
    · simp [trimStartChars, hc]

end Parley.Text
