/-!
# Fixed-width fields

Widths count code points. A field is never cut: text wider than its field stands as it is.
-/

namespace Parley.Text

/-- Spaces after the text up to `width` characters. -/
def padRight (width : Nat) (s : String) : String :=
  s ++ String.ofList (List.replicate (width - s.length) ' ')

/-- Spaces before the text up to `width` characters. -/
def padLeft (width : Nat) (s : String) : String :=
  String.ofList (List.replicate (width - s.length) ' ') ++ s

/-- `n` copies of one character. -/
def run (n : Nat) (c : Char) : String := String.ofList (List.replicate n c)

end Parley.Text
