/-!
# Text in bytes

The bytes of a text in UTF-8, and the text in bytes that may be anything. Bytes that are no
text are not refused: the longest start of a character that goes nowhere, and every byte that
cannot start one, is read as U+FFFD, and reading goes on with the next byte.
-/

namespace Parley.Text

/-- The bytes of a character in UTF-8. -/
def utf8Bytes (c : Char) : List Nat :=
  let n := c.toNat
  if n < 0x80 then [n]
  else if n < 0x800 then [0xC0 + n / 0x40, 0x80 + n % 0x40]
  else if n < 0x10000 then [0xE0 + n / 0x1000, 0x80 + n / 0x40 % 0x40, 0x80 + n % 0x40]
  else [0xF0 + n / 0x40000, 0x80 + n / 0x1000 % 0x40, 0x80 + n / 0x40 % 0x40, 0x80 + n % 0x40]

/-- The character in place of bytes that are none. -/
def replacement : Char := '\uFFFD'

/-- The start of a character: what its bytes say so far, how many are missing, and between
which bounds the next one has to be. -/
structure PartialChar where
  value : Nat
  missing : Nat
  low : Nat
  high : Nat
  deriving DecidableEq, Repr

/-- What a byte starts: a character of its own, a longer one, or nothing. -/
def startByte (b : Nat) : Option Char × Option PartialChar :=
  if b < 0x80 then (some (Char.ofNat b), none)
  else if b < 0xC2 then (some replacement, none)
  else if b < 0xE0 then (none, some ⟨b - 0xC0, 1, 0x80, 0xBF⟩)
  else if b = 0xE0 then (none, some ⟨0, 2, 0xA0, 0xBF⟩)
  else if b = 0xED then (none, some ⟨0xD, 2, 0x80, 0x9F⟩)
  else if b < 0xF0 then (none, some ⟨b - 0xE0, 2, 0x80, 0xBF⟩)
  else if b = 0xF0 then (none, some ⟨0, 3, 0x90, 0xBF⟩)
  else if b < 0xF4 then (none, some ⟨b - 0xF0, 3, 0x80, 0xBF⟩)
  else if b = 0xF4 then (none, some ⟨4, 3, 0x80, 0x8F⟩)
  else (some replacement, none)

/-- The characters in bytes, behind the start of one if there is any. -/
def decodeBytes : Option PartialChar → List Nat → List Char
  | none, [] => []
  | some _, [] => [replacement]
  | some p, b :: bs =>
    if p.low ≤ b && b ≤ p.high then
      let value := p.value * 0x40 + (b - 0x80)
      if p.missing = 1 then Char.ofNat value :: decodeBytes none bs
      else decodeBytes (some ⟨value, p.missing - 1, 0x80, 0xBF⟩) bs
    else
      let (c, p) := startByte b
      replacement :: (c.toList ++ decodeBytes p bs)
  | none, b :: bs =>
    let (c, p) := startByte b
    c.toList ++ decodeBytes p bs

/-- The text in bytes, without a byte order mark at its start. -/
def ofBytes (bytes : ByteArray) : String :=
  match decodeBytes none (bytes.toList.map (·.toNat)) with
  | '\uFEFF' :: cs => String.ofList cs
  | cs => String.ofList cs

end Parley.Text
