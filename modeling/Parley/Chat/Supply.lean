import Parley.Time.Instant
import Parley.Chat.Role

/-!
# Fresh names

Messages and artifacts that arrive without an identifier are given one. A message's is made
of its time, its role and a serial number that grows with every draw, so it is the serial
number alone that keeps them apart. An artifact's is made of the time and nine letters and
digits, which count upwards from wherever they were started.
-/

namespace Parley

open Time

/-- The reading of the clock, the serial number of the next message and the tag of the next
artifact. -/
structure Supply where
  now : Instant
  serial : Nat
  tag : Nat
  deriving DecidableEq, Repr, Inhabited

namespace Supply

/-- The digits of a tag, the letters behind the numerals. -/
def tagDigit (n : Nat) : Char :=
  if n < 10 then Char.ofNat ('0'.toNat + n) else Char.ofNat ('a'.toNat + (n - 10))

/-- The `width` last digits of a tag. -/
def tagChars : Nat → Nat → List Char
  | 0, _ => []
  | width + 1, n => tagChars width (n / 36) ++ [tagDigit (n % 36)]

/-- The identifier of a message. -/
def messageName (time : Instant) (role : Role) (serial : Nat) : String :=
  String.ofList (Text.decimalInt time.millis ++ '-' :: role.name.toList ++
    '-' :: Text.decimal serial)

/-- The identifier of an artifact. -/
def artifactName (time : Instant) (tag : Nat) : String :=
  String.ofList (Text.decimalInt time.millis ++ tagChars 9 tag)

/-- Draws an identifier for a message of a given time. -/
def messageId (s : Supply) (role : Role) (time : Instant) : String × Supply :=
  (messageName time role s.serial, { s with serial := s.serial + 1 })

/-- Draws an identifier for an artifact. -/
def artifactId (s : Supply) : String × Supply :=
  (artifactName s.now s.tag, { s with tag := s.tag + 1 })

end Supply

end Parley
