import Parley.Json.Decode
import Parley.Time.Stamp

/-!
# Times in JSON

A time is written as a string in the form of RFC 3339. When a record is read back, the string
may be in a slightly looser form; what is wrong with any other is part of the error.
-/

namespace Parley.Json

/-- Reads a time. -/
def stamp : Decoder Time.Instant :=
  writtenAs "an RFC 3339 formatted date and time string" fun s =>
    match Time.Instant.ofText s with
    | .ok t => .ok t
    | .error e => .error e.message

end Parley.Json
