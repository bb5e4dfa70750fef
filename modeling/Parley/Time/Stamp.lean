import Parley.Time.Instant
import Parley.Numeral.Total
import Parley.Text.Ascii
import Parley.Text.Blank

/-!
# Time stamps

Instants are written as RFC 3339 has them, in universal time, with a fraction of three,
six or nine digits where one is needed.

They are read in three ways. `ofRfc3339?` accepts the standard's form, with a blank or a
small `t` allowed between date and time. `ofText` is more patient: numbers may have fewer
digits and blanks before them, a year may carry a sign, and the offset may be `UTC`.
`ofLocal?` reads a stamp without an offset and takes it for universal time.

All three collect the same parts and build the instant from them in `Parts.toInstant`.
-/

namespace Parley.Time

/-- Why a text is not a time stamp. -/
inductive Misfit
  | outOfRange
  | impossible
  | invalid
  | tooShort
  | tooLong
  deriving DecidableEq, Repr

/-- The wording of a misfit. -/
def Misfit.message : Misfit → String
  | .outOfRange => "input is out of range"
  | .impossible => "no possible date and time matching input"
  | .invalid => "input contains invalid characters"
  | .tooShort => "premature end of input"
  | .tooLong => "trailing input"

namespace Stamp

/-- A step of scanning: the thing scanned and the text after it. -/
abbrev Scan (α : Type) := List Char → Except Misfit (α × List Char)

/-- The parts of a time stamp. -/
structure Parts where
  year : Int := 1970
  month : Nat := 1
  day : Nat := 1
  hour : Nat := 0
  minute : Nat := 0
  second : Nat := 0
  nanos : Nat := 0
  /-- Seconds east of universal time. -/
  offset : Int := 0
  deriving Repr

/-- The instant that the parts denote, if the calendar has it. -/
def Parts.toInstant (p : Parts) : Except Misfit Instant :=
  let date : Date := ⟨p.year, p.month, p.day⟩
  if !date.isValid then .error .outOfRange
  else if 86400 ≤ p.offset.natAbs then .error .outOfRange
  else
    let leap := p.second = 60
    let second := if leap then 59 else p.second
    let ofDay : Int := p.hour * 3600 + p.minute * 60 + second
    let seconds := date.toDays * 86400 + ofDay - p.offset
    let utc := Date.ofDays (seconds / 86400)
    if utc.isValid then .ok ⟨seconds, p.nanos + (if leap then 1000000000 else 0)⟩
    else .error .impossible

/-- The number of bytes of a text. -/
def byteLength (s : List Char) : Nat := Numeral.total (s.map Char.utf8Size)

/-- A number of `least` to `most` digits, below `2 ^ 63`. -/
def digits (least most : Nat) : Scan Nat := fun s =>
  if byteLength s < least then .error .tooShort
  else
    let ds := (s.take most).takeWhile Text.isDigit
    if ds.length < least then .error .invalid
    else
      let n := Text.digitsValue ds
      if n < Nat.pow 2 63 then .ok (n, s.drop ds.length) else .error .outOfRange

/-- One given character. -/
def mark (c : Char) : Scan Unit
  | [] => .error .tooShort
  | d :: r => if d = c then .ok ((), r) else .error .invalid

/-- The character between date and time. -/
def divider : Scan Unit
  | [] => .error .tooShort
  | d :: r => if d = 't' || d = 'T' || d = ' ' then .ok ((), r) else .error .invalid

/-- A number that has to lie between two bounds. -/
def bounded (low high : Nat) (scan : Scan Nat) : Scan Nat := fun s => do
  let (n, r) ← scan s
  if low ≤ n && n ≤ high then .ok (n, r) else .error .outOfRange

/-- A fraction of a second, if a point is ahead; digits after the ninth are passed over. -/
def fraction : Scan Nat
  | '.' :: r => do
    let shown := (r.take 9).takeWhile Text.isDigit
    if r.isEmpty then .error .tooShort
    else if shown.isEmpty then .error .invalid
    else
      let n := Text.digitsValue shown * Nat.pow 10 (9 - shown.length)
      .ok (n, (r.drop shown.length).dropWhile Text.isDigit)
  | s => .ok (0, s)

/-- An offset from universal time: `Z`, or a sign, hours and minutes; `between` passes over
what stands between hours and minutes. -/
def offsetWith (between : List Char → Except Misfit (List Char)) : Scan Int
  | [] => .error .tooShort
  | 'Z' :: r => .ok (0, r)
  | 'z' :: r => .ok (0, r)
  | c :: r => do
    let negative ←
      if c = '+' then .ok false
      else if c = '-' || c.toNat = 0x2212 then .ok true
      else .error .invalid
    let (hours, r) ← twoDigits r
    let r ← between r
    let (minutes, r) ← twoDigits r
    if 60 ≤ minutes then .error .outOfRange
    else
      let seconds : Int := hours * 3600 + minutes * 60
      .ok (if negative then -seconds else seconds, r)
where
  /-- Two digits. -/
  twoDigits : Scan Nat := fun s =>
    if byteLength s < 2 then .error .tooShort
    else
      match s with
      | a :: b :: r =>
        if Text.isDigit a && Text.isDigit b then
          .ok (Text.digitValue a * 10 + Text.digitValue b, r)
        else .error .invalid
      | _ => .error .invalid

/-- The whole of a text. -/
def all {α : Type} (scan : Scan α) (s : List Char) : Except Misfit α := do
  let (x, r) ← scan s
  if r.isEmpty then .ok x else .error .tooLong

/-- The form of RFC 3339. -/
def rfc3339 : Scan Parts := fun s => do
  let (year, s) ← digits 4 4 s
  let (_, s) ← mark '-' s
  let (month, s) ← bounded 1 12 (digits 2 2) s
  let (_, s) ← mark '-' s
  let (day, s) ← bounded 1 31 (digits 2 2) s
  let (_, s) ← divider s
  let (hour, s) ← bounded 0 23 (digits 2 2) s
  let (_, s) ← mark ':' s
  let (minute, s) ← bounded 0 59 (digits 2 2) s
  let (_, s) ← mark ':' s
  let (second, s) ← bounded 0 60 (digits 2 2) s
  let (nanos, s) ← fraction s
  let (offset, s) ← offsetWith (fun s => (mark ':' s).map (·.2)) s
  return (⟨year, month, day, hour, minute, second, nanos, offset⟩, s)

/-- A year of up to four digits, or of any number after a sign, with blanks before it. -/
def patientYear : Scan Int := fun s => do
  let (n, s) ← match Text.trimStartChars s with
    | '-' :: r => (digits 1 r.length r).map fun (n, r) => (-(n : Int), r)
    | '+' :: r => (digits 1 r.length r).map fun (n, r) => ((n : Int), r)
    | s => (digits 1 4 s).map fun (n, r) => ((n : Int), r)
  if -2147483648 ≤ n && n < 2147483648 then .ok (n, s) else .error .outOfRange

/-- A number of one or two digits with blanks before it. -/
def patient (low high : Nat) : Scan Nat := fun s =>
  bounded low high (digits 1 2) (Text.trimStartChars s)

/-- A mark with blanks before it if `loose`. -/
def looseMark (loose : Bool) (c : Char) : Scan Unit := fun s =>
  mark c (if loose then Text.trimStartChars s else s)

/-- A date of patient numbers. -/
def patientDate (loose : Bool) : Scan Parts := fun s => do
  let (year, s) ← patientYear s
  let (_, s) ← looseMark loose '-' s
  let (month, s) ← patient 1 12 s
  let (_, s) ← looseMark loose '-' s
  let (day, s) ← patient 1 31 s
  return (⟨year, month, day, 0, 0, 0, 0, 0⟩, s)

/-- A time of day of patient numbers, added to a date. -/
def patientTime (loose : Bool) (p : Parts) : Scan Parts := fun s => do
  let (hour, s) ← patient 0 23 s
  let (_, s) ← looseMark loose ':' s
  let (minute, s) ← patient 0 59 s
  let (_, s) ← looseMark loose ':' s
  let (second, s) ← patient 0 60 s
  let (nanos, s) ← fraction s
  return (⟨p.year, p.month, p.day, hour, minute, second, nanos, 0⟩, s)

/-- The patient form with an offset. -/
def patientStamp : Scan Parts := fun s => do
  let (p, s) ← patientDate true s
  let (_, s) ← divider s
  let (p, s) ← patientTime true p s
  let s := Text.trimStartChars s
  let (offset, s) ←
    if (s.take 3).map Text.upperChar = ['U', 'T', 'C'] then .ok (0, s.drop 3)
    else offsetWith (fun s => .ok (s.dropWhile fun c => c = ':' || Text.isBlank c)) s
  return (⟨p.year, p.month, p.day, p.hour, p.minute, p.second, p.nanos, offset⟩, s)

/-- A stamp without an offset, `between` passing over what divides date and time. -/
def localStamp (between : Scan Unit) : Scan Parts := fun s => do
  let (p, s) ← patientDate false s
  let (_, s) ← between s
  patientTime false p s

end Stamp

namespace Instant

open Stamp

/-- Reads a stamp in the form of RFC 3339. -/
def ofRfc3339? (s : String) : Option Instant :=
  (do
    let p ← all rfc3339 s.toList
    if 86340 < p.offset.natAbs then .error .outOfRange
    p.toInstant : Except Misfit Instant).toOption

/-- Reads a stamp without an offset as universal time; a `T` or blanks divide date and
time. -/
def ofLocal? (s : String) : Option Instant :=
  let read (between : Scan Unit) : Except Misfit Instant := do
    (← all (localStamp between) s.toList).toInstant
  match read (mark 'T') with
  | .ok t => some t
  | .error _ => (read fun r => .ok ((), Text.trimStartChars r)).toOption

/-- Reads a stamp in the patient form. -/
def ofText (s : String) : Except Misfit Instant := do
  let (p, rest) ← patientStamp s.toList
  if (Text.trimStartChars rest).isEmpty then p.toInstant else .error .tooLong

/-! ### Writing -/

/-- The digits of a year: four of them, and a sign if there are more or the year is
negative. -/
def yearChars (y : Int) : List Char :=
  if 0 ≤ y && y ≤ 9999 then Text.zeroPadded 4 y.toNat
  else (if y < 0 then '-' else '+') :: Text.zeroPadded 4 y.natAbs

/-- The fraction of a second, of three, six or nine digits, empty when it is zero. -/
def fractionChars (nanos : Nat) : List Char :=
  if nanos = 0 then []
  else if nanos % 1000000 = 0 then '.' :: Text.zeroPadded 3 (nanos / 1000000)
  else if nanos % 1000 = 0 then '.' :: Text.zeroPadded 6 (nanos / 1000)
  else '.' :: Text.zeroPadded 9 nanos

/-- Date and time of day in universal time. -/
def dateTimeChars (t : Instant) : List Char :=
  let d := Date.ofDays (t.seconds / 86400)
  let ofDay := (t.seconds % 86400).toNat
  let leap := 1000000000 ≤ t.nanos
  let second := ofDay % 60 + (if leap then 1 else 0)
  yearChars d.year ++ '-' :: Text.zeroPadded 2 d.month ++ '-' :: Text.zeroPadded 2 d.day ++
    'T' :: Text.zeroPadded 2 (ofDay / 3600) ++ ':' :: Text.zeroPadded 2 (ofDay / 60 % 60) ++
    ':' :: Text.zeroPadded 2 second ++ fractionChars (t.nanos % 1000000000)

/-- The stamp with a `Z` at its end, as it stands in stored records. -/
def renderZulu (t : Instant) : String := String.ofList (t.dateTimeChars ++ ['Z'])

/-- The stamp with a numeric offset of zero. -/
def renderOffset (t : Instant) : String :=
  String.ofList (t.dateTimeChars ++ ['+', '0', '0', ':', '0', '0'])

end Instant

end Parley.Time
