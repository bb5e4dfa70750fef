import Mathlib.Data.List.TakeWhile
import Parley.Proofs.Text.Decimal
import Parley.Proofs.Time.Calendar
import Parley.Time.Stamp

/-!
# A time stamp is read for the time it was written for

A time is written with the parts of its date and of its time of day, each in as many digits as it
always has, and a fraction in as many as it takes. Whoever reads the stamp, after the standard or more
patiently, finds the same parts (`Parley.Time.Stamp.rfc3339_chars`,
`Parley.Time.Stamp.patientStamp_append`), and the parts make the time
(`Parley.Time.Instant.toInstant_parts`).

A time can be told if its year has four digits and if it runs on past a second only where a second is
put in, at the end of a minute (`Parley.Time.Instant.IsTold`). Other years are written with a sign, and
more patient readers know those as well, as far as the calendar goes (`Parley.Time.Instant.IsDated`,
`Parley.Time.Instant.ofText_renderZulu_of_isDated`); whatever such a reader finds is again a time of this
kind (`Parley.Time.Instant.isDated_of_ofText`).
-/

namespace Parley.Time

open Text

namespace Stamp

variable {least width n : Nat} {ds r : List Char}

/-! ### Numbers and marks -/

theorem length_le_byteLength (s : List Char) : s.length ≤ byteLength s := by
  induction s with
  | nil => exact Nat.le_refl _
  | cons c s ih =>
    have hpos := Char.utf8Size_pos c
    simp only [byteLength, List.map_cons, Numeral.total_cons, List.length_cons] at ih ⊢
    omega

/-- **A number is read** in the width that it is written in. -/
theorem digits_append (h : WrittenIn width n ds) (hleast : least ≤ width) (hn : n ≤ 9999) :
    digits least width (ds ++ r) = .ok (n, r) := by
  have hlength := h.length
  have hbytes : least ≤ byteLength (ds ++ r) := by
    refine Nat.le_trans ?_ (length_le_byteLength _)
    rw [List.length_append]
    omega
  have htake : ((ds ++ r).take width).takeWhile isDigit = ds := by
    rw [← hlength, List.take_left]
    exact List.takeWhile_eq_self_iff.mpr h.digits
  have hsmall : n < Nat.pow 2 63 := Nat.lt_of_le_of_lt hn (by decide)
  simp only [digits]
  rw [if_neg (Nat.not_lt.mpr hbytes), htake, if_neg (by omega), h.value, if_pos hsmall,
    List.drop_left]

theorem bounded_append {low high : Nat} (h : WrittenIn width n ds) (hleast : least ≤ width)
    (hlow : low ≤ n) (hhigh : n ≤ high) (hn : high ≤ 9999) :
    bounded low high (digits least width) (ds ++ r) = .ok (n, r) := by
  rw [bounded, digits_append h hleast (Nat.le_trans hhigh hn)]
  change (if _ then _ else _) = _
  rw [if_pos (by simp [hlow, hhigh])]

/-- There is no blank before a number. -/
theorem trimStartChars_append (h : WrittenIn width n ds) (hwidth : 0 < width) :
    trimStartChars (ds ++ r) = ds ++ r := by
  obtain ⟨hdigits, hlength, -⟩ := h
  cases ds with
  | nil => exact absurd hlength (Nat.ne_of_lt hwidth)
  | cons d ds =>
    refine List.dropWhile_cons_of_neg ?_
    have hd := hdigits d List.mem_cons_self
    simp only [isDigit, Bool.and_eq_true, decide_eq_true_eq, Char.le_def,
      UInt32.le_iff_toNat_le] at hd
    have h0 : '0'.val.toNat = 48 := rfl
    have h9 : '9'.val.toNat = 57 := rfl
    have hn : d.toNat = d.val.toNat := rfl
    simp only [isBlank, Bool.or_eq_true, Bool.and_eq_true, decide_eq_true_eq, beq_iff_eq]
    omega

theorem patient_append {low high : Nat} (h : WrittenIn 2 n ds) (hlow : low ≤ n) (hhigh : n ≤ high)
    (hn : high ≤ 9999) : patient low high (ds ++ r) = .ok (n, r) := by
  rw [patient, trimStartChars_append h (by decide)]
  exact bounded_append h (by decide) hlow hhigh hn

theorem patientYear_append (h : WrittenIn 4 n ds) (hn : n ≤ 9999) :
    patientYear (ds ++ r) = .ok ((n : Int), r) := by
  rw [patientYear, trimStartChars_append h (by decide)]
  have hscan : digits 1 4 (ds ++ r) = .ok (n, r) := digits_append h (by decide) hn
  obtain ⟨hdigits, hlength, -⟩ := h
  cases ds with
  | nil => cases hlength
  | cons d ds =>
    have hd := hdigits d List.mem_cons_self
    have hminus : d ≠ '-' := by rintro rfl; cases hd
    have hplus : d ≠ '+' := by rintro rfl; cases hd
    split
    · cases ‹d :: ds ++ r = '-' :: _›
      exact absurd rfl hminus
    · cases ‹d :: ds ++ r = '+' :: _›
      exact absurd rfl hplus
    · have hlow : -2147483648 ≤ (n : Int) := by omega
      have hhigh : (n : Int) < 2147483648 := by omega
      simp only [hscan, Except.map, bind, Except.bind, hlow, hhigh, decide_true, Bool.and_self,
        if_true]

/-- All digits that there are are read. -/
theorem digits_of_all (hdigits : ∀ d ∈ ds, isDigit d = true) (hne : ds ≠ [])
    (hvalue : digitsValue ds = n) (hn : n < Nat.pow 2 63) :
    digits 1 (ds ++ '-' :: r).length (ds ++ '-' :: r) = .ok (n, '-' :: r) := by
  have hpos := List.length_pos_iff.mpr hne
  have hbytes : 1 ≤ byteLength (ds ++ '-' :: r) := by
    refine Nat.le_trans ?_ (length_le_byteLength _)
    rw [List.length_append]
    omega
  have hshown : (ds ++ '-' :: r).takeWhile isDigit = ds := by
    rw [List.takeWhile_append_of_pos hdigits, List.takeWhile_cons_of_neg (by decide), List.append_nil]
  simp only [digits]
  rw [if_neg (Nat.not_lt.mpr hbytes), List.take_length, hshown, if_neg (by omega), hvalue, if_pos hn,
    List.drop_left]

section Signed

variable {s : List Char} (hscan : digits 1 s.length s = .ok (n, r)) (hn : n < 2147483648)

include hscan hn

theorem patientYear_minus : patientYear ('-' :: s) = .ok (-(n : Int), r) := by
  have htrim : trimStartChars ('-' :: s) = '-' :: s := rfl
  have hleast : -2147483648 ≤ -(n : Int) := by omega
  have hlast : -(n : Int) < 2147483648 := by omega
  simp only [patientYear, htrim, hscan, Except.map, bind, Except.bind, hleast, hlast, decide_true,
    Bool.and_self, if_true]

theorem patientYear_plus : patientYear ('+' :: s) = .ok ((n : Int), r) := by
  have htrim : trimStartChars ('+' :: s) = '+' :: s := rfl
  have hleast : -2147483648 ≤ (n : Int) := by omega
  have hlast : (n : Int) < 2147483648 := by omega
  simp only [patientYear, htrim, hscan, Except.map, bind, Except.bind, hleast, hlast, decide_true,
    Bool.and_self, if_true]

end Signed

/-- **A year is read as it is written**, with a sign if it has not four digits. -/
theorem patientYear_yearChars {y : Int} (hleast : yearBounds.1 ≤ y) (hlast : y ≤ yearBounds.2) :
    patientYear (Instant.yearChars y ++ '-' :: r) = .ok (y, '-' :: r) := by
  simp only [yearBounds] at hleast hlast
  unfold Instant.yearChars
  split
  · rename_i hfour
    rw [Bool.and_eq_true, decide_eq_true_eq, decide_eq_true_eq] at hfour
    rw [patientYear_append (writtenIn_zeroPadded (by decide) (by omega)) (by omega),
      Int.toNat_of_nonneg hfour.1]
  · have hne : zeroPadded 4 y.natAbs ≠ [] := by simp [zeroPadded, decimal]
    have h63 : Nat.pow 2 63 = 9223372036854775808 := rfl
    have hscan : digits 1 (zeroPadded 4 y.natAbs ++ '-' :: r).length
        (zeroPadded 4 y.natAbs ++ '-' :: r) = .ok (y.natAbs, '-' :: r) :=
      digits_of_all (fun _ => isDigit_of_mem_zeroPadded) hne (digitsValue_zeroPadded 4 _) (by omega)
    split
    · have hy : -(y.natAbs : Int) = y := by omega
      rw [List.cons_append, patientYear_minus hscan (by omega), hy]
    · have hy : (y.natAbs : Int) = y := by omega
      rw [List.cons_append, patientYear_plus hscan (by omega), hy]

/-- Digits after a point are read as a fraction. -/
theorem fraction_append (h : WrittenIn width n ds) (h0 : 0 < width) (h9 : width ≤ 9) :
    fraction ('.' :: (ds ++ 'Z' :: r)) = .ok (n * Nat.pow 10 (9 - width), 'Z' :: r) := by
  have hZ : isDigit 'Z' = false := rfl
  have hlength := h.length
  have hshown : ((ds ++ 'Z' :: r).take 9).takeWhile isDigit = ds := by
    rw [List.take_append, List.take_of_length_le (by omega), List.takeWhile_append_of_pos h.digits]
    cases hrest : 9 - ds.length with
    | zero => simp
    | succ k => simp [hZ]
  have hne : ds ≠ [] := by
    rintro rfl
    exact absurd hlength (Nat.ne_of_lt h0)
  simp only [fraction, hshown]
  rw [if_neg (by simp), if_neg (by simpa using hne), h.value, hlength, List.drop_left' hlength]
  simp [hZ]

/-- A fraction is written with as many digits as it takes. -/
theorem fraction_fractionChars (h : n < 1000000000) :
    fraction (Instant.fractionChars n ++ 'Z' :: r) = .ok (n, 'Z' :: r) := by
  unfold Instant.fractionChars
  split_ifs with h0 h6 h3
  · subst h0
    rfl
  · rw [List.cons_append, fraction_append (writtenIn_zeroPadded (by decide) (by omega)) (by decide)
      (by decide), Nat.pow_eq, Nat.div_mul_cancel (Nat.dvd_of_mod_eq_zero h6)]
  · rw [List.cons_append, fraction_append (writtenIn_zeroPadded (by decide) (by omega)) (by decide)
      (by decide), Nat.pow_eq, Nat.div_mul_cancel (Nat.dvd_of_mod_eq_zero h3)]
  · rw [List.cons_append, fraction_append (writtenIn_zeroPadded (by decide) (by omega)) (by decide)
      (by decide), Nat.pow_eq, Nat.mul_one]

/-! ### The parts of a stamp -/

/-- The parts of a stamp in universal time are within the bounds of its form. -/
structure Parts.IsBounded (p : Parts) : Prop where
  year : 0 ≤ p.year ∧ p.year ≤ 9999
  month : 1 ≤ p.month ∧ p.month ≤ 12
  day : 1 ≤ p.day ∧ p.day ≤ 31
  hour : p.hour ≤ 23
  minute : p.minute ≤ 59
  second : p.second ≤ 60
  nanos : p.nanos < 1000000000
  offset : p.offset = 0

/-- All parts but the year are within these bounds. -/
structure Parts.IsClocked (p : Parts) : Prop where
  month : 1 ≤ p.month ∧ p.month ≤ 12
  day : 1 ≤ p.day ∧ p.day ≤ 31
  hour : p.hour ≤ 23
  minute : p.minute ≤ 59
  second : p.second ≤ 60
  nanos : p.nanos < 1000000000
  offset : p.offset = 0

theorem Parts.IsBounded.isClocked {p : Parts} (h : p.IsBounded) : p.IsClocked :=
  ⟨h.month, h.day, h.hour, h.minute, h.second, h.nanos, h.offset⟩

/-- The time of day as it is written, and the mark of universal time. -/
def Parts.timeChars (p : Parts) : List Char :=
  zeroPadded 2 p.hour ++ ':' :: (zeroPadded 2 p.minute ++ ':' :: (zeroPadded 2 p.second ++
    (Instant.fractionChars p.nanos ++ ['Z'])))

/-- What is written behind the year. -/
def Parts.afterYear (p : Parts) : List Char :=
  '-' :: (zeroPadded 2 p.month ++ '-' :: (zeroPadded 2 p.day ++ 'T' :: p.timeChars))

/-- The parts of a stamp as they are written. -/
def Parts.chars (p : Parts) : List Char :=
  zeroPadded 4 p.year.toNat ++ '-' :: (zeroPadded 2 p.month ++ '-' :: (zeroPadded 2 p.day ++
    'T' :: p.timeChars))

theorem ok_bind {α β : Type} (x : α) (f : α → Except Misfit β) : (Except.ok x >>= f) = f x := rfl

theorem divider_cons : divider ('T' :: r) = .ok ((), r) := rfl

theorem trimStartChars_mark {c : Char} (hc : c = '-' ∨ c = ':') :
    trimStartChars (c :: r) = c :: r := by
  rcases hc with rfl | rfl <;> rfl

theorem mark_cons (c : Char) : mark c (c :: r) = .ok ((), r) := by rw [mark, if_pos rfl]

section Parts

variable {p : Parts}

/-- A part of two digits is written in them. -/
theorem Parts.IsClocked.written (h : p.IsClocked) : WrittenIn 2 p.month (zeroPadded 2 p.month) ∧
    WrittenIn 2 p.day (zeroPadded 2 p.day) ∧ WrittenIn 2 p.hour (zeroPadded 2 p.hour) ∧
    WrittenIn 2 p.minute (zeroPadded 2 p.minute) ∧ WrittenIn 2 p.second (zeroPadded 2 p.second) := by
  obtain ⟨hmonth, hday, hhour, hminute, hsecond, -, -⟩ := h
  refine ⟨?_, ?_, ?_, ?_, ?_⟩ <;> refine writtenIn_zeroPadded (by decide) ?_ <;> omega

/-- **The parts are read** from a stamp in the standard's form. -/
theorem rfc3339_chars (h : p.IsBounded) : rfc3339 p.chars = .ok (p, []) := by
  obtain ⟨wmonth, wday, whour, wminute, wsecond⟩ := h.isClocked.written
  obtain ⟨hyear, hmonth, hday, hhour, hminute, hsecond, hnanos, hoffset⟩ := h
  have wyear : WrittenIn 4 p.year.toNat (zeroPadded 4 p.year.toNat) :=
    writtenIn_zeroPadded (by decide) (by omega)
  simp only [rfc3339, Parts.chars, Parts.timeChars, ok_bind, mark_cons,
    digits_append wyear (Nat.le_refl 4) (by omega : p.year.toNat ≤ 9999),
    bounded_append wmonth (Nat.le_refl 2) hmonth.1 hmonth.2 (by decide),
    bounded_append wday (Nat.le_refl 2) hday.1 hday.2 (by decide),
    bounded_append whour (Nat.le_refl 2) (Nat.zero_le _) hhour (by decide),
    bounded_append wminute (Nat.le_refl 2) (Nat.zero_le _) hminute (by decide),
    bounded_append wsecond (Nat.le_refl 2) (Nat.zero_le _) hsecond (by decide), divider_cons,
    fraction_fractionChars hnanos, offsetWith, Int.toNat_of_nonneg hyear.1]
  rw [← hoffset]
  rfl

variable (h : p.IsClocked)

include h

theorem patientDate_append {ys : List Char}
    (hyear : patientYear (ys ++ p.afterYear) = .ok (p.year, p.afterYear)) :
    patientDate true (ys ++ p.afterYear) =
      .ok (⟨p.year, p.month, p.day, 0, 0, 0, 0, 0⟩, 'T' :: p.timeChars) := by
  obtain ⟨wmonth, wday, -, -, -⟩ := h.written
  simp only [patientDate, hyear, ok_bind]
  simp only [Parts.afterYear, ok_bind, looseMark, if_true, trimStartChars_mark (.inl rfl), mark_cons,
    patient_append wmonth h.month.1 h.month.2 (by decide),
    patient_append wday h.day.1 h.day.2 (by decide)]
  rfl

theorem patientTime_chars : patientTime true ⟨p.year, p.month, p.day, 0, 0, 0, 0, 0⟩ p.timeChars =
    .ok (⟨p.year, p.month, p.day, p.hour, p.minute, p.second, p.nanos, 0⟩, ['Z']) := by
  obtain ⟨-, -, whour, wminute, wsecond⟩ := h.written
  obtain ⟨-, -, hhour, hminute, hsecond, hnanos, -⟩ := h
  simp only [patientTime, Parts.timeChars, ok_bind, looseMark, if_true,
    trimStartChars_mark (.inr rfl), mark_cons,
    patient_append whour (Nat.zero_le _) hhour (by decide),
    patient_append wminute (Nat.zero_le _) hminute (by decide),
    patient_append wsecond (Nat.zero_le _) hsecond (by decide), fraction_fractionChars hnanos]
  rfl

/-- **The parts are read** by whoever reads more patiently, however the year is written. -/
theorem patientStamp_append {ys : List Char}
    (hyear : patientYear (ys ++ p.afterYear) = .ok (p.year, p.afterYear)) :
    patientStamp (ys ++ p.afterYear) = .ok (p, []) := by
  simp only [patientStamp, patientDate_append h hyear, ok_bind, divider_cons, patientTime_chars h]
  have hmark : (List.take 3 (trimStartChars ['Z'])).map upperChar ≠ ['U', 'T', 'C'] := by decide
  rw [if_neg hmark]
  change Except.ok (Parts.mk p.year p.month p.day p.hour p.minute p.second p.nanos 0, []) = _
  rw [← h.offset]

end Parts

end Stamp

namespace Instant

open Stamp

/-- A time runs on past a second only where a second is put in, at the end of a minute. -/
def IsProper (t : Instant) : Prop :=
  t.nanos < 1000000000 ∨ t.nanos < 2000000000 ∧ t.seconds % 60 = 59

instance (t : Instant) : Decidable t.IsProper :=
  inferInstanceAs (Decidable (t.nanos < 1000000000 ∨ t.nanos < 2000000000 ∧ t.seconds % 60 = 59))

/-- A time can be told in a stamp: the year has four digits, and no second is put in where there is
none. -/
structure IsTold (t : Instant) : Prop where
  year : 0 ≤ (Date.ofDays (t.seconds / 86400)).year ∧ (Date.ofDays (t.seconds / 86400)).year ≤ 9999
  proper : t.IsProper

/-- The parts of a time. -/
def parts (t : Instant) : Parts :=
  let date := Date.ofDays (t.seconds / 86400)
  let ofDay := (t.seconds % 86400).toNat
  ⟨date.year, date.month, date.day, ofDay / 3600, ofDay / 60 % 60,
    ofDay % 60 + (if 1000000000 ≤ t.nanos then 1 else 0), t.nanos % 1000000000, 0⟩

theorem day_le_31 (y : Int) (m : Nat) : monthLength y m ≤ 31 := by
  unfold monthLength
  split_ifs <;> decide

/-- A time has a date within the calendar: its year is within bounds, and no second is put in where
there is none. -/
structure IsDated (t : Instant) : Prop where
  year : yearBounds.1 ≤ (Date.ofDays (t.seconds / 86400)).year ∧
    (Date.ofDays (t.seconds / 86400)).year ≤ yearBounds.2
  proper : t.IsProper

variable {t : Instant}

theorem IsTold.isDated (h : t.IsTold) : t.IsDated := by
  obtain ⟨hyear, hproper⟩ := h
  refine ⟨?_, hproper⟩
  simp only [yearBounds]
  omega

theorem isClocked_parts (t : Instant) : t.parts.IsClocked where
  month := ⟨(Date.inCalendar_ofDays _).month_pos, (Date.inCalendar_ofDays _).month_le⟩
  day := ⟨(Date.inCalendar_ofDays _).day_pos,
    Nat.le_trans (Date.inCalendar_ofDays _).day_le (day_le_31 _ _)⟩
  hour := by
    change (t.seconds % 86400).toNat / 3600 ≤ 23
    omega
  minute := by
    change (t.seconds % 86400).toNat / 60 % 60 ≤ 59
    omega
  second := by
    change (t.seconds % 86400).toNat % 60 + (if _ then _ else _) ≤ 60
    split <;> omega
  nanos := Nat.mod_lt _ (by decide)
  offset := rfl

theorem isBounded_parts (h : t.IsTold) : t.parts.IsBounded := by
  obtain ⟨hmonth, hday, hhour, hminute, hsecond, hnanos, hoffset⟩ := isClocked_parts t
  exact ⟨h.year, hmonth, hday, hhour, hminute, hsecond, hnanos, hoffset⟩

theorem toList_renderZulu (t : Instant) :
    t.renderZulu.toList = yearChars t.parts.year ++ t.parts.afterYear := by
  simp only [renderZulu, String.toList_ofList, dateTimeChars, Parts.afterYear, Parts.timeChars, parts,
    List.append_assoc, List.cons_append]

/-- **The parts make the time.** -/
theorem toInstant_parts (h : t.IsDated) : t.parts.toInstant = .ok t := by
  have hvalid : (Date.ofDays (t.seconds / 86400)).isValid = true :=
    Date.isValid_iff.mpr ⟨h.year.1, h.year.2, Date.inCalendar_ofDays _⟩
  have hdate : (⟨t.parts.year, t.parts.month, t.parts.day⟩ : Date) = Date.ofDays (t.seconds / 86400) :=
    rfl
  have hday := Date.toDays_ofDays (t.seconds / 86400)
  have hsecond : (if t.parts.second = 60 then 59 else t.parts.second) =
      (t.seconds % 86400).toNat % 60 := by
    have hproper := h.proper
    unfold IsProper at hproper
    simp only [parts]
    split_ifs <;> omega
  have hseconds : t.seconds / 86400 * 86400 + ((t.parts.hour : Int) * 3600 + t.parts.minute * 60 +
      ((t.seconds % 86400).toNat % 60 : Nat)) - t.parts.offset = t.seconds := by
    simp only [parts]
    omega
  have hnanos : t.parts.nanos + (if t.parts.second = 60 then 1000000000 else 0) = t.nanos := by
    have hproper := h.proper
    unfold IsProper at hproper
    simp only [parts]
    split_ifs <;> omega
  simp only [Parts.toInstant, hdate, hvalid, hday, hsecond, hseconds, hnanos]
  rfl

/-- **A time stamp in the standard's form is read for its time.** -/
theorem ofRfc3339?_renderZulu (h : t.IsTold) : ofRfc3339? t.renderZulu = some t := by
  have hchars : t.renderZulu.toList = t.parts.chars := by
    have hyear : (0 ≤ t.parts.year && t.parts.year ≤ 9999) = true := by
      simpa using (isBounded_parts h).year
    rw [toList_renderZulu, yearChars, if_pos hyear]
    rfl
  have hoffset : ¬ 86340 < t.parts.offset.natAbs := by
    rw [(isClocked_parts t).offset]
    decide
  rw [ofRfc3339?, hchars]
  simp only [all, rfc3339_chars (isBounded_parts h), ok_bind, List.isEmpty_nil, if_true,
    if_neg hoffset, toInstant_parts h.isDated]
  rfl

/-- **So it is by whoever reads more patiently**, in whatever year of the calendar. -/
theorem ofText_renderZulu_of_isDated (h : t.IsDated) : ofText t.renderZulu = .ok t := by
  have hyear : patientYear (yearChars t.parts.year ++ t.parts.afterYear) =
      .ok (t.parts.year, t.parts.afterYear) := patientYear_yearChars h.year.1 h.year.2
  rw [ofText, toList_renderZulu, patientStamp_append (isClocked_parts t) hyear, ok_bind]
  exact toInstant_parts h

theorem ofText_renderZulu (h : t.IsTold) : ofText t.renderZulu = .ok t :=
  ofText_renderZulu_of_isDated h.isDated

end Instant

/-! ### What is read is a time that can be written -/

namespace Stamp

theorem bind_eq_ok {α β : Type} {x : Except Misfit α} {f : α → Except Misfit β} {y : β} :
    (x >>= f) = .ok y ↔ ∃ a, x = .ok a ∧ f a = .ok y := by
  cases x with
  | error e => exact ⟨nofun, nofun⟩
  | ok a => exact ⟨fun h => ⟨a, rfl, h⟩, fun ⟨_, ha, h⟩ => by cases ha; exact h⟩

/-- Parts are measured if their fraction is one of a second and their offset is one in minutes. -/
structure Parts.IsMeasured (p : Parts) : Prop where
  nanos : p.nanos < 1000000000
  offset : p.offset % 60 = 0

theorem Parts.IsMeasured.isDated {p : Parts} (hp : p.IsMeasured) {t : Instant}
    (h : p.toInstant = .ok t) : t.IsDated := by
  have hnanos := hp.nanos
  have hoffset := hp.offset
  simp only [Parts.toInstant] at h
  -- an offset of whole minutes leaves a second that is put in at the end of one
  split_ifs at h with _ _ hsecond hvalid hvalid <;> cases h
  all_goals
    obtain ⟨hleast, hlast, -⟩ := Date.isValid_iff.mp hvalid
    refine ⟨⟨hleast, hlast⟩, ?_⟩
    unfold Instant.IsProper
    dsimp only
    omega

/-- What is read as a fraction is less than a second. -/
theorem fraction_lt {s r : List Char} {n : Nat} (h : fraction s = .ok (n, r)) : n < 1000000000 := by
  unfold fraction at h
  split at h
  · rename_i r'
    have hlength : ((r'.take 9).takeWhile Text.isDigit).length ≤ 9 :=
      (List.takeWhile_sublist _).length_le.trans (List.length_take_le 9 r')
    have hvalue := Text.digitsValue_lt ((r'.take 9).takeWhile Text.isDigit)
    generalize (r'.take 9).takeWhile Text.isDigit = shown at *
    dsimp only at h
    split at h
    · cases h
    split at h
    · cases h
    cases h
    calc Text.digitsValue shown * Nat.pow 10 (9 - shown.length)
        < 10 ^ shown.length * 10 ^ (9 - shown.length) :=
          Nat.mul_lt_mul_of_pos_right hvalue (Nat.pow_pos (by decide))
      _ = 1000000000 := by rw [← Nat.pow_add, Nat.add_sub_cancel' hlength]
  · cases h
    decide

/-- What is read as an offset is one in minutes. -/
theorem offsetWith_mod {between : List Char → Except Misfit (List Char)} {s r : List Char} {n : Int}
    (h : offsetWith between s = .ok (n, r)) : n % 60 = 0 := by
  unfold offsetWith at h
  split at h
  · cases h
  · cases h
    rfl
  · cases h
    rfl
  · dsimp only at h
    split_ifs at h
    -- whatever the sign
    all_goals
      obtain ⟨negative, -, h⟩ := bind_eq_ok.mp h
      obtain ⟨⟨hours, _⟩, -, h⟩ := bind_eq_ok.mp h
      obtain ⟨_, -, h⟩ := bind_eq_ok.mp h
      obtain ⟨⟨minutes, _⟩, -, h⟩ := bind_eq_ok.mp h
      dsimp only at h
      split at h
      · cases h
      · cases h
        split_ifs <;> omega

theorem nanos_patientTime {loose : Bool} {date p : Parts} {s r : List Char}
    (h : patientTime loose date s = .ok (p, r)) : p.nanos < 1000000000 := by
  unfold patientTime at h
  iterate 5 obtain ⟨_, -, h⟩ := bind_eq_ok.mp h
  obtain ⟨_, hfraction, h⟩ := bind_eq_ok.mp h
  cases h
  exact fraction_lt hfraction

theorem isMeasured_patientStamp {s r : List Char} {p : Parts} (h : patientStamp s = .ok (p, r)) :
    p.IsMeasured := by
  unfold patientStamp at h
  obtain ⟨_, -, h⟩ := bind_eq_ok.mp h
  obtain ⟨_, -, h⟩ := bind_eq_ok.mp h
  obtain ⟨⟨date, _⟩, htime, h⟩ := bind_eq_ok.mp h
  have hnanos := nanos_patientTime htime
  dsimp only at h
  split at h <;> obtain ⟨⟨offset, _⟩, hoffset, h⟩ := bind_eq_ok.mp h <;> cases h
  · cases hoffset
    exact ⟨hnanos, rfl⟩
  · exact ⟨hnanos, offsetWith_mod hoffset⟩

end Stamp

namespace Instant

open Stamp

theorem eq_ok_of_toOption {x : Except Misfit Instant} {t : Instant} (h : x.toOption = some t) :
    x = .ok t := by
  cases x with
  | error e => cases h
  | ok t' => exact congrArg _ (Option.some.inj h)

/-- **Whatever a patient reader takes a stamp for can be written again**, in any year. -/
theorem isDated_of_ofText {s : String} {t : Instant} (h : ofText s = .ok t) : t.IsDated := by
  obtain ⟨⟨p, rest⟩, hp, h⟩ := bind_eq_ok.mp h
  dsimp only at h
  split at h
  · exact (isMeasured_patientStamp hp).isDated h
  · cases h

end Instant

end Parley.Time
