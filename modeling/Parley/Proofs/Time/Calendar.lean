import Mathlib.Data.Int.Order.Basic
import Mathlib.Tactic.IntervalCases
import Parley.Time.Instant

/-!
# Days and dates

Every day has a date, and the date tells the day (`Parley.Time.Date.toDays_ofDays`). The date is one
that the calendar has (`Parley.Time.Date.inCalendar_ofDays`).

The year of a day is found by a division that leaves the leap days out. It goes up with the days, so
it is enough to see that it is right on the first and on the last day of each year of an era
(`Parley.Time.Era.year_eq`).
-/

namespace Parley.Time

/-! ### The days of an era -/

namespace Era

/-- The days of an era before one of its years, of which each begins in March. -/
def daysBefore (year : Int) : Int := 365 * year + year / 4 - year / 100

/-- The days of an era up to a day, those left out that end a year, a century or an era that is one
day longer than others. -/
def plainDays (day : Int) : Int := day - day / 1460 + day / 36524 - day / 146096

/-- The last day of a year of an era. -/
def lastDay (year : Int) : Int := if year = 399 then 146096 else daysBefore (year + 1) - 1

variable {day day' year : Int}

theorem plainDays_mono (_ : 0 ≤ day) (_ : day ≤ day') (_ : day' ≤ 146096) :
    plainDays day ≤ plainDays day' := by
  unfold plainDays
  omega

/-- The first and the last day of a year are found to be in it. -/
theorem plainDays_ends : ∀ year : Nat, year < 400 →
    365 * (year : Int) ≤ plainDays (daysBefore year) ∧
      plainDays (lastDay year) < 365 * ((year : Int) + 1) := by
  decide +kernel

/-- **The year of a day** is the one of which the first day is not after it and the last not before. -/
theorem year_eq (h0 : 0 ≤ day) (hlast : day ≤ 146096) (hyear : plainDays day / 365 = year) :
    0 ≤ year ∧ year ≤ 399 ∧ daysBefore year ≤ day ∧ day ≤ lastDay year := by
  have hbounds : 0 ≤ year ∧ year ≤ 399 := by
    subst hyear
    unfold plainDays
    omega
  obtain ⟨hlow, hhigh⟩ := hbounds
  refine ⟨hlow, hhigh, ?_, ?_⟩
  · by_contra hbefore
    -- the day would not be after the last day of the year before
    have hpos : 1 ≤ year := by
      by_contra hzero
      obtain rfl : year = 0 := by omega
      exact hbefore h0
    have hends := (plainDays_ends (year - 1).toNat (by omega)).2
    rw [Int.toNat_of_nonneg (by omega), Int.sub_add_cancel] at hends
    have hle : day ≤ lastDay (year - 1) := by
      rw [lastDay, if_neg (by omega), Int.sub_add_cancel]
      omega
    have hmax : lastDay (year - 1) ≤ 146096 := by
      rw [lastDay, if_neg (by omega), Int.sub_add_cancel, daysBefore]
      omega
    have hmono := plainDays_mono h0 hle hmax
    omega
  · by_contra hafter
    have hne : year ≠ 399 := by
      rintro rfl
      exact hafter hlast
    rw [lastDay, if_neg hne] at hafter
    have hends := (plainDays_ends (year + 1).toNat (by omega)).1
    rw [Int.toNat_of_nonneg (by omega)] at hends
    have hfirst : 0 ≤ daysBefore (year + 1) := by
      unfold daysBefore
      omega
    have hmono := plainDays_mono hfirst (by omega : daysBefore (year + 1) ≤ day) hlast
    omega

/-- A year that has a day more than 365 ends with the leap day of the next. -/
theorem isLeapYear_of_lastDay (era : Int) (h0 : 0 ≤ year) (h : year ≤ 399)
    (hlast : daysBefore year + 365 ≤ lastDay year) : isLeapYear (year + era * 400 + 1) = true := by
  have hnext : ((year + 1) % 4 = 0 ∧ (year + 1) % 100 ≠ 0) ∨ year = 399 := by
    unfold lastDay daysBefore at hlast
    split at hlast
    · exact .inr ‹_›
    · refine .inl ⟨by omega, by omega⟩
  have hmod : (year + era * 400 + 1) % 4 = (year + 1) % 4 ∧
      (year + era * 400 + 1) % 100 = (year + 1) % 100 ∧
      (year + era * 400 + 1) % 400 = (year + 1) % 400 := by omega
  simp only [isLeapYear, hmod, Bool.or_eq_true, Bool.and_eq_true, beq_iff_eq, bne_iff_ne]
  rcases hnext with hnext | rfl
  · exact .inl hnext
  · exact .inr rfl

end Era

/-! ### Dates -/

namespace Date

/-- The calendar has a date, in some year. -/
structure InCalendar (d : Date) : Prop where
  month_pos : 1 ≤ d.month
  month_le : d.month ≤ 12
  day_pos : 1 ≤ d.day
  day_le : d.day ≤ monthLength d.year d.month

theorem isValid_iff {d : Date} :
    d.isValid = true ↔ yearBounds.1 ≤ d.year ∧ d.year ≤ yearBounds.2 ∧ d.InCalendar := by
  simp only [isValid, Bool.and_eq_true, decide_eq_true_eq, and_assoc]
  constructor
  · rintro ⟨hlow, hhigh, hmonth, hmonth', hday, hday'⟩
    exact ⟨hlow, hhigh, hmonth, hmonth', hday, hday'⟩
  · rintro ⟨hlow, hhigh, hmonth, hmonth', hday, hday'⟩
    exact ⟨hlow, hhigh, hmonth, hmonth', hday, hday'⟩

/-- **A day as its era, its year and its place in the year**, in years that begin in March. A year has
a last day more if the next one of January is a leap year. -/
theorem exists_parts (days : Int) : ∃ era year ofYear : Int,
    days = era * 146097 + Era.daysBefore year + ofYear - 719468 ∧ 0 ≤ year ∧ year ≤ 399 ∧
    0 ≤ ofYear ∧ ofYear ≤ 365 ∧
    (ofYear = 365 → isLeapYear (year + era * 400 + 1) = true) ∧
    ofDays days =
      let fromMarch := (5 * ofYear + 2) / 153
      let month := if fromMarch < 10 then fromMarch + 3 else fromMarch - 9
      ⟨year + era * 400 + (if month ≤ 2 then 1 else 0), month.toNat,
        (ofYear - (153 * fromMarch + 2) / 5 + 1).toNat⟩ := by
  obtain ⟨hlow, hhigh, hfirst, hlast⟩ := Era.year_eq
    (show 0 ≤ (days + 719468) % 146097 by omega) (by omega) rfl
  generalize hyear : Era.plainDays ((days + 719468) % 146097) / 365 = year at *
  refine ⟨(days + 719468) / 146097, year, (days + 719468) % 146097 - Era.daysBefore year, by omega,
    hlow, hhigh, by omega, ?_, fun h => ?_, ?_⟩
  · unfold Era.lastDay Era.daysBefore at *
    split at hlast <;> omega
  · exact Era.isLeapYear_of_lastDay _ hlow hhigh (by omega)
  · have hday : days + 719468 - (days + 719468) / 146097 * 146097 = (days + 719468) % 146097 := by
      omega
    simp only [ofDays, hday]
    rw [← hyear]
    rfl

/-- **The date of a day tells the day.** -/
theorem toDays_ofDays (days : Int) : (ofDays days).toDays = days := by
  obtain ⟨era, year, ofYear, hdays, hlow, hhigh, hfirst, hlast, -, hdate⟩ := exists_parts days
  rw [hdate, hdays]
  unfold Era.daysBefore
  clear hdate hdays
  simp only [toDays]
  generalize hmonth : (5 * ofYear + 2) / 153 = fromMarch
  by_cases hspring : fromMarch < 10
  · simp only [if_pos hspring]
    have hmonth' : ¬ fromMarch + 3 ≤ 2 := by omega
    have hmonth'' : ¬ (fromMarch + 3).toNat ≤ 2 := by omega
    simp only [if_neg hmonth', if_neg hmonth'', Int.add_zero]
    omega
  · simp only [if_neg hspring]
    have hmonth' : fromMarch - 9 ≤ 2 := by omega
    have hmonth'' : (fromMarch - 9).toNat ≤ 2 := by omega
    simp only [if_pos hmonth', if_pos hmonth'', Int.add_sub_cancel]
    omega

/-- **The calendar has the date of every day.** -/
theorem inCalendar_ofDays (days : Int) : (ofDays days).InCalendar := by
  obtain ⟨era, year, ofYear, -, hlow, hhigh, hfirst, hlast, hleap, hdate⟩ := exists_parts days
  rw [hdate]
  clear hdate
  simp only
  obtain ⟨hmonth0, hmonth⟩ : 0 ≤ (5 * ofYear + 2) / 153 ∧ (5 * ofYear + 2) / 153 ≤ 11 := by omega
  generalize hfrom : (5 * ofYear + 2) / 153 = fromMarch at *
  by_cases hfebruary : fromMarch = 11
  · subst hfebruary
    have hday : ofYear - 337 + 1 ≤ if isLeapYear (year + era * 400 + 1) = true then 29 else 28 := by
      split
      · omega
      · rename_i hplain
        have hne : ofYear ≠ 365 := fun h => hplain (hleap h)
        omega
    constructor <;> simp [monthLength] <;> omega
  · clear hleap
    interval_cases fromMarch
    all_goals first
      | exact absurd rfl hfebruary
      | constructor <;> simp [monthLength] <;> omega

end Date

end Parley.Time
