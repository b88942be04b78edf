import Mathlib.Tactic.Common
import SubscriptionBilling.Time.Moment

/-! Which counts of seconds are moments. A year begins on its first of January, so the bounds on the
year of a moment are bounds on its seconds. -/
namespace SubscriptionBilling
namespace Date

/-- The days from the first of March of year 0, where eras begin, to the start of 1970. -/
def eraOffset : Int := 719468

/-- The days of an era, which has 400 years. -/
def eraLength : Int := 146097

/-- The year of an era, counted from March, that a day of the era falls in. -/
def yearInEra (day : Int) : Int := (day - day / 1460 + day / 36524 - day / 146096) / 365

/-- The day of an era on which a year of it begins. -/
def beginInEra (year : Int) : Int := 365 * year + year / 4 - year / 100

/-- The first of January comes this many days after the first of March before it. -/
def januaryDay : Int := 306

/-- A day lies in its year, which has 366 days at most. -/
theorem day_mem_year {day : Int} (h0 : 0 ≤ day) (h1 : day < eraLength) :
    beginInEra (yearInEra day) ≤ day ∧ day ≤ beginInEra (yearInEra day) + 365 := by
  unfold beginInEra yearInEra
  unfold eraLength at h1
  rcases Int.lt_or_le day 146096 with h | h
  · have hlast : day / 146096 = 0 := by omega
    rw [hlast]
    have hcentury : (day - day / 1460 + day / 36524 - 0) / 365 / 100 = day / 36524 := by omega
    rw [hcentury]
    generalize hy : (day - day / 1460 + day / 36524 - 0) / 365 = year at *
    have hleap : year / 4 ≤ day / 1460 := by omega
    have hnext : day / 1460 ≤ year / 4 + 1 := by omega
    constructor <;> omega
  · -- The leap day that ends an era is the one day that the divisions above do not tell apart.
    obtain rfl : day = 146096 := by omega
    decide

theorem yearInEra_bounds {day : Int} (h0 : 0 ≤ day) (h1 : day < eraLength) :
    0 ≤ yearInEra day ∧ yearInEra day ≤ 399 := by
  unfold eraLength at h1
  unfold yearInEra
  omega

/-- One for the days of a year, counted from March, that are in January or February. -/
def carry (dayOfYear : Int) : Int :=
  let marchMonth := (5 * dayOfYear + 2) / 153
  let month := if marchMonth < 10 then marchMonth + 3 else marchMonth - 9
  if month ≤ 2 then 1 else 0

theorem carry_eq {dayOfYear : Int} (h0 : 0 ≤ dayOfYear) (h1 : dayOfYear ≤ 365) :
    carry dayOfYear = if dayOfYear < januaryDay then 0 else 1 := by
  unfold carry januaryDay
  by_cases h : dayOfYear < 306
  · have hmonth : (5 * dayOfYear + 2) / 153 < 10 := by omega
    simp only [if_pos h, if_pos hmonth]
    rw [if_neg (by omega)]
  · have hmonth : ¬(5 * dayOfYear + 2) / 153 < 10 := by omega
    simp only [if_neg h, if_neg hmonth]
    rw [if_pos (by omega)]

/-- The calendar year of a day of an era, counted from the year before the era. -/
def calendarYear (day : Int) : Int :=
  yearInEra day + if day < beginInEra (yearInEra day) + januaryDay then 0 else 1

theorem emod_eraLength_bounds (n : Int) : 0 ≤ n % eraLength ∧ n % eraLength < eraLength := by
  unfold eraLength
  omega

theorem year_ofDays (days : Int) :
    (ofDays days).year =
      400 * ((days + eraOffset) / eraLength) + calendarYear ((days + eraOffset) % eraLength) := by
  obtain ⟨h0, h1⟩ := emod_eraLength_bounds (days + eraOffset)
  have hyear : (ofDays days).year = yearInEra ((days + eraOffset) % eraLength) +
      (days + eraOffset) / eraLength * 400 + carry ((days + eraOffset) % eraLength -
        beginInEra (yearInEra ((days + eraOffset) % eraLength))) := rfl
  obtain ⟨hfirst, hlast⟩ := day_mem_year h0 h1
  rw [hyear, carry_eq (by omega) (by omega), calendarYear]
  split <;> split <;> omega

/-- A calendar year of an era begins in January of the year counted from March before it. -/
theorem lt_calendarYear_iff {day year : Int} (h0 : 0 ≤ day) (h1 : day < eraLength) (hy0 : 0 ≤ year)
    (hy1 : year < 400) : year < calendarYear day ↔ beginInEra year + januaryDay ≤ day := by
  unfold eraLength at h1
  unfold calendarYear januaryDay
  rcases Int.lt_trichotomy (yearInEra day) year with h | h | h
  · have hbefore : day < beginInEra year + 306 := by
      unfold beginInEra
      unfold yearInEra at h
      omega
    split <;> omega
  · rw [h]
    split <;> omega
  · have hafter : beginInEra year + 306 ≤ day := by
      unfold beginInEra
      unfold yearInEra at h
      omega
    split <;> omega

/-- A day belongs to a year or a later one from the first of January of that year on. -/
theorem le_year_iff (year days : Int) : year ≤ (ofDays days).year ↔ toDays ⟨year, 1, 1⟩ ≤ days := by
  have hstart : toDays ⟨year, 1, 1⟩ = (year - 1) / 400 * eraLength +
      (beginInEra ((year - 1) % 400) + januaryDay) - eraOffset := by
    have hmonth : toDays ⟨year, 1, 1⟩ = (year - 1) / 400 * 146097 +
        ((year - 1) % 400 * 365 + (year - 1) % 400 / 4 - (year - 1) % 400 / 100 +
          ((153 * 10 + 2) / 5 + 1 - 1)) - 719468 := rfl
    rw [hmonth]
    unfold beginInEra eraLength eraOffset januaryDay
    omega
  obtain ⟨h0, h1⟩ := emod_eraLength_bounds (days + eraOffset)
  have hyear : 0 ≤ (year - 1) % 400 ∧ (year - 1) % 400 < 400 := by omega
  have hin := lt_calendarYear_iff h0 h1 hyear.1 hyear.2
  have hbegin : 0 ≤ beginInEra ((year - 1) % 400) + januaryDay ∧
      beginInEra ((year - 1) % 400) + januaryDay < eraLength := by
    unfold beginInEra januaryDay eraLength
    omega
  have hcalendar : 0 ≤ calendarYear ((days + eraOffset) % eraLength) ∧
      calendarYear ((days + eraOffset) % eraLength) ≤ 400 := by
    have hyear := yearInEra_bounds h0 h1
    unfold calendarYear
    split <;> omega
  rw [hstart, year_ofDays]
  unfold eraLength eraOffset at *
  omega

end Date

namespace Moment

/-- Whether the year of a count of seconds needs more than 32 bits. -/
def IsOffClock (seconds : Int) : Prop :=
  seconds < -67768040609740800 ∨ 67768036191676800 ≤ seconds

/-- Whether a count of seconds falls in the years 1 to 9999. -/
def IsInCalendar (seconds : Int) : Prop := -62135596800 ≤ seconds ∧ seconds < 253402300800

/-- A count of seconds reaches a year when it reaches the day that the year begins on. -/
theorem le_year_seconds_iff {year start : Int} (h : Date.toDays ⟨year, 1, 1⟩ = start)
    (seconds : Int) : year ≤ (Date.ofDays (seconds / 86400)).year ↔ 86400 * start ≤ seconds := by
  rw [Date.le_year_iff, h]
  omega

/-- A count of seconds is a moment, or it is off the clock, or its year is not in the calendar. -/
theorem ofTimestamp_cases (seconds : Int) :
    (IsInCalendar seconds ∧ ofTimestamp seconds = .ok (ofSeconds seconds)) ∨
    (IsOffClock seconds ∧ ∃ e, e ≠ .beyondCalendar ∧ ofTimestamp seconds = .error e) ∨
    (¬IsInCalendar seconds ∧ ¬IsOffClock seconds ∧
      ofTimestamp seconds = .error .beyondCalendar) := by
  have hfirst := le_year_seconds_iff (show Date.toDays ⟨1, 1, 1⟩ = -719162 by decide) seconds
  have hlast := le_year_seconds_iff (show Date.toDays ⟨10000, 1, 1⟩ = 2932897 by decide) seconds
  have hlow := le_year_seconds_iff
    (show Date.toDays ⟨1900 - 2147483648, 1, 1⟩ = -784352321872 by decide) seconds
  have hhigh := le_year_seconds_iff
    (show Date.toDays ⟨1900 + 2147483648, 1, 1⟩ = 784352270737 by decide) seconds
  have hword : wordBound = 9223372036854775808 := rfl
  have hyear : yearBound = 2147483648 := rfl
  unfold ofTimestamp IsInCalendar IsOffClock
  generalize (Date.ofDays (seconds / 86400)).year = year at *
  by_cases h : seconds < -wordBound ∨ wordBound ≤ seconds
  · rw [if_pos h]
    exact .inr (.inl ⟨by omega, _, by decide, rfl⟩)
  rw [if_neg h]
  by_cases h : year - 1900 < -yearBound ∨ yearBound ≤ year - 1900
  · rw [if_pos h]
    exact .inr (.inl ⟨by omega, _, by decide, rfl⟩)
  rw [if_neg h]
  by_cases h : year < 1 ∨ 9999 < year
  · rw [if_pos h]
    exact .inr (.inr ⟨by omega, by omega, rfl⟩)
  · rw [if_neg h]
    exact .inl ⟨by omega, rfl⟩

end Moment
end SubscriptionBilling
