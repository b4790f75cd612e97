import CephExport.Time.Calendar
import Mathlib.Tactic.IntervalCases

/-!
Days and dates: the count of a date leads back to it, and each count of days is that of a date.
-/

set_option autoImplicit false
set_option relaxedAutoImplicit false

namespace CephExport

namespace CalendarDay

theorem isLeapYear_iff {year : Int} :
    isLeapYear year = true ↔ year % 4 = 0 ∧ (year % 100 ≠ 0 ∨ year % 400 = 0) := by
  simp [isLeapYear]

theorem isValid_iff {d : CalendarDay} :
    d.isValid = true ↔ 1 ≤ d.day ∧ d.day ≤ monthLength d.year d.month := by
  simp [isValid]

/-! ### Years of an era -/

/-- A day of an era of four hundred years, by its year and its day in that. Years begin in March, so
that the last day of a leap year is the one that others do not have. -/
structure DayOfEra (days year day : Int) : Prop where
  early : 0 ≤ year
  late : year < 400
  first : 0 ≤ day
  last : day < 365 ∨ day = 365 ∧ isLeapYear (year + 1) = true
  counted : days = year * 365 + year / 4 - year / 100 + day

variable {days year day : Int}

/-- A day of an era is counted in centuries, in fours of years and in years. The last century and
the last year of each four are the longest, and only they have the day that all others lack. -/
theorem exists_dayOfEra (days : Int) (early : 0 ≤ days) (late : days < 146097) :
    ∃ year day, DayOfEra days year day := by
  obtain ⟨century, inCentury, ofCentury, centuries⟩ :
      ∃ century rest : Int, days = 36524 * century + rest ∧
        0 ≤ century ∧ century ≤ 3 ∧ 0 ≤ rest ∧ (rest < 36524 ∨ rest = 36524 ∧ century = 3) := by
    by_cases final : days = 146096
    · exact ⟨3, 36524, by omega⟩
    · exact ⟨days / 36524, days % 36524, by omega⟩
  obtain ⟨four, inFour, ofFour, fours⟩ :
      ∃ four rest : Int, inCentury = 1461 * four + rest ∧
        0 ≤ four ∧ four ≤ 24 ∧ 0 ≤ rest ∧ rest ≤ 1460 ∧
        (rest = 1460 ∧ four = 24 → century = 3) :=
    ⟨inCentury / 1461, inCentury % 1461, by omega⟩
  obtain ⟨year, day, ofYear, years⟩ :
      ∃ year rest : Int, inFour = 365 * year + rest ∧
        0 ≤ year ∧ year ≤ 3 ∧ 0 ≤ rest ∧ (rest < 365 ∨ rest = 365 ∧ year = 3) := by
    by_cases final : inFour = 1460
    · exact ⟨3, 365, by omega⟩
    · exact ⟨inFour / 365, inFour % 365, by omega⟩
  refine ⟨100 * century + 4 * four + year, day, by omega, by omega, by omega, ?_, by omega⟩
  rw [isLeapYear_iff]
  omega

theorem DayOfEra.year_eq (within : DayOfEra days year day) :
    (days - days / 1460 + days / 36524 - days / 146096) / 365 = year := by
  obtain ⟨early, late, first, last, counted⟩ := within
  rw [isLeapYear_iff] at last
  have centuries : days / 36524 - days / 146096 = year / 100 := by
    by_cases final : year = 399 ∧ day = 365
    · obtain ⟨rfl, rfl⟩ := final
      omega
    · have rest : 365 * (year % 100) + year % 100 / 4 + day < 36524 := by omega
      have split : days = 36524 * (year / 100) + (365 * (year % 100) + year % 100 / 4 + day) := by
        omega
      have century : days / 36524 = year / 100 := by omega
      have era : days / 146096 = 0 := by omega
      rw [century, era, Int.sub_zero]
  have fours : year / 4 + day - 364 ≤ days / 1460 ∧ days / 1460 ≤ year / 4 + day := by
    rcases last with common | ⟨rfl, leap⟩ <;> omega
  omega

/-! ### Days of a year -/

def marchYear (d : CalendarDay) : Int := if d.month ≤ 2 then d.year - 1 else d.year

def marchMonth (d : CalendarDay) : Int := if d.month ≤ 2 then d.month + 9 else (d.month : Int) - 3

def dayOfYear (d : CalendarDay) : Int := (153 * d.marchMonth + 2) / 5 + d.day - 1

def ofDayOfYear (year day : Int) : CalendarDay :=
  let month := (5 * day + 2) / 153
  let date := day - (153 * month + 2) / 5 + 1
  let month := if month < 10 then month + 3 else month - 9
  ⟨if month ≤ 2 then year + 1 else year, month.toNat, date.toNat⟩

theorem toDays_eq (d : CalendarDay) : d.toDays = d.marchYear / 400 * 146097 +
    (d.marchYear % 400 * 365 + d.marchYear % 400 / 4 - d.marchYear % 400 / 100 + d.dayOfYear) -
      719468 := rfl

theorem ofDays_eq (within : DayOfEra ((days + 719468) % 146097) year day) :
    ofDays days = ofDayOfYear (year + (days + 719468) / 146097 * 400) day := by
  have found : (days + 719468) % 146097 - (365 * year + year / 4 - year / 100) = day := by
    have := within.counted
    omega
  simp only [ofDays, ofDayOfYear, within.year_eq, found]

theorem bounds_of_isValid {d : CalendarDay} (valid : d.isValid = true) :
    1 ≤ d.month ∧ d.month ≤ 12 ∧ 1 ≤ d.day ∧
      (d.day : Int) ≤ (153 * (d.marchMonth + 1) + 2) / 5 - (153 * d.marchMonth + 2) / 5 ∧
      (d.dayOfYear < 365 ∨ d.dayOfYear = 365 ∧ isLeapYear (d.marchYear + 1) = true) := by
  obtain ⟨year, month, day⟩ := d
  simp only [isValid_iff] at valid
  obtain ⟨first, last⟩ := valid
  simp only [dayOfYear, marchMonth, marchYear]
  unfold monthLength at last
  split at last
  case h_1 =>
    split at last
    · rename_i leap
      simp [leap]
      omega
    · simp
      omega
  case h_13 => omega
  all_goals
    simp
    omega

theorem ofDayOfYear_dayOfYear {d : CalendarDay} (valid : d.isValid = true) :
    ofDayOfYear d.marchYear d.dayOfYear = d := by
  obtain ⟨early, late, first, last, -⟩ := bounds_of_isValid valid
  have month : (5 * d.dayOfYear + 2) / 153 = d.marchMonth := by
    rw [dayOfYear]
    omega
  simp only [ofDayOfYear, month]
  obtain ⟨year, month, day⟩ := d
  simp only [marchMonth, marchYear, dayOfYear, CalendarDay.mk.injEq] at *
  split <;> split <;> split <;> omega

section

variable (first : 0 ≤ day) (last : day ≤ 365)
include first last

theorem marchMonth_ofDayOfYear : (ofDayOfYear year day).marchMonth = (5 * day + 2) / 153 := by
  simp only [ofDayOfYear, marchMonth]
  split <;> split <;> omega

theorem marchYear_ofDayOfYear : (ofDayOfYear year day).marchYear = year := by
  simp only [ofDayOfYear, marchYear]
  split <;> split <;> split <;> omega

theorem dayOfYear_ofDayOfYear : (ofDayOfYear year day).dayOfYear = day := by
  rw [dayOfYear, marchMonth_ofDayOfYear first last]
  simp only [ofDayOfYear]
  omega

end

theorem isValid_ofDayOfYear (first : 0 ≤ day)
    (last : day < 365 ∨ day = 365 ∧ isLeapYear (year + 1) = true) :
    (ofDayOfYear year day).isValid = true := by
  rw [isValid_iff]
  rcases last with common | ⟨rfl, leap⟩
  · obtain ⟨month, found⟩ : ∃ month, (5 * day + 2) / 153 = month := ⟨_, rfl⟩
    have low : 0 ≤ month := by omega
    have high : month < 12 := by omega
    simp only [ofDayOfYear, found]
    -- The months are taken one by one, as their lengths follow no rule.
    interval_cases month <;> simp [monthLength] <;> (try split) <;> omega
  · simp [ofDayOfYear, monthLength, leap]

theorem ofDays_toDays {d : CalendarDay} (valid : d.isValid = true) : ofDays d.toDays = d := by
  obtain ⟨early, -, first, -, last⟩ := bounds_of_isValid valid
  have start : 0 ≤ d.dayOfYear := by
    rw [dayOfYear, marchMonth]
    split <;> omega
  have within : DayOfEra (d.marchYear % 400 * 365 + d.marchYear % 400 / 4 -
      d.marchYear % 400 / 100 + d.dayOfYear) (d.marchYear % 400) d.dayOfYear := by
    refine ⟨by omega, by omega, start, ?_, rfl⟩
    rw [isLeapYear_iff] at last ⊢
    omega
  have era : (d.toDays + 719468) / 146097 = d.marchYear / 400 := by
    rw [toDays_eq]
    omega
  have inEra : (d.toDays + 719468) % 146097 = d.marchYear % 400 * 365 + d.marchYear % 400 / 4 -
      d.marchYear % 400 / 100 + d.dayOfYear := by
    rw [toDays_eq]
    omega
  rw [ofDays_eq (inEra ▸ within), era]
  have year : d.marchYear % 400 + d.marchYear / 400 * 400 = d.marchYear := by omega
  rw [year, ofDayOfYear_dayOfYear valid]

theorem toDays_ofDays (days : Int) :
    (ofDays days).isValid = true ∧ (ofDays days).toDays = days := by
  obtain ⟨year, day, within⟩ :=
    exists_dayOfEra ((days + 719468) % 146097) (by omega) (by omega)
  rw [ofDays_eq within]
  obtain ⟨early, late, first, leap, counted⟩ := within
  have last : day ≤ 365 := by omega
  constructor
  · refine isValid_ofDayOfYear first ?_
    rw [isLeapYear_iff] at leap ⊢
    omega
  · have era : (year + (days + 719468) / 146097 * 400) / 400 = (days + 719468) / 146097 := by omega
    have ofEra : (year + (days + 719468) / 146097 * 400) % 400 = year := by omega
    rw [toDays_eq, marchYear_ofDayOfYear first last, dayOfYear_ofDayOfYear first last, era, ofEra]
    omega

example : toDays ⟨2000, 2, 29⟩ = 11016 ∧ ofDays 11016 = ⟨2000, 2, 29⟩ := by decide

end CalendarDay

end CephExport
