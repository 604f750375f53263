import DeviceKernels.Text.Instant
import Mathlib

/-
Dates and the days before them. The calendar repeats after 400 years. Both ways begin a year in
March, so that the day a leap year adds is the last one of its year.
-/

namespace DeviceKernels.Instant

/-- The year of a day in a cycle of 400 years, whose days before it are counted. -/
theorem yearOfEra_spec (day : Int) (nonneg : 0 ≤ day) (small : day < 146097) :
    let year := (day - day / 1460 + day / 36524 - day / 146096) / 365
    let dayOfYear := day - (365 * year + year / 4 - year / 100)
    0 ≤ year ∧ year < 400 ∧ 0 ≤ dayOfYear ∧ dayOfYear ≤ 365 ∧
      (dayOfYear = 365 → (year + 1) % 4 = 0 ∧ ((year + 1) % 100 = 0 → year = 399)) := by
  intro year dayOfYear
  have four : year / 4 ≤ day / 1460 := by omega
  have hundred : year / 100 = day / 36524 - day / 146096 := by
    have century : day / 36524 = 0 ∨ day / 36524 = 1 ∨ day / 36524 = 2 ∨ day / 36524 = 3 ∨
      day / 36524 = 4 := by omega
    rcases century with century | century | century | century | century <;> omega
  have lower : 365 * year ≤ day - day / 1460 + day / 36524 - day / 146096 := by omega
  have upper : day - day / 1460 + day / 36524 - day / 146096 < 365 * (year + 1) := by omega
  clear_value year
  refine ⟨by omega, by omega, by omega, by omega, ?_⟩
  intro last
  have third : year % 4 = 3 := by omega
  refine ⟨by omega, ?_⟩
  intro century
  omega

/-- The months of a year that begins in March: the first day of each is after the days of the months
before it, and only the last one has a length that the year decides. -/
theorem monthFromMarch_spec (dayOfYear : Int) (nonneg : 0 ≤ dayOfYear) (small : dayOfYear ≤ 365) :
    let month := (5 * dayOfYear + 2) / 153
    let day := dayOfYear - (153 * month + 2) / 5 + 1
    0 ≤ month ∧ month ≤ 11 ∧ 1 ≤ day ∧ day ≤ 31 ∧
      (month = 1 ∨ month = 3 ∨ month = 6 ∨ month = 8 → day ≤ 30) ∧
      (month = 11 → day ≤ 29 ∧ (day = 29 → dayOfYear = 365)) := by
  intro month day
  refine ⟨by omega, by omega, by omega, by omega, by omega, by omega⟩

/-- A date that the calendar has. -/
structure IsDate (year : Int) (month day : Nat) : Prop where
  month_pos : 1 ≤ month
  month_le : month ≤ 12
  day_pos : 1 ≤ day
  day_le : day ≤ daysInMonth year month

theorem daysInMonth_le (year : Int) (month : Nat) : daysInMonth year month ≤ 31 := by
  unfold daysInMonth
  repeat' split
  all_goals decide

/-- A month counted from March and a day of it are a date. -/
theorem isDate_monthFromMarch {year monthFromMarch day : Int} (nonneg : 0 ≤ monthFromMarch)
    (small : monthFromMarch ≤ 11) (some : 1 ≤ day) (most : day ≤ 31)
    (short : monthFromMarch = 1 ∨ monthFromMarch = 3 ∨ monthFromMarch = 6 ∨ monthFromMarch = 8 →
      day ≤ 30)
    (february : monthFromMarch = 11 → day ≤ 29 ∧ (day = 29 → isLeapYear year)) :
    IsDate year (if monthFromMarch < 10 then monthFromMarch + 3 else monthFromMarch - 9).toNat
      day.toNat where
  month_pos := by split <;> omega
  month_le := by split <;> omega
  day_pos := by omega
  day_le := by
    obtain ⟨month, counted⟩ : ∃ month, (if monthFromMarch < 10 then monthFromMarch + 3
      else monthFromMarch - 9).toNat = month := ⟨_, rfl⟩
    have shifted : monthFromMarch = if month ≤ 2 then (month : Int) + 9 else (month : Int) - 3 := by
      split at counted <;> split <;> omega
    rw [counted]
    unfold daysInMonth
    split
    case isTrue second =>
      have last : monthFromMarch = 11 := by rw [shifted, eq_of_beq second]; rfl
      obtain ⟨most, leapDay⟩ := february last
      split
      case isTrue => omega
      case isFalse common =>
        have noLeapDay : day ≠ 29 := fun same => common (leapDay same)
        omega
    case isFalse =>
      split
      case isTrue thirty =>
        simp only [Bool.or_eq_true, beq_iff_eq] at thirty
        have := short (by split at shifted <;> omega)
        omega
      case isFalse => omega

/-- The days to a date that is told by the month counted from March. -/
theorem daysFromDate_monthFromMarch {era year monthFromMarch day : Int} (yearNonneg : 0 ≤ year)
    (yearSmall : year < 400) (nonneg : 0 ≤ monthFromMarch) (small : monthFromMarch ≤ 11)
    (some : 1 ≤ day) :
    let month := if monthFromMarch < 10 then monthFromMarch + 3 else monthFromMarch - 9
    daysFromDate (year + era * 400 + (if month ≤ 2 then 1 else 0)) month.toNat day.toNat =
      era * 146097 + (year * 365 + year / 4 - year / 100 +
        ((153 * monthFromMarch + 2) / 5 + day - 1)) - 719468 := by
  intro month
  have early : month ≤ 2 ↔ ¬monthFromMarch < 10 := by omega
  have months : ((month.toNat : Nat) : Int) = month := Int.toNat_of_nonneg (by omega)
  have days : ((day.toNat : Nat) : Int) = day := Int.toNat_of_nonneg (by omega)
  have narrow : month.toNat ≤ 2 ↔ month ≤ 2 := by omega
  simp only [daysFromDate, months, days, narrow]
  by_cases before : monthFromMarch < 10
  · have late : ¬month ≤ 2 := by omega
    have same : month - 3 = monthFromMarch := by omega
    have eras : (year + era * 400) / 400 = era := by omega
    have years : (year + era * 400) % 400 = year := by omega
    simp only [if_neg late, add_zero, same, eras, years]
  · have late : month ≤ 2 := by omega
    have same : month + 9 = monthFromMarch := by omega
    have eras : (year + era * 400 + 1 - 1) / 400 = era := by omega
    have years : (year + era * 400 + 1 - 1) % 400 = year := by omega
    simp only [if_pos late, same, eras, years]

/-- The days to the date of a number of days are that number. -/
theorem daysFromDate_dateFromDays (days : Int) :
    let (year, month, day) := dateFromDays days
    IsDate year month day ∧ daysFromDate year month day = days := by
  have nonneg : 0 ≤ (days + 719468) % 146097 := by omega
  have small : (days + 719468) % 146097 < 146097 := by omega
  have whole : days + 719468 = (days + 719468) / 146097 * 146097 + (days + 719468) % 146097 := by
    omega
  simp only [dateFromDays]
  obtain ⟨yearNonneg, yearSmall, dayNonneg, daySmall, leap⟩ := yearOfEra_spec _ nonneg small
  generalize (days + 719468) / 146097 = era at *
  generalize (days + 719468) % 146097 = dayOfEra at *
  generalize (dayOfEra - dayOfEra / 1460 + dayOfEra / 36524 - dayOfEra / 146096) / 365 = year at *
  generalize counted : dayOfEra - (365 * year + year / 4 - year / 100) = dayOfYear at *
  obtain ⟨monthNonneg, monthSmall, dayPositive, most, short, february⟩ :=
    monthFromMarch_spec dayOfYear dayNonneg daySmall
  constructor
  · apply isDate_monthFromMarch monthNonneg monthSmall dayPositive most short
    intro last
    refine ⟨(february last).1, fun leapDay => ?_⟩
    have four := leap ((february last).2 leapDay)
    rw [last]
    simp only [isLeapYear, Bool.and_eq_true, Bool.or_eq_true, beq_iff_eq, bne_iff_ne]
    norm_num
    omega
  · rw [daysFromDate_monthFromMarch yearNonneg yearSmall monthNonneg monthSmall dayPositive]
    omega

end DeviceKernels.Instant
