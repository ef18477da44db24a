/-
This file is a small library of the Gregorian calendar in day numbers. Months
count from zero and any integers are accepted for month and day: a month beyond
the year runs on into the years before or after it, and so does a day. Going on
by one month goes on by the days of that month, so day numbers grow with months,
whatever years they fall in.
-/

import Mathlib.Data.Int.Notation

namespace Calendar

def isLeap (year : Int) : Bool := year % 4 = 0 && (year % 100 ≠ 0 || year % 400 = 0)

/-- The days from the first of January of the year 1 to that of another year. -/
def daysBeforeYear (year : Int) : Int :=
  365 * (year - 1) + (year - 1) / 4 - (year - 1) / 100 + (year - 1) / 400

/-- The days of a year before one of its twelve months. -/
def daysBeforeMonth (leap : Bool) (month : Nat) : Int :=
  [0, 31, 59, 90, 120, 151, 181, 212, 243, 273, 304, 334].getD month 0 +
    if leap && 2 ≤ month then 1 else 0

/-- The number of a day, counted from the first of January 1970. -/
def dayNumber (year month day : Int) : Int :=
  let year := year + month / 12
  daysBeforeYear year + daysBeforeMonth (isLeap year) (month % 12).toNat + (day - 1) - 719162

/-- The first day, a leap day, and the same day as the thirtieth of February. -/
example : dayNumber 1970 0 1 = 0 ∧ dayNumber 2024 1 29 = 19782 ∧ dayNumber 2024 1 30 = 19783 ∧
    dayNumber 2024 2 1 = 19783 ∧ dayNumber 2023 14 1 = 19783 := by
  decide

/-- The days of one of the twelve months. -/
def daysInMonth (leap : Bool) (month : Nat) : Int :=
  [31, 28, 31, 30, 31, 30, 31, 31, 30, 31, 30, 31].getD month 0 +
    if leap && month = 1 then 1 else 0

theorem daysInMonth_bounds (leap : Bool) {month : Nat} (inYear : month < 12) :
    28 ≤ daysInMonth leap month ∧ daysInMonth leap month ≤ 31 := by
  have table : ∀ leap : Bool, ∀ month : Fin 12,
      28 ≤ daysInMonth leap month ∧ daysInMonth leap month ≤ 31 := by decide
  exact table leap ⟨month, inYear⟩

theorem daysBeforeMonth_succ (leap : Bool) {month : Nat} (inYear : month + 1 < 12) :
    daysBeforeMonth leap (month + 1) = daysBeforeMonth leap month + daysInMonth leap month := by
  have table : ∀ leap : Bool, ∀ month : Fin 11,
      daysBeforeMonth leap (month + 1) = daysBeforeMonth leap month + daysInMonth leap month := by
    decide
  exact table leap ⟨month, by omega⟩

/-- A year has as many days as its twelve months. -/
theorem daysBeforeYear_succ (year : Int) :
    daysBeforeYear (year + 1) =
      daysBeforeYear year + daysBeforeMonth (isLeap year) 11 + daysInMonth (isLeap year) 11 := by
  have days : daysBeforeMonth (isLeap year) 11 + daysInMonth (isLeap year) 11 =
      if isLeap year then 366 else 365 := by cases isLeap year <;> decide
  rw [Int.add_assoc, days]
  simp only [daysBeforeYear, isLeap, Bool.and_eq_true, Bool.or_eq_true, decide_eq_true_eq]
  split <;> omega

/-- The same day of the next month is as many days later as the month has. -/
theorem dayNumber_succ (year month day : Int) :
    dayNumber year (month + 1) day =
      dayNumber year month day +
        daysInMonth (isLeap (year + month / 12)) (month % 12).toNat := by
  by_cases last : month % 12 = 11
  · have nextYear : year + (month + 1) / 12 = year + month / 12 + 1 := by omega
    have first : ((month + 1) % 12).toNat = 0 := by omega
    have start : daysBeforeMonth (isLeap (year + month / 12 + 1)) 0 = 0 := by
      cases isLeap (year + month / 12 + 1) <;> rfl
    simp only [dayNumber, nextYear, first, start, daysBeforeYear_succ, last]
    show _ + daysBeforeMonth _ 11 + daysInMonth _ 11 + 0 + _ - _ =
      _ + daysBeforeMonth _ 11 + _ - _ + daysInMonth _ 11
    omega
  · have sameYear : year + (month + 1) / 12 = year + month / 12 := by omega
    have next : ((month + 1) % 12).toNat = (month % 12).toNat + 1 := by omega
    simp only [dayNumber, sameYear, next,
      daysBeforeMonth_succ (isLeap (year + month / 12)) (by omega : (month % 12).toNat + 1 < 12)]
    omega

/-- Every month that goes by is at least twenty-eight days. -/
theorem le_dayNumber_add (year month day : Int) (months : Nat) :
    dayNumber year month day + 28 * months ≤ dayNumber year (month + months) day := by
  induction months with
  | zero => simp
  | succ months inductionHypothesis =>
    have bounds := daysInMonth_bounds (isLeap (year + (month + months) / 12))
      (by omega : ((month + months) % 12).toNat < 12)
    rw [Int.natCast_succ, ← Int.add_assoc, dayNumber_succ]
    omega

/-- Years are twelve months each. -/
theorem dayNumber_add_year (year years month day : Int) :
    dayNumber (year + years) month day = dayNumber year (month + 12 * years) day := by
  have sameYear : year + (month + 12 * years) / 12 = year + years + month / 12 := by omega
  have sameMonth : (month + 12 * years) % 12 = month % 12 := by omega
  simp only [dayNumber, sameYear, sameMonth]

theorem dayNumber_day (year month day : Int) :
    dayNumber year month day = dayNumber year month 0 + day := by
  simp only [dayNumber]
  omega

/-! ### Dates -/

/-- A day of the calendar. Months and days count from one. -/
structure Date where
  year : Nat
  month : Nat
  day : Nat
  inYear : 1 ≤ month ∧ month ≤ 12
  inMonth : 1 ≤ day ∧ (day : Int) ≤ daysInMonth (isLeap year) (month - 1)

namespace Date

def number (date : Date) : Int := dayNumber date.year (date.month - 1) date.day

/-- The first day of the next month. -/
def nextMonth (date : Date) : Date :=
  if last : date.month = 12 then
    ⟨date.year + 1, 1, 1, by decide, by decide, by cases isLeap _ <;> decide⟩
  else
    ⟨date.year, date.month + 1, 1, ⟨by omega, by have := date.inYear; omega⟩, by decide,
      by
        have bounds := daysInMonth_bounds (isLeap date.year)
          (by have := date.inYear; omega : date.month < 12)
        exact Int.le_trans (by decide) bounds.1⟩

/-- The day after. -/
def next (date : Date) : Date :=
  if inside : (date.day : Int) < daysInMonth (isLeap date.year) (date.month - 1) then
    ⟨date.year, date.month, date.day + 1, date.inYear, by omega, by omega⟩
  else date.nextMonth

/-- A month is as long as the days from its first to the first of the next one. -/
theorem number_nextMonth (date : Date) :
    date.nextMonth.number =
      dayNumber date.year (date.month - 1) 1 +
        daysInMonth (isLeap date.year) (date.month - 1) := by
  obtain ⟨positive, inYear⟩ := date.inYear
  have length := dayNumber_succ date.year (date.month - 1) 1
  have sameYear : (date.year : Int) + (date.month - 1) / 12 = date.year := by omega
  have index : (((date.month : Int) - 1) % 12).toNat = date.month - 1 := by omega
  rw [sameYear, index] at length
  rw [← length]
  unfold nextMonth
  split
  · rename_i last
    show dayNumber ((date.year + 1 : Nat) : Int) ((1 : Nat) - 1) (1 : Nat) = _
    have nextYear := dayNumber_add_year date.year 1 0 1
    have december : (date.month : Int) - 1 + 1 = 0 + 12 * 1 := by omega
    rw [december, ← nextYear]
    rfl
  · show dayNumber date.year ((date.month + 1 : Nat) - 1) (1 : Nat) = _
    congr 1
    omega

/-- The numbers count the days one by one. -/
theorem number_next (date : Date) : date.next.number = date.number + 1 := by
  unfold next
  split
  · show dayNumber date.year (date.month - 1) ((date.day + 1 : Nat) : Int) =
      dayNumber date.year (date.month - 1) date.day + 1
    rw [dayNumber_day, dayNumber_day date.year (date.month - 1) date.day]
    omega
  · rename_i outside
    have last : (date.day : Int) = daysInMonth (isLeap date.year) (date.month - 1) :=
      Int.le_antisymm date.inMonth.2 (Int.not_lt.mp outside)
    rw [number_nextMonth, number, dayNumber_day _ _ 1, dayNumber_day _ _ date.day, last]
    omega

end Date

end Calendar
