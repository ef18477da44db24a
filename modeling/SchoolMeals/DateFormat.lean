/-
This file says which texts the client's date check lets through. They are the
dates of the calendar from 1900 on that have a year of four digits, each written
as `YYYYMMDD`, and nothing else. All of them are eight digits long, so the bytes
compare as the days do, and the order that `get_period_input` asks of a period
is the order of the calendar.
-/

import SchoolMeals.PeriodInput

namespace SchoolMeals

open CText

/-! ### Dates as texts -/

/-- `YYYYMMDD`. -/
def dateText (date : Calendar.Date) : Bytes :=
  padded 4 date.year ++ padded 2 date.month ++ padded 2 date.day

/-- The years that the check accepts and four digits can write. -/
def InRange (date : Calendar.Date) : Prop := 1900 ≤ date.year ∧ date.year ≤ 9999

instance (date : Calendar.Date) : Decidable (InRange date) := inferInstanceAs (Decidable (_ ∧ _))

theorem length_dateText (date : Calendar.Date) : (dateText date).length = 8 := by
  simp only [dateText, List.length_append, length_padded]

theorem digits_dateText (date : Calendar.Date) : ∀ byte ∈ dateText date, isDigit byte = true := by
  intro byte member
  rcases List.mem_append.mp member with front | day
  · rcases List.mem_append.mp front with year | month
    · exact padded_digits 4 _ byte year
    · exact padded_digits 2 _ byte month
  · exact padded_digits 2 _ byte day

/-- The parts of a date are read where they were written. -/
theorem parts_dateText (date : Calendar.Date) :
    (dateText date).take 4 = padded 4 date.year ∧
      ((dateText date).drop 4).take 2 = padded 2 date.month ∧
      ((dateText date).drop 6).take 2 = padded 2 date.day := by
  have year := length_padded 4 date.year
  have month := length_padded 2 date.month
  have day := length_padded 2 date.day
  refine ⟨?_, ?_, ?_⟩
  · rw [dateText, List.append_assoc, List.take_left' year]
  · rw [dateText, List.append_assoc, List.drop_left' year, List.take_left' month]
  · rw [dateText, List.drop_left' (by rw [List.length_append, year, month]),
      List.take_of_length_le day.le]

theorem decimal_padded_two {value : Nat} (small : value ≤ 99) :
    decimal (padded 2 value) = value := by
  rw [decimal_padded_succ, decimal_padded_succ]
  show 10 * (10 * 0 + value / 10 % 10) + value % 10 = value
  omega

theorem decimal_padded_four {value : Nat} (small : value ≤ 9999) :
    decimal (padded 4 value) = value := by
  rw [decimal_padded_succ, decimal_padded_succ, decimal_padded_two (by omega)]
  omega

/-- What is read off the text is the date again. -/
theorem numbers_dateText {date : Calendar.Date} (inRange : InRange date) :
    yearOf (dateText date) = date.year ∧ monthOf (dateText date) = date.month ∧
      dayOfMonth (dateText date) = date.day := by
  obtain ⟨year, month, day⟩ := parts_dateText date
  obtain ⟨positive, inYear⟩ := date.inYear
  have inMonth := date.inMonth.2
  have bounds := Calendar.daysInMonth_bounds (Calendar.isLeap date.year)
    (by omega : date.month - 1 < 12)
  rw [yearOf, monthOf, dayOfMonth, year, month, day]
  exact ⟨decimal_padded_four inRange.2, decimal_padded_two (by omega),
    decimal_padded_two (by omega)⟩

theorem dayOf_dateText {date : Calendar.Date} (inRange : InRange date) :
    dayOf (dateText date) = date.number := by
  obtain ⟨year, month, day⟩ := numbers_dateText inRange
  show Calendar.dayNumber (yearOf _) (monthOf _ - 1) (dayOfMonth _) = _
  rw [year, month, day]
  rfl

/-! ### What the check accepts -/

theorem valid_dateText {date : Calendar.Date} (inRange : InRange date) :
    validateDateFormat (dateText date) = true := by
  obtain ⟨year, month, day⟩ := numbers_dateText inRange
  rw [validateDateFormat_iff, monthLength, year, month, day]
  exact ⟨⟨length_dateText date, digits_dateText date⟩, inRange.1, date.inYear, date.inMonth⟩

theorem eq_parts {text : Bytes} (length : text.length = 8) :
    text = text.take 4 ++ (text.drop 4).take 2 ++ (text.drop 6).take 2 := by
  match text, length with
  | [_, _, _, _, _, _, _, _], _ => rfl

/-- The numbers of a valid text are a date, and the text is that date. -/
theorem dateText_of_valid {text : Bytes} (valid : validateDateFormat text = true) :
    ∃ date, InRange date ∧ text = dateText date := by
  obtain ⟨⟨length, digits⟩, since, inYear, inMonth⟩ := (validateDateFormat_iff text).mp valid
  have part : ∀ count width, width + count ≤ 8 →
      padded width (decimal ((text.drop count).take width)) = (text.drop count).take width := by
    intro count width inside
    have own := @padded_decimal ((text.drop count).take width) fun byte member =>
      digits byte (List.mem_of_mem_drop (List.mem_of_mem_take member))
    rwa [List.length_take, List.length_drop, length, Nat.min_eq_left (by omega)] at own
  have four : yearOf text ≤ 9999 := by
    have nines := @decimal_le (text.take 4) fun byte member =>
      digits byte (List.mem_of_mem_take member)
    rwa [List.length_take, length] at nines
  refine ⟨⟨yearOf text, monthOf text, dayOfMonth text, inYear, inMonth⟩, ⟨since, four⟩, ?_⟩
  have year : padded 4 (yearOf text) = text.take 4 := part 0 4 (by decide)
  have month : padded 2 (monthOf text) = (text.drop 4).take 2 := part 4 2 (by decide)
  have day : padded 2 (dayOfMonth text) = (text.drop 6).take 2 := part 6 2 (by decide)
  rw [dateText, year, month, day]
  exact eq_parts length

/-! ### The order of dates -/

theorem strcmp_dateText_pos {first second : Calendar.Date} (firstIn : InRange first)
    (secondIn : InRange second) :
    0 < strcmp (dateText first) (dateText second) ↔ second.number < first.number := by
  rw [strcmp_pos_iff (valid_dateText firstIn) (valid_dateText secondIn), dayOf_dateText firstIn,
    dayOf_dateText secondIn]

theorem strcmp_dateText_neg {first second : Calendar.Date} (firstIn : InRange first)
    (secondIn : InRange second) :
    strcmp (dateText first) (dateText second) < 0 ↔ first.number < second.number := by
  have swapped := strcmp_dateText_pos secondIn firstIn
  rw [strcmp_swap] at swapped
  omega

/-- The order test of a period whose two lines hold dates. -/
theorem getPeriodInput_dates (startBuffer endBuffer : Bytes) (size : Nat)
    {first second : Calendar.Date} {stdin middle rest : Bytes} (firstIn : InRange first)
    (secondIn : InRange second)
    (firstLine : safeInput startBuffer size stdin = (dateText first, middle))
    (secondLine : safeInput endBuffer size middle = (dateText second, rest)) :
    getPeriodInput startBuffer endBuffer size stdin =
      ⟨decide (first.number ≤ second.number) &&
          decide (clientDays (dateText second) - clientDays (dateText first) ≤ 6),
        dateText first, dateText second, rest⟩ := by
  have order := strcmp_dateText_pos firstIn secondIn
  rw [getPeriodInput_of_valid startBuffer endBuffer size firstLine secondLine
    (valid_dateText firstIn), valid_dateText secondIn, Bool.true_and, ← decide_not]
  have sameOrder : (¬0 < strcmp (dateText first) (dateText second)) ↔
      first.number ≤ second.number := by omega
  rw [decide_eq_decide.mpr sameOrder]

/-- The check accepts the dates of the calendar from 1900 to 9999, eight digits each, and nothing
else; `strcmp` is negative, zero or positive as the first of two such dates is before, on or after
the second; and `get_period_input` refuses a period of two dates for its order when it ends before
it starts. -/
theorem dates_acceptedInOrder :
    (∀ text, validateDateFormat text = true ↔ ∃ date, InRange date ∧ text = dateText date) ∧
    (∀ first second, InRange first → InRange second →
      (strcmp (dateText first) (dateText second) < 0 ↔ first.number < second.number) ∧
      (strcmp (dateText first) (dateText second) = 0 ↔ first.number = second.number) ∧
      (0 < strcmp (dateText first) (dateText second) ↔ second.number < first.number)) ∧
    ∀ startBuffer endBuffer size stdin first second middle rest, InRange first → InRange second →
      safeInput startBuffer size stdin = (dateText first, middle) →
      safeInput endBuffer size middle = (dateText second, rest) →
      getPeriodInput startBuffer endBuffer size stdin =
        ⟨decide (first.number ≤ second.number) &&
            decide (clientDays (dateText second) - clientDays (dateText first) ≤ 6),
          dateText first, dateText second, rest⟩ := by
  refine ⟨fun text => ⟨dateText_of_valid, ?_⟩, fun first second firstIn secondIn => ?_, ?_⟩
  · rintro ⟨date, inRange, rfl⟩
    exact valid_dateText inRange
  · have negative := strcmp_dateText_neg firstIn secondIn
    have positive := strcmp_dateText_pos firstIn secondIn
    exact ⟨negative, by omega, positive⟩
  · intro startBuffer endBuffer size stdin first second middle rest firstIn secondIn
    exact getPeriodInput_dates startBuffer endBuffer size firstIn secondIn

/-- The leap day of 2024 and the day after, asked for in the wrong order. -/
theorem dates_acceptedInOrder_leapDay :
    let leapDay : Calendar.Date := ⟨2024, 2, 29, by decide, by decide⟩
    let march : Calendar.Date := ⟨2024, 3, 1, by decide, by decide⟩
    validateDateFormat (dateText leapDay) = true ∧
      strcmp (dateText leapDay) (dateText march) < 0 ∧
      (getPeriodInput [] [] 16 (dateText march ++ 10 :: dateText leapDay ++ [10])).accepted =
        false := by
  intro leapDay march
  obtain ⟨exact, ordered, asked⟩ := dates_acceptedInOrder
  have leapIn : InRange leapDay := by decide
  have marchIn : InRange march := by decide
  have period := asked [] [] 16 (dateText march ++ 10 :: dateText leapDay ++ [10]) march leapDay
    (dateText leapDay ++ [10]) [] marchIn leapIn (by decide) (by decide)
  have sameDay : march.number = leapDay.next.number := by decide
  have dayAfter := sameDay.trans (Calendar.Date.number_next leapDay)
  refine ⟨(exact _).mpr ⟨leapDay, leapIn, rfl⟩, (ordered leapDay march leapIn marchIn).1.mpr ?_, ?_⟩
  · rw [dayAfter]
    exact Int.lt_succ _
  · have late : ¬march.number ≤ leapDay.number := by decide
    rw [period, decide_eq_false late]
    rfl

end SchoolMeals
