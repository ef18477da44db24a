/-
This file models the part of `input_util.c` that asks the user for a period and
compares it with what the server does. The client counts every month as thirty
days and every year as 365, the server counts the days of the calendar. They
agree as long as both dates are in one month, and whenever a whole month lies
between them; what is left is the turn of a month, where the client is wrong as
soon as the month is not thirty days long.
-/

import SchoolMeals.Periods
import SchoolMeals.Library.Lines

namespace SchoolMeals

open CText

/-! ### Lines of the user -/

/-- `fgets(buffer, size, stdin)` with room for a byte and a terminator: the bytes it stores and the
bytes it leaves, or nothing at the end of the input. -/
def fgets (size : Nat) (stdin : Bytes) : Option (Bytes × Bytes) :=
  if stdin = [] then none
  else
    let line := ((stdin.takeWhile (· ≠ 10)).length + 1).min (size - 1)
    some (stdin.take line, stdin.drop line)

/-- The `int` that a `size_t` becomes as an argument of `fgets`: its last 32 bits, with a sign. -/
def intOfSize (size : Nat) : Int := (BitVec.ofNat 32 size).toInt

/-- `fgets` with any `int`. It refuses one that is not positive, and with room for the terminator
alone it stores an empty string, also at the end of the input. -/
def fgetsInt (size : Int) (stdin : Bytes) : Option (Bytes × Bytes) :=
  if size ≤ 0 then none
  else if size = 1 then some ([], stdin)
  else fgets size.toNat stdin

/-- `clear_input_buffer`. -/
def clearInputBuffer (stdin : Bytes) : Bytes := (stdin.dropWhile (· ≠ 10)).tail

/-- `safe_input`: the string in the buffer afterwards and the bytes left to read. -/
def safeInput (buffer : Bytes) (size : Nat) (stdin : Bytes) : Bytes × Bytes :=
  match fgetsInt (intOfSize size) stdin with
  | none => (buffer, stdin)
  | some (stored, stdin) =>
    let line := cString stored
    if line.getLast? = some 10 then (line.dropLast, stdin)
    else (line, clearInputBuffer stdin)

/-- `get_date_input`. -/
def getDateInput (date : Bytes) (size : Nat) (stdin : Bytes) : Bool × Bytes × Bytes :=
  let (date, stdin) := safeInput date size stdin
  if !validateDateFormat date then (false, date, stdin)
  else (true, date, stdin)

/-- What `get_period_input` returns, leaves in its two arrays and leaves to read. -/
structure PeriodInput where
  accepted : Bool
  startDate : Bytes
  endDate : Bytes
  stdin : Bytes
deriving DecidableEq

/-- `get_period_input`. The six numbers are scanned after both checks, so each of them is
written. -/
def getPeriodInput (startDate endDate : Bytes) (size : Nat) (stdin : Bytes) : PeriodInput :=
  let (startDate, stdin) := safeInput startDate size stdin
  if !validateDateFormat startDate then ⟨false, startDate, endDate, stdin⟩
  else
    let (endDate, stdin) := safeInput endDate size stdin
    if !validateDateFormat endDate then ⟨false, startDate, endDate, stdin⟩
    else if strcmp startDate endDate > 0 then ⟨false, startDate, endDate, stdin⟩
    else
      let (year1, month1, day1) := scanDate startDate
      let (year2, month2, day2) := scanDate endDate
      let days1 := year1 * 365 + month1 * 30 + day1
      let days2 := year2 * 365 + month2 * 30 + day2
      if days2 - days1 > 6 then ⟨false, startDate, endDate, stdin⟩
      else ⟨true, startDate, endDate, stdin⟩

/-- A size of two or more that is still an `int`. -/
structure FitsInt (size : Nat) : Prop where
  room : 2 ≤ size
  inRange : size ≤ 2147483647

theorem fgetsInt_of_fitsInt {size : Nat} (fits : FitsInt size) (stdin : Bytes) :
    fgetsInt (intOfSize size) stdin = fgets size stdin := by
  obtain ⟨room, inRange⟩ := fits
  have bits : (BitVec.ofNat 32 size).toNat = size := by
    rw [BitVec.toNat_ofNat]
    exact Nat.mod_eq_of_lt (by omega)
  have same : intOfSize size = size := by
    rw [intOfSize, BitVec.toInt_eq_toNat_of_lt (by omega), bits]
  rw [fgetsInt, same, if_neg (by omega), if_neg (by omega), Int.toNat_natCast]

section Line

variable {size : Nat} (fits : FitsInt size) {content : Bytes} (newlineFree : 10 ∉ content)
  (zeroFree : 0 ∉ content)

include newlineFree

theorem clearInputBuffer_line (rest : Bytes) : clearInputBuffer (content ++ 10 :: rest) = rest := by
  rw [clearInputBuffer, List.dropWhile_append_of_pos, List.dropWhile_cons_of_neg (by simp)]
  · rfl
  · intro byte member
    simpa using ne_of_mem_of_not_mem member newlineFree

theorem clearInputBuffer_end : clearInputBuffer content = [] := by
  rw [clearInputBuffer, List.dropWhile_eq_nil_iff.mpr, List.tail_nil]
  intro byte member
  simpa using ne_of_mem_of_not_mem member newlineFree

/-- What is stored of a line that does not end in the array has no newline. -/
theorem getLast?_cString (count : Nat) : (cString (content.take count)).getLast? ≠ some 10 :=
  fun last => newlineFree (List.mem_of_mem_take
    ((List.takeWhile_sublist _).mem (List.mem_of_getLast? last)))

include fits

/-- `safe_input` reads what it has room for of a line, and all of the line is gone. A zero byte
hides a newline that is stored, and then the line behind it is gone as well. -/
theorem safeInput_newline (buffer : Bytes) (rest : Bytes) :
    safeInput buffer size (content ++ 10 :: rest) =
      (cString (content.take (size - 1)),
        if 0 ∈ content ∧ content.length < size - 1 then clearInputBuffer rest else rest) := by
  rw [safeInput, fgetsInt_of_fitsInt fits, fgets,
    if_neg (List.append_ne_nil_of_right_ne_nil _ (List.cons_ne_nil _ _)),
    Lines.takeWhile_append newlineFree]
  rcases Nat.lt_or_ge content.length (size - 1) with inside | beyond
  · have stored : (content.length + 1).min (size - 1) = content.length + 1 := Nat.min_eq_left inside
    have lineLength : (content ++ [10]).length = content.length + 1 := List.length_append
    rw [stored, List.append_cons]
    simp only [List.take_left' lineLength, List.drop_left' lineLength,
      List.take_of_length_le inside.le, inside, and_true]
    by_cases zero : 0 ∈ content
    · have hidden : cString (content ++ [10]) = cString content := cString_append_of_mem zero _
      have noNewline := getLast?_cString newlineFree content.length
      rw [List.take_length] at noNewline
      rw [hidden, if_neg noNewline, if_pos zero]
    · have lineFree : 0 ∉ content ++ [10] := by simpa using zero
      rw [cString_of_zeroFree _ lineFree, cString_of_zeroFree _ zero, List.getLast?_concat,
        if_pos rfl, List.dropLast_concat, if_neg zero]
  · have stored : (content.length + 1).min (size - 1) = size - 1 := Nat.min_eq_right (by omega)
    have later : 10 ∉ content.drop (size - 1) := fun member =>
      newlineFree (List.mem_of_mem_drop member)
    simp only [stored, List.take_append_of_le_length beyond, List.drop_append_of_le_length beyond,
      getLast?_cString newlineFree, if_false, clearInputBuffer_line later,
      Nat.not_lt.mpr beyond, and_false]

/-- What is behind the last newline is read in the same way, and nothing is left. -/
theorem safeInput_end (nonempty : content ≠ []) (buffer : Bytes) :
    safeInput buffer size content = (cString (content.take (size - 1)), []) := by
  have stored : content.take ((content.length + 1).min (size - 1)) = content.take (size - 1) := by
    have all : content.take (content.length + 1) = content :=
      List.take_of_length_le (Nat.le_succ _)
    have swapped : (content.length + 1).min (size - 1) = min (size - 1) (content.length + 1) :=
      Nat.min_comm _ _
    rw [swapped, ← List.take_take, all]
  have cleared : ∀ count, clearInputBuffer (content.drop count) = [] := fun _ =>
    clearInputBuffer_end fun member => newlineFree (List.mem_of_mem_drop member)
  rw [safeInput, fgetsInt_of_fitsInt fits, fgets, if_neg nonempty,
    Lines.takeWhile_plain newlineFree]
  simp only [stored, getLast?_cString newlineFree, if_false, cleared]

include zeroFree

/-- A line without zero bytes. -/
theorem safeInput_line (buffer : Bytes) (rest : Bytes) :
    safeInput buffer size (content ++ 10 :: rest) = (content.take (size - 1), rest) := by
  rw [safeInput_newline fits newlineFree, cString_take zeroFree,
    if_neg fun hidden => zeroFree hidden.1]

theorem safeInput_lastLine (nonempty : content ≠ []) (buffer : Bytes) :
    safeInput buffer size content = (content.take (size - 1), []) := by
  rw [safeInput_end fits newlineFree nonempty, cString_take zeroFree]

end Line

/-! ### The numbers of a date -/

def yearOf (date : Bytes) : Nat := decimal (date.take 4)

def monthOf (date : Bytes) : Nat := decimal ((date.drop 4).take 2)

def dayOfMonth (date : Bytes) : Nat := decimal ((date.drop 6).take 2)

/-- How many days the month of a date has. -/
def monthLength (date : Bytes) : Int :=
  Calendar.daysInMonth (Calendar.isLeap (yearOf date)) (monthOf date - 1)

/-- Eight bytes are one number of eight digits, or the three of a date. -/
theorem decimal_date {date : Bytes} (length : date.length = 8) :
    decimal date = 10000 * yearOf date + 100 * monthOf date + dayOfMonth date := by
  match date, length with
  | [_, _, _, _, _, _, _, _], _ =>
    simp only [decimal, yearOf, monthOf, dayOfMonth, List.take, List.drop, List.foldl]
    omega

/-- The numbers of a date as the check adds them up, digit by digit. -/
theorem digitwise {date : Bytes} (length : date.length = 8) :
    let digit (index : Nat) : Nat := (date.getD index 0).toNat - 48
    digit 0 * 1000 + digit 1 * 100 + digit 2 * 10 + digit 3 = yearOf date ∧
      digit 4 * 10 + digit 5 = monthOf date ∧ digit 6 * 10 + digit 7 = dayOfMonth date := by
  match date, length with
  | [_, _, _, _, _, _, _, _], _ =>
    simp only [decimal, yearOf, monthOf, dayOfMonth, List.take, List.drop, List.foldl,
      List.getD_cons_zero, List.getD_cons_succ]
    omega

theorem monthLength_eq {date : Bytes} (inYear : 1 ≤ monthOf date ∧ monthOf date ≤ 12) :
    monthLength date =
      if monthOf date = 2 then if Calendar.isLeap (yearOf date) then 29 else 28
      else if monthOf date = 4 ∨ monthOf date = 6 ∨ monthOf date = 9 ∨ monthOf date = 11 then 30
      else 31 := by
  have table : ∀ leap : Bool, ∀ month : Fin 12, Calendar.daysInMonth leap month =
      if month.val + 1 = 2 then if leap then 29 else 28
      else if month.val + 1 = 4 ∨ month.val + 1 = 6 ∨ month.val + 1 = 9 ∨ month.val + 1 = 11 then 30
      else 31 := by decide
  have found := table (Calendar.isLeap (yearOf date)) ⟨monthOf date - 1, by omega⟩
  simp only [Nat.sub_add_cancel inYear.1] at found
  exact found

/-- A date is valid when it is eight digits that name a day its month has, from 1900 on. -/
theorem validateDateFormat_iff (date : Bytes) :
    validateDateFormat date = true ↔
      (date.length = 8 ∧ ∀ byte ∈ date, isDigit byte = true) ∧ 1900 ≤ yearOf date ∧
        (1 ≤ monthOf date ∧ monthOf date ≤ 12) ∧ 1 ≤ dayOfMonth date ∧
        (dayOfMonth date : Int) ≤ monthLength date := by
  by_cases form : date.length = 8 ∧ ∀ byte ∈ date, isDigit byte = true
  · rw [and_iff_right form]
    obtain ⟨length, digits⟩ := form
    have allDigits : date.all isDigit = true := List.all_eq_true.mpr digits
    obtain ⟨year, month, day⟩ := digitwise length
    have leap : Calendar.isLeap (yearOf date) = ((yearOf date % 4 = 0 && yearOf date % 100 ≠ 0) ||
        yearOf date % 400 = 0) := by
      rw [Bool.eq_iff_iff]
      simp only [Calendar.isLeap, Bool.and_eq_true, Bool.or_eq_true, decide_eq_true_eq]
      omega
    unfold validateDateFormat
    rw [if_neg (not_not.mpr length), allDigits]
    simp only [year, month, day, ← leap, Bool.if_false_left, Bool.and_eq_true, Bool.not_eq_true',
      decide_eq_false_iff_not, Bool.or_eq_true, decide_eq_true_eq, Bool.not_true, and_true]
    by_cases inYear : 1 ≤ monthOf date ∧ monthOf date ≤ 12
    · rw [monthLength_eq inYear]
      clear year month day leap
      cases isLeap : Calendar.isLeap (yearOf date) <;> simp <;> split_ifs <;> omega
    · exact iff_of_false (fun valid => inYear (by omega)) fun valid => inYear valid.2.1
  · refine iff_of_false (fun valid => form (digits_of_validateDateFormat valid)) fun all =>
      form all.1

/-- A valid date names a day that its month has. -/
theorem numbers_of_valid {date : Bytes} (valid : validateDateFormat date = true) :
    1 ≤ monthOf date ∧ monthOf date ≤ 12 ∧ 1 ≤ dayOfMonth date ∧
      (dayOfMonth date : Int) ≤ monthLength date := by
  obtain ⟨_, _, inYear, inMonth⟩ := (validateDateFormat_iff date).mp valid
  exact ⟨inYear.1, inYear.2, inMonth⟩

theorem monthLength_bounds {date : Bytes} (valid : validateDateFormat date = true) :
    28 ≤ monthLength date ∧ monthLength date ≤ 31 := by
  obtain ⟨positive, inYear, _⟩ := numbers_of_valid valid
  exact Calendar.daysInMonth_bounds _ (by omega)

/-- Valid dates are compared by their years, then by their months and then by their days. -/
theorem strcmp_dates {startDate endDate : Bytes} (validStart : validateDateFormat startDate = true)
    (validEnd : validateDateFormat endDate = true) :
    0 < strcmp startDate endDate ↔
      10000 * yearOf endDate + 100 * monthOf endDate + dayOfMonth endDate <
        10000 * yearOf startDate + 100 * monthOf startDate + dayOfMonth startDate := by
  obtain ⟨startLength, startDigits⟩ := digits_of_validateDateFormat validStart
  obtain ⟨endLength, endDigits⟩ := digits_of_validateDateFormat validEnd
  rw [strcmp_pos_of_digits (startLength.trans endLength.symm) startDigits endDigits,
    decimal_date startLength, decimal_date endLength]

/-! ### From one date to another -/

/-- How many months one date is after another. -/
def monthsBetween (startDate endDate : Bytes) : Int :=
  12 * ((yearOf endDate : Int) - yearOf startDate) + ((monthOf endDate : Int) - monthOf startDate)

/-- The later date in the year of the earlier one. -/
theorem dayOf_shift (startDate endDate : Bytes) :
    dayOf endDate = Calendar.dayNumber (yearOf startDate)
      (monthOf startDate - 1 + monthsBetween startDate endDate) 0 + dayOfMonth endDate := by
  have year : (yearOf endDate : Int) = yearOf startDate + (yearOf endDate - yearOf startDate) := by
    omega
  have month : (monthOf endDate : Int) - 1 + 12 * (yearOf endDate - yearOf startDate) =
      monthOf startDate - 1 + monthsBetween startDate endDate := by
    unfold monthsBetween
    omega
  show Calendar.dayNumber (yearOf endDate) (monthOf endDate - 1) (dayOfMonth endDate) = _
  rw [year, Calendar.dayNumber_add_year, month, Calendar.dayNumber_day]

section Dates

variable {startDate endDate : Bytes}

/-- Within one month the days of the month count. -/
theorem dayOf_sameMonth (same : monthsBetween startDate endDate = 0) :
    dayOf endDate - dayOf startDate = dayOfMonth endDate - dayOfMonth startDate := by
  have start := dayOf_shift startDate startDate
  have own : monthsBetween startDate startDate = 0 := by
    unfold monthsBetween
    omega
  rw [dayOf_shift startDate endDate, start, same, own]
  omega

theorem monthLength_day (valid : validateDateFormat startDate = true) :
    Calendar.dayNumber (yearOf startDate) (monthOf startDate - 1 + 1) 0 =
      dayOf startDate - dayOfMonth startDate + monthLength startDate := by
  obtain ⟨positive, inYear, _⟩ := numbers_of_valid valid
  have sameYear : (yearOf startDate : Int) + (monthOf startDate - 1) / 12 = yearOf startDate := by
    omega
  have month : (((monthOf startDate : Int) - 1) % 12).toNat = monthOf startDate - 1 := by omega
  rw [Calendar.dayNumber_succ, sameYear, month, dayOf_shift startDate startDate]
  have own : monthsBetween startDate startDate = 0 := by
    unfold monthsBetween
    omega
  rw [own, monthLength, Int.add_zero]
  omega

/-- Into the next month the length of the month counts. -/
theorem dayOf_nextMonth (valid : validateDateFormat startDate = true)
    (next : monthsBetween startDate endDate = 1) :
    dayOf endDate - dayOf startDate =
      monthLength startDate + dayOfMonth endDate - dayOfMonth startDate := by
  rw [dayOf_shift startDate endDate, next, monthLength_day valid]
  omega

/-- Later months are at least twenty-eight days further each. -/
theorem dayOf_laterMonth (valid : validateDateFormat startDate = true) {more : Nat}
    (later : monthsBetween startDate endDate = 1 + more) :
    monthLength startDate + 28 * more + dayOfMonth endDate - dayOfMonth startDate ≤
      dayOf endDate - dayOf startDate := by
  have apart := Calendar.le_dayNumber_add (yearOf startDate) (monthOf startDate - 1 + 1) 0 more
  rw [dayOf_shift startDate endDate, later, ← Int.add_assoc]
  rw [monthLength_day valid] at apart
  omega

variable (validStart : validateDateFormat startDate = true)
  (validEnd : validateDateFormat endDate = true)

include validStart validEnd

/-- A date of a later month is later. -/
theorem dayOf_lt (later : 0 < monthsBetween startDate endDate) :
    dayOf startDate < dayOf endDate := by
  obtain ⟨_, _, _, inMonth⟩ := numbers_of_valid validStart
  obtain ⟨_, _, positive, _⟩ := numbers_of_valid validEnd
  have apart := dayOf_laterMonth validStart
    (by omega : monthsBetween startDate endDate = 1 + (monthsBetween startDate endDate - 1).toNat)
  omega

/-- `strcmp` orders the dates as the calendar does. -/
theorem strcmp_pos_iff : 0 < strcmp startDate endDate ↔ dayOf endDate < dayOf startDate := by
  obtain ⟨_, _, startPositive, inStartMonth⟩ := numbers_of_valid validStart
  obtain ⟨_, _, endPositive, inEndMonth⟩ := numbers_of_valid validEnd
  have startLength := monthLength_bounds validStart
  have endLength := monthLength_bounds validEnd
  have opposite : monthsBetween endDate startDate = - monthsBetween startDate endDate := by
    unfold monthsBetween
    omega
  rw [strcmp_dates validStart validEnd]
  rcases Int.lt_trichotomy (monthsBetween startDate endDate) 0 with earlier | same | later
  · have before := dayOf_lt validEnd validStart (by omega)
    unfold monthsBetween at earlier
    exact iff_of_true (by omega) before
  · have days := dayOf_sameMonth same
    unfold monthsBetween at same
    omega
  · have after := dayOf_lt validStart validEnd later
    unfold monthsBetween at later
    exact iff_of_false (by omega) (by omega)

end Dates

/-! ### Where the two counts differ -/

/-- The end lies in the month after the start, and the month is not as long as the client takes
it to be: thirty days within a year, thirty-five at its end. -/
def Misjudged (startDate endDate : Bytes) : Prop :=
  let earlier : Int := dayOfMonth startDate - dayOfMonth endDate
  (yearOf endDate = yearOf startDate ∧ monthOf endDate = monthOf startDate + 1 ∧
      (monthLength startDate = 31 ∧ earlier = 24 ∨ monthLength startDate = 29 ∧ earlier = 23 ∨
        monthLength startDate = 28 ∧ (earlier = 22 ∨ earlier = 23))) ∨
    (yearOf endDate = yearOf startDate + 1 ∧ monthOf startDate = 12 ∧ monthOf endDate = 1 ∧
      25 ≤ earlier ∧ earlier ≤ 28)

instance (startDate endDate : Bytes) : Decidable (Misjudged startDate endDate) :=
  inferInstanceAs (Decidable (_ ∨ _))

/-! ### What the client accepts -/

/-- The days of a date as the client counts them. -/
def clientDays (date : Bytes) : Int := yearOf date * 365 + monthOf date * 30 + dayOfMonth date

theorem scanDate_of_valid {date : Bytes} (valid : validateDateFormat date = true) :
    scanDate date = ((yearOf date : Int), (monthOf date : Int), (dayOfMonth date : Int)) := by
  obtain ⟨length, digits⟩ := digits_of_validateDateFormat valid
  exact scanDate_of_digits length digits

section Input

variable (startBuffer endBuffer : Bytes) (size : Nat) {stdin startDate endDate middle rest : Bytes}

theorem getPeriodInput_of_invalid (first : safeInput startBuffer size stdin = (startDate, middle))
    (invalid : validateDateFormat startDate = false) :
    getPeriodInput startBuffer endBuffer size stdin = ⟨false, startDate, endBuffer, middle⟩ := by
  rw [getPeriodInput, first]
  dsimp only
  rw [invalid]
  rfl

/-- After a valid start, the end, the order and the client's count decide. -/
theorem getPeriodInput_of_valid (first : safeInput startBuffer size stdin = (startDate, middle))
    (second : safeInput endBuffer size middle = (endDate, rest))
    (valid : validateDateFormat startDate = true) :
    getPeriodInput startBuffer endBuffer size stdin =
      ⟨validateDateFormat endDate && !decide (0 < strcmp startDate endDate) &&
        decide (clientDays endDate - clientDays startDate ≤ 6), startDate, endDate, rest⟩ := by
  rw [getPeriodInput, first]
  dsimp only
  rw [valid, second]
  dsimp only
  rw [if_neg (by simp)]
  cases validEnd : validateDateFormat endDate with
  | false => rfl
  | true =>
    rw [scanDate_of_valid valid, scanDate_of_valid validEnd]
    by_cases later : strcmp startDate endDate > 0
    · simp [later]
    · by_cases long : clientDays endDate - clientDays startDate > 6
      · have refused := Int.not_le.mpr long
        unfold clientDays at long refused
        simp [later, long, refused, clientDays]
      · have allowed := Int.not_lt.mp long
        unfold clientDays at long allowed
        simp [later, long, allowed, clientDays]

end Input

/-- Two valid dates are accepted by their order and by the client's count. -/
theorem accepted_iff {startBuffer endBuffer stdin : Bytes} {size : Nat} {input : PeriodInput}
    (ran : getPeriodInput startBuffer endBuffer size stdin = input)
    (validStart : validateDateFormat input.startDate = true)
    (validEnd : validateDateFormat input.endDate = true) :
    input.accepted = true ↔ ¬ 0 < strcmp input.startDate input.endDate ∧
      clientDays input.endDate - clientDays input.startDate ≤ 6 := by
  subst ran
  rcases first : safeInput startBuffer size stdin with ⟨startDate, middle⟩
  rcases second : safeInput endBuffer size middle with ⟨endDate, rest⟩
  cases valid : validateDateFormat startDate with
  | false =>
    rw [getPeriodInput_of_invalid startBuffer endBuffer size first valid] at validStart
    cases valid.symm.trans validStart
  | true =>
    rw [getPeriodInput_of_valid startBuffer endBuffer size first second valid] at validEnd ⊢
    simp only [validEnd, Bool.true_and, Bool.and_eq_true, Bool.not_eq_true',
      decide_eq_false_iff_not, decide_eq_true_eq]

/-- The client takes every month for thirty days, and a year for five days more. -/
theorem clientDays_sub (startDate endDate : Bytes) :
    clientDays endDate - clientDays startDate =
      30 * monthsBetween startDate endDate + 5 * ((yearOf endDate : Int) - yearOf startDate) +
        ((dayOfMonth endDate : Int) - dayOfMonth startDate) := by
  unfold clientDays monthsBetween
  omega

/-- Only pairs of neighbouring months are misjudged. -/
theorem monthsBetween_of_misjudged {startDate endDate : Bytes}
    (misjudged : Misjudged startDate endDate) : monthsBetween startDate endDate = 1 := by
  rcases misjudged with ⟨year, month, _⟩ | ⟨year, december, january, _⟩
  · rw [monthsBetween, year, month]
    omega
  · rw [monthsBetween, year, december, january]
    omega

theorem misjudged_withinYear {startDate endDate : Bytes} (year : yearOf endDate = yearOf startDate)
    (month : monthOf endDate = monthOf startDate + 1) :
    Misjudged startDate endDate ↔
      (monthLength startDate = 31 ∧ (dayOfMonth startDate : Int) - dayOfMonth endDate = 24 ∨
        monthLength startDate = 29 ∧ (dayOfMonth startDate : Int) - dayOfMonth endDate = 23 ∨
        monthLength startDate = 28 ∧ ((dayOfMonth startDate : Int) - dayOfMonth endDate = 22 ∨
          (dayOfMonth startDate : Int) - dayOfMonth endDate = 23)) := by
  simp [Misjudged, year, month]

theorem misjudged_newYear {startDate endDate : Bytes}
    (year : yearOf endDate = yearOf startDate + 1) (december : monthOf startDate = 12)
    (january : monthOf endDate = 1) :
    Misjudged startDate endDate ↔ 25 ≤ (dayOfMonth startDate : Int) - dayOfMonth endDate ∧
      (dayOfMonth startDate : Int) - dayOfMonth endDate ≤ 28 := by
  simp [Misjudged, year, december, january]

/-- The client's count allows what the calendar's does, unless the pair is misjudged. -/
theorem clientDays_iff {startDate endDate : Bytes}
    (validStart : validateDateFormat startDate = true)
    (validEnd : validateDateFormat endDate = true) (ordered : dayOf startDate ≤ dayOf endDate) :
    (clientDays endDate - clientDays startDate ≤ 6 ↔ dayOf endDate - dayOf startDate ≤ 6) ↔
      ¬ Misjudged startDate endDate := by
  obtain ⟨startMonth, inStartYear, startPositive, inStartMonth⟩ := numbers_of_valid validStart
  obtain ⟨endMonth, inEndYear, endPositive, inEndMonth⟩ := numbers_of_valid validEnd
  have startLength := monthLength_bounds validStart
  have endLength := monthLength_bounds validEnd
  have client := clientDays_sub startDate endDate
  rcases Int.lt_trichotomy (monthsBetween startDate endDate) 0 with earlier | same | later
  · have before := dayOf_lt validEnd validStart (by unfold monthsBetween at earlier ⊢; omega)
    omega
  · have days := dayOf_sameMonth same
    have agree : clientDays endDate - clientDays startDate = dayOf endDate - dayOf startDate := by
      unfold monthsBetween at same client
      omega
    rw [agree]
    refine iff_of_true Iff.rfl fun misjudged => ?_
    exact absurd (same.symm.trans (monthsBetween_of_misjudged misjudged)) (by decide)
  · by_cases next : monthsBetween startDate endDate = 1
    · rw [dayOf_nextMonth validStart next, client, next]
      unfold monthsBetween at next
      by_cases turn : yearOf endDate = yearOf startDate
      · have month : monthOf endDate = monthOf startDate + 1 := by omega
        rw [misjudged_withinYear turn month, turn]
        omega
      · have december : monthOf startDate = 12 := by omega
        have january : monthOf endDate = 1 := by omega
        have year : yearOf endDate = yearOf startDate + 1 := by omega
        have length : monthLength startDate = 31 := by
          rw [monthLength_eq ⟨startMonth, inStartYear⟩, december]
          rfl
        rw [misjudged_newYear year december january, length, year]
        omega
    · have apart := dayOf_laterMonth validStart (by omega : monthsBetween startDate endDate =
        1 + (monthsBetween startDate endDate - 1).toNat)
      have forward : yearOf startDate ≤ yearOf endDate := by
        unfold monthsBetween at later
        omega
      refine iff_of_true (iff_of_false (by omega) (by omega)) fun misjudged => ?_
      exact next (monthsBetween_of_misjudged misjudged)

/-- The client accepts a period exactly when it is seven days of the calendar or less, and that
is when the server, if `mktime` can represent both days, does not refuse it. -/
structure PeriodInput.Agrees (input : PeriodInput) : Prop where
  calendar : input.accepted = true ↔ dayOf input.endDate - dayOf input.startDate + 1 ≤ 7
  server : ∀ clock : Clock,
    clock.representable (86400 * dayOf input.startDate - clock.zone) = true →
    clock.representable (86400 * dayOf input.endDate - clock.zone) = true →
      (input.accepted = true ↔ daysBetween clock input.startDate input.endDate ≤ 7)

/-- The client agrees with the calendar and with the server on every period in its order that is
not misjudged, and on no other. -/
theorem PeriodInput.agrees_iff {startBuffer endBuffer stdin : Bytes} {size : Nat}
    {input : PeriodInput} (ran : getPeriodInput startBuffer endBuffer size stdin = input)
    (validStart : validateDateFormat input.startDate = true)
    (validEnd : validateDateFormat input.endDate = true)
    (ordered : dayOf input.startDate ≤ dayOf input.endDate) :
    input.Agrees ↔ ¬ Misjudged input.startDate input.endDate := by
  have notLater : ¬ 0 < strcmp input.startDate input.endDate := by
    rw [strcmp_pos_iff validStart validEnd]
    omega
  have accepted := accepted_iff ran validStart validEnd
  rw [and_iff_right notLater] at accepted
  rw [← clientDays_iff validStart validEnd ordered, ← accepted]
  have week : dayOf input.endDate - dayOf input.startDate + 1 ≤ 7 ↔
      dayOf input.endDate - dayOf input.startDate ≤ 6 := by omega
  constructor
  · intro agrees
    rw [agrees.calendar, week]
  · intro same
    refine ⟨same.trans week.symm, fun clock startFits endFits => ?_⟩
    rw [daysBetween_of_valid clock validStart validEnd startFits endFits, same, week]

/-- The first week of a month. -/
theorem PeriodInput.agrees_firstWeek :
    (getPeriodInput [] [] 9 (utf8 "20240601\n20240607\n")).Agrees ↔
      ¬ Misjudged (utf8 "20240601") (utf8 "20240607") :=
  PeriodInput.agrees_iff rfl (by decide) (by decide) (by decide)

/-- The last day of January and the first week of February are accepted, and are eight days. -/
theorem PeriodInput.not_agrees_january :
    ¬ (getPeriodInput [] [] 9 (utf8 "20240131\n20240207\n")).Agrees := by
  intro agrees
  have days := agrees.calendar.mp (by decide)
  exact absurd days (by decide)

end SchoolMeals
