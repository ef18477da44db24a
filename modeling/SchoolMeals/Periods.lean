/-
This file asks which periods the server passes on to NEIS. A period is split at
its hyphen, its parts are scanned as dates that nobody checks, and only a
difference of more than seven days between the times they stand for is refused.
So a period that is not two dates in their order, at most a week apart, gets
through as soon as it has two parts and the days scanned from them are near: in
the wrong order, or both out of the reach of `mktime`, they always are.
-/

import SchoolMeals.Neis
import SchoolMeals.Parsing

namespace SchoolMeals

open CText Interaction

/-! ### Valid periods -/

/-- The number of the day that an eight-digit date names. -/
def dayOf (date : Bytes) : Int :=
  Calendar.dayNumber (decimal (date.take 4)) (decimal ((date.drop 4).take 2) - 1)
    (decimal ((date.drop 6).take 2))

/-- Two dates of the calendar in their order, at most a week from the first to the last day. -/
def ValidPeriod (period : Bytes) : Prop :=
  ∃ startDate endDate, period = startDate ++ utf8 "-" ++ endDate ∧
    validateDateFormat startDate = true ∧ validateDateFormat endDate = true ∧
    dayOf startDate ≤ dayOf endDate ∧ dayOf endDate - dayOf startDate + 1 ≤ maxPeriodDays

/-! ### Dates that are scanned -/

theorem scanDate_of_digits {date : Bytes} (length : date.length = 8)
    (digits : ∀ byte ∈ date, isDigit byte = true) :
    scanDate date = ((decimal (date.take 4) : Int), (decimal ((date.drop 4).take 2) : Int),
      (decimal ((date.drop 6).take 2) : Int)) := by
  have later : ∀ count, ∀ byte ∈ date.drop count, isDigit byte = true := fun count byte member =>
    digits byte (List.mem_of_mem_drop member)
  have year := scanInt_of_digits (by decide : 0 < 4) (by decide) (by omega) digits
  have month := scanInt_of_digits (by decide : 0 < 2) (by decide) (by rw [List.length_drop]; omega)
    (later 4)
  have day := scanInt_of_digits (by decide : 0 < 2) (by decide) (by rw [List.length_drop]; omega)
    (later 6)
  simp only [scanDate, year, month, List.drop_drop, Nat.reduceAdd, day]

/-- A valid date stands for its local midnight, when that fits. -/
theorem parseDate_of_valid (clock : Clock) {date : Bytes} (valid : validateDateFormat date = true)
    (fits : clock.representable (86400 * dayOf date - clock.zone) = true) :
    parseDate clock date = 86400 * dayOf date - clock.zone := by
  obtain ⟨length, digits⟩ := digits_of_validateDateFormat valid
  rw [parseDate, scanDate_of_digits length digits]
  show clock.mktime _ _ _ = _
  rw [Clock.mktime, Int.sub_add_cancel]
  exact if_pos fits

/-- Between valid dates the gate counts the days, the first and the last included. -/
theorem daysBetween_of_valid (clock : Clock) {startDate endDate : Bytes}
    (validStart : validateDateFormat startDate = true)
    (validEnd : validateDateFormat endDate = true)
    (startFits : clock.representable (86400 * dayOf startDate - clock.zone) = true)
    (endFits : clock.representable (86400 * dayOf endDate - clock.zone) = true) :
    daysBetween clock startDate endDate = dayOf endDate - dayOf startDate + 1 := by
  have difference : 86400 * dayOf endDate - clock.zone - (86400 * dayOf startDate - clock.zone) =
      86400 * (dayOf endDate - dayOf startDate) := by omega
  rw [daysBetween, parseDate_of_valid clock validStart startFits,
    parseDate_of_valid clock validEnd endFits, difference]
  show (86400 * _ : Int).tdiv 86400 + 1 = _
  rw [Int.mul_tdiv_cancel_left _ (by decide)]

/-! ### Days that are scanned -/

/-- The day that the numbers scanned from a part of a period name, whether they are in range or
not. -/
def scannedDay (part : Bytes) : Int :=
  Calendar.dayNumber (scanDate part).1 ((scanDate part).2.1 - 1) (scanDate part).2.2

/-- The second at which that day begins. -/
def scannedMidnight (clock : Clock) (part : Bytes) : Int :=
  86400 * scannedDay part - clock.zone

/-- The days of two parts are less than a week apart, or the second one comes first. A day that
`time_t` does not reach stands for the second -1, so two such days are always near. -/
def Near (clock : Clock) (startDate endDate : Bytes) : Prop :=
  match clock.representable (scannedMidnight clock startDate),
    clock.representable (scannedMidnight clock endDate) with
  | true, true => scannedDay endDate - scannedDay startDate < 7
  | true, false => -1 - scannedMidnight clock startDate < 86400 * 7
  | false, true => scannedMidnight clock endDate + 1 < 86400 * 7
  | false, false => True

theorem parseDate_eq (clock : Clock) (part : Bytes) :
    parseDate clock part =
      if clock.representable (scannedMidnight clock part) then scannedMidnight clock part
      else -1 := by
  show clock.mktime _ _ _ = _
  rw [Clock.mktime, Int.sub_add_cancel]
  rfl

/-- The gate lets two parts pass exactly when their days are near. -/
theorem daysBetween_le_iff (clock : Clock) (startDate endDate : Bytes) :
    daysBetween clock startDate endDate ≤ 7 ↔ Near clock startDate endDate := by
  have week : ∀ seconds : Int, seconds.tdiv (60 * 60 * 24) + 1 ≤ 7 ↔ seconds < 86400 * 7 := by
    intro seconds
    have positive : (60 * 60 * 24 : Int).sign = 1 := by decide
    rw [Int.tdiv_eq_ediv, positive]
    split <;> omega
  rw [daysBetween, week, parseDate_eq, parseDate_eq, Near]
  cases clock.representable (scannedMidnight clock startDate) <;>
    cases clock.representable (scannedMidnight clock endDate)
  · simp
  · simp only [if_true, if_false, Bool.false_eq_true]
    omega
  · simp only [if_true, if_false, Bool.false_eq_true]
  · simp only [if_true, scannedMidnight]
    omega

/-! ### A request for a period -/

/-- A request with any bytes for a period. -/
def periodRequest (eduOffice schoolName : Operand) (period : Bytes) : Bytes :=
  requestText cmdGetMultiMeal [eduOffice.text, schoolName.text, period]

/-- The server reads the period up to its first slash, after any slashes in front. -/
def seenPeriod (period : Bytes) : Option Bytes := (fields cmdDelimiter (cString period)).head?

theorem parse_periodRequest (eduOffice schoolName : Operand) (period : Bytes) :
    parseRequest (periodRequest eduOffice schoolName period) =
      some ⟨cmdGetMultiMeal, { Operands.null with
        eduOffice := some eduOffice.text, schoolName := some schoolName.text,
        period := seenPeriod period }⟩ := by
  have text : periodRequest eduOffice schoolName period =
      cmdGetMultiMeal ++ cmdDelimiter ++ (eduOffice.text ++ cmdDelimiter ++
        (schoolName.text ++ cmdDelimiter ++ period)) := by
    simp [periodRequest, requestText, trailing]
  have zeroFree : ∀ token : Bytes, 0 ∉ token → 0 ∉ token ++ cmdDelimiter := by
    intro token tokenFree zero
    exact (List.mem_append.mp zero).elim tokenFree (by decide)
  have read : fields cmdDelimiter (cString (periodRequest eduOffice schoolName period)) =
      cmdGetMultiMeal :: eduOffice.text :: schoolName.text ::
        fields cmdDelimiter (cString period) := by
    rw [text, cString_append _ (zeroFree _ (by decide)),
      cString_append _ (zeroFree _ eduOffice.zeroFree),
      cString_append _ (zeroFree _ schoolName.zeroFree),
      fields_delimited (by decide), fields_delimited eduOffice.isToken,
      fields_delimited schoolName.isToken]
  rw [parseRequest_of_fields read, seenPeriod, List.head?_eq_getElem?]
  rfl

/-- The URLs with which a call asks for the meals of a period. -/
def NeisSide.periodQueries (side : NeisSide) : Call → List Bytes
  | .getMealsPeriodFromNeis eduOffice schoolCode startDate endDate =>
    side.urls (side.getMealsPeriodFromNeis eduOffice schoolCode startDate endDate)
  | _ => []

/-- The URLs with which a request asks for the meals of a period. -/
def NeisSide.periodQueriesOf (side : NeisSide) (arrival : Arrival) (store : Store) : List Bytes :=
  askedIn side.periodQueries arrival.around (handleClient arrival.locals arrival.received)
    (World.start store)

section Handled

variable (side : NeisSide) (eduOffice schoolName : Operand) (period : Bytes) (locals : Locals)
  (around : Surroundings) (store : Store)

/-- The arrival of such a request. -/
def periodArrival : Arrival := ⟨periodRequest eduOffice schoolName period, locals, around⟩

theorem handleClient_periodArrival :
    handleClient locals (periodArrival eduOffice schoolName period locals around).received =
      getMultiMeal (some eduOffice.text) (some schoolName.text) (seenPeriod period) := by
  rw [periodArrival, handleClient, parse_periodRequest]
  rfl

/-- What NEIS is asked for. -/
theorem periodQueriesOf_eq :
    side.periodQueriesOf (periodArrival eduOffice schoolName period locals around) store =
      (seenPeriod period).elim [] fun seen =>
        (splitPeriod seen).elim [] fun dates =>
          (codesUsed around eduOffice.text schoolName.text).elim [] fun codes =>
            if daysBetween side.clock dates.1 dates.2 ≤ 7 ∧ side.ready then
              [mealsPeriodUrl codes.eduCode codes.schoolCode dates.1 dates.2]
            else [] := by
  have program := handleClient_periodArrival eduOffice schoolName period locals around
  show askedIn side.periodQueries around (handleClient locals _) (World.start store) = _
  rw [program]
  cases seenPeriod period with
  | none => rfl
  | some seen =>
    refine (askedIn_getMultiMeal around (World.start store) (fun _ => rfl) eduOffice.text
      schoolName.text seen).trans ?_
    have nothing : askedForCodes side.periodQueries schoolName.text = [] := ite_self _
    simp only [nothing, List.nil_append, NeisSide.periodQueries,
      NeisSide.urls_getMealsPeriodFromNeis, Option.elim_some]

/-- What the server replies. -/
theorem outcome_periodArrival :
    (serve (periodArrival eduOffice schoolName period locals around) store).outcome =
      (seenPeriod period).elim (refusal store respInvalidRequest) fun seen =>
        multiMealOutcome around store eduOffice.text schoolName.text seen := by
  have program := handleClient_periodArrival eduOffice schoolName period locals around
  show outcomeOf around store (handleClient locals _) = _
  rw [program]
  cases seenPeriod period with
  | none => rfl
  | some seen => exact outcomeOf_getMultiMeal around store eduOffice.text schoolName.text seen

/-- Only a valid period is passed on to NEIS; any other is answered with an error and without
a query. -/
def Gates : Prop :=
  (side.periodQueriesOf (periodArrival eduOffice schoolName period locals around) store ≠ [] →
      ValidPeriod period) ∧
    (¬ ValidPeriod period →
      side.periodQueriesOf (periodArrival eduOffice schoolName period locals around) store = [] ∧
        ∃ reply, (serve (periodArrival eduOffice schoolName period locals around) store).sent =
          [reply] ∧ reply.status = respError)

/-- The split finds two parts whose days are near, a school is found, and libcurl is there. -/
def GetsThrough : Prop :=
  ∃ seen startDate endDate, seenPeriod period = some seen ∧
    splitPeriod seen = some (startDate, endDate) ∧ Near side.clock startDate endDate ∧
    codesUsed around eduOffice.text schoolName.text ≠ none ∧ side.ready = true

/-- What stops a period that does not get through. -/
theorem stopped_of_not_getsThrough
    (stopped : ¬ GetsThrough side eduOffice schoolName period around) {seen : Bytes}
    (isSeen : seenPeriod period = some seen) {startDate endDate : Bytes}
    (split : splitPeriod seen = some (startDate, endDate)) :
    codesUsed around eduOffice.text schoolName.text = none ∨
      7 < daysBetween side.clock startDate endDate ∨ side.ready = false := by
  by_contra passes
  rw [not_or, not_or, Int.not_lt, Bool.not_eq_false] at passes
  obtain ⟨found, short, ready⟩ := passes
  exact stopped ⟨seen, startDate, endDate, isSeen, split,
    (daysBetween_le_iff side.clock startDate endDate).mp short, found, ready⟩

/-- Exactly the periods that get through are passed on to NEIS. -/
theorem periodQueriesOf_ne_nil_iff :
    side.periodQueriesOf (periodArrival eduOffice schoolName period locals around) store ≠ [] ↔
      GetsThrough side eduOffice schoolName period around := by
  rw [periodQueriesOf_eq]
  constructor
  · intro asked
    by_contra stopped
    apply asked
    cases isSeen : seenPeriod period with
    | none => rfl
    | some seen =>
      rw [Option.elim_some]
      cases split : splitPeriod seen with
      | none => rfl
      | some dates =>
        obtain ⟨startDate, endDate⟩ := dates
        have stops := stopped_of_not_getsThrough side eduOffice schoolName period around stopped
          isSeen split
        cases used : codesUsed around eduOffice.text schoolName.text with
        | none => rfl
        | some codes =>
          have gate := stops.resolve_left fun missing =>
            Option.some_ne_none codes (used.symm.trans missing)
          refine if_neg fun passes => ?_
          rcases gate with long | unready
          · exact absurd passes.1 (Int.not_le.mpr long)
          · exact Bool.false_ne_true (unready.symm.trans passes.2)
  · rintro ⟨seen, startDate, endDate, isSeen, split, near, found, ready⟩
    obtain ⟨codes, used⟩ := Option.ne_none_iff_exists'.mp found
    have short := (daysBetween_le_iff side.clock startDate endDate).mpr near
    rw [isSeen, Option.elim_some, split, Option.elim_some, used, Option.elim_some,
      if_pos ⟨short, ready⟩]
    exact List.cons_ne_nil _ _

/-- A period that does not get through is answered with an error. -/
theorem error_of_not_getsThrough (answers : side.Answers around)
    (stopped : ¬ GetsThrough side eduOffice schoolName period around) :
    ∃ reply, (serve (periodArrival eduOffice schoolName period locals around) store).sent =
      [reply] ∧ reply.status = respError := by
  have outcome := outcome_periodArrival eduOffice schoolName period locals around store
  suffices error : ∃ message, (serve (periodArrival eduOffice schoolName period locals around)
      store).outcome = refusal store message by
    obtain ⟨message, same⟩ := error
    exact ⟨failure message, (World.of_outcome same).2, rfl⟩
  rw [outcome]
  cases isSeen : seenPeriod period with
  | none => exact ⟨respInvalidRequest, rfl⟩
  | some seen =>
    rw [Option.elim_some, multiMealOutcome]
    cases split : splitPeriod seen with
    | none => exact ⟨errInvalidDateFormat, rfl⟩
    | some dates =>
      obtain ⟨startDate, endDate⟩ := dates
      have stops := stopped_of_not_getsThrough side eduOffice schoolName period around stopped
        isSeen split
      cases used : codesUsed around eduOffice.text schoolName.text with
      | none => exact ⟨schoolNotFound, rfl⟩
      | some codes =>
        have gate := stops.resolve_left fun missing =>
          Option.some_ne_none codes (used.symm.trans missing)
        have nothing := answers.meals codes.eduCode codes.schoolCode startDate endDate none
          (side.result_getMealsPeriodFromNeis gate)
        refine ⟨errMealNotFound, ?_⟩
        simp only [nothing]

/-- The server gates the period exactly when it is valid, or does not get through. -/
theorem gates_iff (answers : side.Answers around) :
    Gates side eduOffice schoolName period locals around store ↔
      ValidPeriod period ∨ ¬ GetsThrough side eduOffice schoolName period around := by
  have passedOn := periodQueriesOf_ne_nil_iff side eduOffice schoolName period locals around store
  constructor
  · intro gates
    by_cases valid : ValidPeriod period
    · exact .inl valid
    · exact .inr fun through => passedOn.mpr through (gates.2 valid).1
  · rintro (valid | stopped)
    · exact ⟨fun _ => valid, fun invalid => absurd valid invalid⟩
    · have nothing := not_ne_iff.mp fun asked => stopped (passedOn.mp asked)
      exact ⟨fun asked => absurd nothing asked, fun _ => ⟨nothing,
        error_of_not_getsThrough side eduOffice schoolName period locals around store answers
          stopped⟩⟩

end Handled

/-! ### Two periods -/

def ownOffice : Operand := ⟨utf8 "B10", by decide, by decide⟩

def ownSchool : Operand := ⟨utf8 "7010569", by decide, by decide⟩

/-- The first week of a month. -/
theorem gates_sample :
    Gates (.calm .null) ownOffice ownSchool (utf8 "20240603-20240607") .zeroed
        (NeisSide.calm .null).surroundings initDb ↔
      ValidPeriod (utf8 "20240603-20240607") ∨
        ¬ GetsThrough (.calm .null) ownOffice ownSchool (utf8 "20240603-20240607")
          (NeisSide.calm .null).surroundings :=
  gates_iff (.calm .null) ownOffice ownSchool (utf8 "20240603-20240607") .zeroed
    (NeisSide.calm .null).surroundings initDb (NeisSide.calm .null).answers_surroundings

/-- A period of two words is passed on: for both, `mktime` returns the same error. -/
theorem words_passed_on : ¬ Gates (.calm .null) ownOffice ownSchool (utf8 "abc-def") .zeroed
    (NeisSide.calm .null).surroundings initDb := by
  intro gates
  obtain ⟨startDate, endDate, same, validStart, validEnd, _⟩ := gates.1 (by decide)
  have startLength := (digits_of_validateDateFormat validStart).1
  have endLength := (digits_of_validateDateFormat validEnd).1
  have lengths := congrArg List.length same
  rw [List.length_append, List.length_append, startLength, endLength] at lengths
  exact absurd lengths (by decide)

end SchoolMeals
