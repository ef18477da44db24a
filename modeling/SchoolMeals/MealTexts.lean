/-
This file asks whether the texts of meals fit into their arrays, and whether they
have every row of a day. Five bytes are added to each dish, and nobody compares
the sum with the array for a row of a period. The query for a day takes the first
row of the answer, where the query for a period takes every row.
-/

import SchoolMeals.Rows

namespace SchoolMeals

open CText Interaction

/-! ### Room for a menu -/

/-- A date of eight bytes. -/
structure Day where
  text : Bytes
  length : text.length = 8
  zeroFree : 0 ∉ text

/-- The formatted date has the eight bytes between the three letters. -/
theorem Day.formattedDate_eq (day : Day) :
    formattedDate day.text = day.text.take 4 ++ utf8 "년 " ++ (day.text.drop 4).take 2 ++
      utf8 "월 " ++ day.text.drop 6 ++ utf8 "일" := by
  obtain ⟨text, length, zeroFree⟩ := day
  match text, length with
  | [first, second, third, fourth, fifth, sixth, seventh, eighth], _ =>
    have fits : snprintf 20 ([first, second, third, fourth] ++ utf8 "년 " ++ [fifth, sixth] ++
        utf8 "월 " ++ [seventh, eighth] ++ utf8 "일") = _ :=
      snprintf_of_fits 20 _ (by simp [show (utf8 "년 ").length = 4 by decide,
        show (utf8 "월 ").length = 4 by decide, show (utf8 "일").length = 3 by decide])
    have year : (0 : UInt8) ∉ utf8 "년 " := by decide
    have month : (0 : UInt8) ∉ utf8 "월 " := by decide
    have last : (0 : UInt8) ∉ utf8 "일" := by decide
    refine (congrArg cString fits).trans (cString_of_zeroFree _ ?_)
    simp only [List.mem_cons, List.not_mem_nil, or_false, not_or] at zeroFree
    simp [year, month, last, zeroFree]

theorem Day.length_formattedDate (day : Day) : (formattedDate day.text).length = 19 := by
  have year : (utf8 "년 ").length = 4 := by decide
  have month : (utf8 "월 ").length = 4 := by decide
  have last : (utf8 "일").length = 3 := by decide
  simp [day.formattedDate_eq, day.length, year, month, last]

theorem Day.length_entryHeading (day : Day) : (entryHeading day.text).length = 25 := by
  have start : (utf8 "📅 ").length = 5 := by decide
  simp [entryHeading, day.length_formattedDate, start, length_newline]

theorem Day.length_mealHeading (day : Day) : (mealHeading day.text).length = 57 := by
  have title : (utf8 "\n🍱 오늘의 급식 메뉴\n\n").length = 31 := by decide
  have start : (utf8 "📅 ").length = 5 := by decide
  have newlines : (utf8 "\n\n").length = 2 := by decide
  simp [mealHeading, day.length_formattedDate, title, start, newlines]

/-- The heading of a row leaves room for lines. -/
theorem formatEntry_day (menu : Menu) (day : Day) :
    formatEntry 512 menu.text day.text =
      strcat 512 (entryHeading day.text) ((dishTexts menu.text).flatMap dishLine) :=
  formatEntry_eq menu.zeroFree day.text (by rw [day.length_entryHeading]; decide)

/-- The text of a row fits when its heading and its lines do. -/
theorem isSome_formatEntry (menu : Menu) (day : Day) :
    (formatEntry 512 menu.text day.text).isSome ↔ 25 + linesLength (dishTexts menu.text) < 512 := by
  rw [formatEntry_day, isSome_strcat, day.length_entryHeading, length_flatMap_dishLine]

theorem isSome_formatMeal (menu : Menu) (day : Day) :
    (formatMeal maxMealLen menu.text day.text).isSome ↔
      57 + linesLength (dishTexts menu.text) < maxMealLen := by
  rw [formatMeal_eq maxMealLen menu.zeroFree, isSome_strcat, List.length_append,
    day.length_mealHeading, length_flatMap_dishLine, List.length_nil, Nat.zero_add]

/-- No `strcat` writes past `result`, which has `MAX_MEAL_LEN` bytes, or past `entry`, which has
512. -/
def FitsArrays (menu : Menu) (day : Day) : Prop :=
  (formatMeal maxMealLen menu.text day.text).isSome ∧ (formatEntry 512 menu.text day.text).isSome

/-- A menu fits exactly when its dishes, with five bytes for each, take at most 486 bytes. -/
theorem fitsArrays_iff (menu : Menu) (day : Day) :
    FitsArrays menu day ↔ linesLength (dishTexts menu.text) ≤ 486 := by
  have limit : maxMealLen = 2000 := rfl
  rw [FitsArrays, isSome_formatMeal, isSome_formatEntry, limit]
  omega

/-- A menu of 35 dishes with names of three letters. -/
def longMenu : Menu :=
  menuOf (List.replicate 35 ⟨utf8 "현미밥", by decide, avoids_of_all (by decide), by decide⟩)

/-- That menu is too long for a row. -/
theorem not_fitsArrays_long :
    ¬ FitsArrays longMenu ⟨utf8 "20240603", by decide, by decide⟩ := by
  intro both
  have fits := (isSome_formatEntry _ _).mp both.2
  have name : dishText (utf8 "현미밥") = utf8 "현미밥" := by decide
  have nonempty : utf8 "현미밥" ≠ [] := by decide
  have length : (utf8 "현미밥").length = 9 := by decide
  rw [longMenu, dishTexts_menuOf] at fits
  simp [linesLength, name, nonempty, length] at fits

/-! ### The dish lines of a text -/

/-- The lines of a text that begin as the line of a dish does. -/
def dishLinesOf (text : Bytes) : List Bytes :=
  (text.splitOnP (· ∈ utf8 "\n")).filter (utf8 "• " <+: ·)

/-- A text in front of any other adds no dish line. -/
def IsHeading (text : Bytes) : Prop := ∀ rest, dishLinesOf (text ++ rest) = dishLinesOf rest

theorem dishLinesOf_append (text rest : Bytes) :
    dishLinesOf (text ++ utf8 "\n" ++ rest) = dishLinesOf text ++ dishLinesOf rest := by
  have newline : utf8 "\n" = [10] := by decide
  rw [dishLinesOf, newline, List.append_assoc, List.singleton_append,
    List.splitOnP_append_cons text rest (by simp), List.filter_append]
  rfl

theorem dishLinesOf_nil : dishLinesOf [] = [] := by decide

theorem IsHeading.append {text more : Bytes} (heading : IsHeading text) (next : IsHeading more) :
    IsHeading (text ++ more) := by
  intro rest
  rw [List.append_assoc, heading, next]

/-- The first line of a text is in front, and every other is behind a line break. -/
theorem lines_infix (text : Bytes) :
    ∃ first others, text.splitOnP (· ∈ utf8 "\n") = first :: others ∧ first <+: text ∧
      ∀ line ∈ others, 10 :: line <:+: text := by
  induction text with
  | nil => exact ⟨[], [], rfl, List.prefix_rfl, fun _ member => absurd member List.not_mem_nil⟩
  | cons byte text inductionHypothesis =>
    obtain ⟨first, others, split, isFirst, areOthers⟩ := inductionHypothesis
    rw [List.splitOnP_cons_eq_if_modifyHead, split]
    by_cases breaks : byte ∈ utf8 "\n"
    · obtain rfl : byte = 10 := List.mem_singleton.mp breaks
      rw [if_pos (decide_eq_true breaks)]
      refine ⟨[], _, rfl, List.nil_prefix, fun line member => ?_⟩
      rcases List.mem_cons.mp member with rfl | member
      · exact ((List.prefix_cons_inj 10).mpr isFirst).isInfix
      · exact List.infix_cons (areOthers line member)
    · rw [if_neg (by simpa using breaks)]
      exact ⟨_, others, rfl, (List.prefix_cons_inj byte).mpr isFirst,
        fun line member => List.infix_cons (areOthers line member)⟩

/-- A text in which no line begins with a bullet. -/
theorem isHeading_lines {text : Bytes} (front : ¬ utf8 "• " <+: text)
    (behind : ¬ 10 :: utf8 "• " <:+: text) : IsHeading (text ++ utf8 "\n") := by
  intro rest
  obtain ⟨first, others, split, isFirst, areOthers⟩ := lines_infix text
  have none : dishLinesOf text = [] := by
    rw [dishLinesOf, split, List.filter_eq_nil_iff]
    intro line member bullet
    have begins : utf8 "• " <+: line := of_decide_eq_true bullet
    rcases List.mem_cons.mp member with rfl | member
    · exact front (begins.trans isFirst)
    · exact behind (((List.prefix_cons_inj 10).mpr begins).isInfix.trans (areOthers line member))
  rw [dishLinesOf_append, none, List.nil_append]

/-- The dish lines of the lines that are printed for some texts. A text that has a line break
itself may give more than one. -/
def shownLines (texts : List Bytes) : List Bytes :=
  texts.flatMap fun text => dishLinesOf (utf8 "• " ++ text)

theorem shownLines_cons (text : Bytes) (texts : List Bytes) :
    shownLines (text :: texts) = dishLinesOf (utf8 "• " ++ text) ++ shownLines texts :=
  List.flatMap_cons

theorem dishLinesOf_lines (texts : List Bytes) (rest : Bytes) :
    dishLinesOf (texts.flatMap dishLine ++ rest) = shownLines texts ++ dishLinesOf rest := by
  induction texts with
  | nil => rfl
  | cons text texts inductionHypothesis =>
    rw [List.flatMap_cons, List.append_assoc, dishLine, dishLinesOf_append, inductionHypothesis,
      shownLines_cons, List.append_assoc]

/-- Every text has a dish line. -/
theorem shownLines_eq_nil_iff (texts : List Bytes) : shownLines texts = [] ↔ texts = [] := by
  cases texts with
  | nil => exact iff_of_true rfl rfl
  | cons text texts =>
    refine iff_of_false ?_ (List.cons_ne_nil _ _)
    have plain : ∀ byte ∈ utf8 "• ", byte ∉ utf8 "\n" := avoids_of_all (by decide)
    obtain ⟨first, others, split⟩ := List.exists_cons_of_ne_nil
      (List.splitOnP_ne_nil (· ∈ utf8 "\n") text)
    have bullet : decide (utf8 "• " <+: utf8 "• " ++ first) = true :=
      decide_eq_true (List.prefix_append _ _)
    rw [shownLines_cons, dishLinesOf, splitOnP_token text plain, split, List.modifyHead_cons,
      List.filter_cons, if_pos bullet]
    exact List.cons_ne_nil _ _

/-! ### The rows of a day -/

/-- A row of NEIS for a day, with the members that the functions read. -/
structure MealRow (day : Day) where
  json : Json
  menu : Menu
  isDay : json.objectGetEx (utf8 "MLSV_YMD") = some (.string day.text)
  isMenu : json.objectGetEx (utf8 "DDISH_NM") = some (.string menu.text)

section Rows

variable {day : Day}

/-- The texts of the dishes of a row. -/
def MealRow.texts (row : MealRow day) : List Bytes := dishTexts row.menu.text

/-- What the query for a day makes of its first row. -/
def mealText (row : MealRow day) : Bytes := mealHeading day.text ++ row.texts.flatMap dishLine

/-- What the query for a period makes of a row. -/
def entryText (row : MealRow day) : Bytes := entryHeading day.text ++ row.texts.flatMap dishLine

/-- What it makes of all rows. -/
def periodText (rows : List (MealRow day)) : Bytes :=
  utf8 "\n🍱 기간별 급식 메뉴\n\n" ++ rows.flatMap fun row => entryText row ++ utf8 "\n"

/-- The texts are short enough for the arrays of the query for a period. -/
structure Short (rows : List (MealRow day)) : Prop where
  entries : ∀ row ∈ rows, (entryText row).length < 512
  period : (periodText rows).length < maxMealLen

/-- The document has these rows where the functions look for them. -/
def HoldsRows (document : Json) (rows : List (MealRow day)) : Prop :=
  ∃ elements, document.objectGetEx (utf8 "mealServiceDietInfo") = some (.array elements) ∧
    (elements.getD 1 .null).objectGetEx (utf8 "row") = some (.array (rows.map MealRow.json))

theorem length_entryText (row : MealRow day) :
    (entryText row).length = 25 + linesLength row.texts := by
  rw [entryText, List.length_append, day.length_entryHeading, length_flatMap_dishLine]

theorem formatEntry_row (row : MealRow day) (short : (entryText row).length < 512) :
    formatEntry 512 row.menu.text day.text = some (entryText row) := by
  rw [formatEntry_day]
  exact strcat_of_fits (by rwa [entryText, List.length_append] at short)

/-- The text for a day fits whenever the text for a period does. -/
theorem formatMeal_row (row : MealRow day) (short : (entryText row).length < 512) :
    formatMeal maxMealLen row.menu.text day.text = some (mealText row) := by
  have limit : maxMealLen = 2000 := rfl
  rw [length_entryText] at short
  rw [formatMeal_eq maxMealLen row.menu.zeroFree, ← MealRow.texts, strcat_of_fits]
  · rfl
  · rw [List.length_append, day.length_mealHeading, length_flatMap_dishLine, List.length_nil, limit]
    omega

theorem MealRow.dateText (libraries : Libraries) (row : MealRow day) :
    memberText libraries row.json (utf8 "MLSV_YMD") = some day.text := by
  rw [memberText, row.isDay]
  exact congrArg some (cString_of_zeroFree _ day.zeroFree)

theorem MealRow.menuText (libraries : Libraries) (row : MealRow day) :
    memberText libraries row.json (utf8 "DDISH_NM") = some row.menu.text := by
  rw [memberText, row.isMenu]
  exact congrArg some (cString_of_zeroFree _ row.menu.zeroFree)

theorem MealRow.rowEntry_eq (libraries : Libraries) (row : MealRow day)
    (short : (entryText row).length < 512) :
    rowEntry libraries row.json = some (entryText row) := by
  rw [← formatEntry_row row short, rowEntry, row.dateText, row.menuText]
  rfl

/-- The loop over the rows appends their texts. -/
theorem addRows_eq (libraries : Libraries) (rows : List (MealRow day)) {buffer : Bytes}
    (entries : ∀ row ∈ rows, (entryText row).length < 512)
    (fits : (buffer ++ rows.flatMap fun row => entryText row ++ utf8 "\n").length < maxMealLen) :
    addRows libraries (rows.map MealRow.json) buffer =
      some (buffer ++ rows.flatMap fun row => entryText row ++ utf8 "\n") := by
  have each : ∀ row ∈ rows, rowEntry libraries row.json = some (entryText row) :=
    fun row member => row.rowEntry_eq libraries (entries row member)
  have defined : ∀ item ∈ rows.map MealRow.json, (rowEntry libraries item).isSome := by
    intro item member
    obtain ⟨row, isRow, rfl⟩ := List.mem_map.mp member
    rw [each row isRow]
    rfl
  have texts : (rows.map MealRow.json).filterMap (rowEntry libraries) = rows.map entryText := by
    rw [List.filterMap_map, ← List.filterMap_eq_map]
    exact List.filterMap_congr each
  rw [List.length_append] at fits
  rw [addRows_lines defined (by omega), texts, rowLines, List.flatMap_map]
  exact strcat_of_fits fits

/-- What the query for a day reads. -/
theorem readMeal_eq {libraries : Libraries} {body : Bytes} {first : MealRow day}
    {rows : List (MealRow day)} (holds : HoldsRows (libraries.tokenerParse body) (first :: rows))
    (short : (entryText first).length < 512) :
    readMeal libraries day.text body = some (some (mealText first)) := by
  obtain ⟨elements, isArray, isRow⟩ := holds
  have text : (Json.string first.menu.text).getString libraries = some first.menu.text :=
    congrArg some (cString_of_zeroFree _ first.menu.zeroFree)
  have bound : (mealText first).length ≤ maxMealLen - 1 := by
    have limit : maxMealLen = 2000 := rfl
    rw [length_entryText] at short
    rw [mealText, List.length_append, day.length_mealHeading, length_flatMap_dishLine, limit]
    omega
  have copied : strncpy (mealText first) (maxMealLen - 1) [] = mealText first := by
    rw [strncpy_zeroed, List.take_of_length_le bound]
  simp only [readMeal, isArray, isRow, List.map_cons, List.getD_cons_zero, first.isMenu, text,
    Option.bind_eq_bind, Option.bind_some, formatMeal_row first short, copied]
  rfl

/-- What the query for a period reads. -/
theorem readMeals_eq {libraries : Libraries} {body : Bytes} {rows : List (MealRow day)}
    (holds : HoldsRows (libraries.tokenerParse body) rows) (short : Short rows) :
    readMeals libraries body = some (some (periodText rows)) := by
  obtain ⟨elements, isArray, isRow⟩ := holds
  have title : strcat maxMealLen [] (utf8 "\n🍱 기간별 급식 메뉴\n\n") =
      some (utf8 "\n🍱 기간별 급식 메뉴\n\n") := strcat_of_fits (by decide)
  have copied : strncpy (periodText rows) (maxMealLen - 1) [] = periodText rows := by
    rw [strncpy_zeroed, List.take_of_length_le (Nat.le_sub_one_of_lt short.period)]
  have added : addRows libraries (rows.map MealRow.json) (utf8 "\n🍱 기간별 급식 메뉴\n\n") =
      some (periodText rows) := addRows_eq libraries rows short.entries short.period
  simp only [readMeals, isArray, isRow, title, Option.bind_eq_bind, Option.bind_some, added, copied]
  rfl

/-! ### A day and the period of that day -/

/-- NEIS answers the query for the day and the query for the period of that day with these rows. -/
structure NeisSide.HasRows (side : NeisSide) (eduOffice schoolCode : Bytes)
    (rows : List (MealRow day)) : Prop where
  ready : side.ready = true
  onDay : ∃ body, side.body (mealUrl eduOffice schoolCode day.text) = some body ∧
    HoldsRows (side.libraries.tokenerParse body) rows
  inPeriod : ∃ body, side.body (mealsPeriodUrl eduOffice schoolCode day.text day.text) = some body ∧
    HoldsRows (side.libraries.tokenerParse body) rows

variable {side : NeisSide} {eduOffice schoolCode : Bytes} {first : MealRow day}
  {rows : List (MealRow day)}

theorem result_onDay (has : side.HasRows eduOffice schoolCode (first :: rows))
    (short : Short (first :: rows)) :
    side.formatting.result (side.formatting.getMealFromNeis eduOffice schoolCode day.text) =
      some (some (mealText first)) := by
  obtain ⟨body, answered, holds⟩ := has.onDay
  have request := side.formatting.result_request (readMeal side.libraries day.text)
    (mealUrl eduOffice schoolCode day.text)
  have ready : side.formatting.ready = true := has.ready
  have found : side.formatting.body (mealUrl eduOffice schoolCode day.text) = some body := answered
  rw [ready, if_pos rfl, found, Option.elim_some,
    readMeal_eq holds (short.entries first List.mem_cons_self)] at request
  exact request

/-- The first and the last day of the period are one. -/
theorem daysBetween_self (clock : Clock) (date : Bytes) : daysBetween clock date date = 1 := by
  rw [daysBetween, Int.sub_self]
  rfl

theorem result_inPeriod (has : side.HasRows eduOffice schoolCode rows) (short : Short rows) :
    side.formatting.result
        (side.formatting.getMealsPeriodFromNeis eduOffice schoolCode day.text day.text) =
      some (some (periodText rows)) := by
  obtain ⟨body, answered, holds⟩ := has.inPeriod
  have request := side.formatting.result_request (readMeals side.libraries)
    (mealsPeriodUrl eduOffice schoolCode day.text day.text)
  have ready : side.formatting.ready = true := has.ready
  have found : side.formatting.body (mealsPeriodUrl eduOffice schoolCode day.text day.text) =
    some body := answered
  rw [ready, if_pos rfl, found, Option.elim_some, readMeals_eq holds short] at request
  rw [NeisSide.getMealsPeriodFromNeis, Neis.getMealsPeriodFromNeis, daysBetween_self,
    if_neg (by decide)]
  exact request

/-- Whatever the eight bytes are, no line of the date is a dish line: between a line break and the
end of a bullet there would be one of the letters. -/
theorem isHeading_date (day : Day) :
    IsHeading (utf8 "📅 " ++ formattedDate day.text ++ utf8 "\n") := by
  refine isHeading_lines (fun bullet => ?_) fun bullet => ?_
  · obtain ⟨rest, same⟩ := bullet
    have heads := congrArg List.head? same
    have bulletHead : (utf8 "• ").head? = some 226 := by decide
    have dateHead : (utf8 "📅 ").head? = some 240 := by decide
    rw [List.head?_append, List.head?_append, bulletHead, dateHead] at heads
    exact absurd heads (by decide : some (226 : UInt8) ≠ some 240)
  · have lineBegin : 10 :: utf8 "• " = [10, 226, 128, 162, 32] := by decide
    have start : utf8 "📅 " = [240, 159, 147, 133, 32] := by decide
    have year : utf8 "년 " = [235, 133, 132, 32] := by decide
    have month : utf8 "월 " = [236, 155, 148, 32] := by decide
    have last : utf8 "일" = [236, 157, 188] := by decide
    rw [lineBegin, day.formattedDate_eq, start, year, month, last] at bullet
    obtain ⟨text, length, zeroFree⟩ := day
    match text, length with
    | [first, second, third, fourth, fifth, sixth, seventh, eighth], _ =>
      simp [List.infix_cons_iff] at bullet

theorem isHeading_newline : IsHeading (utf8 "\n") :=
  isHeading_lines (by decide : ¬ utf8 "• " <+: []) (by decide)

theorem isHeading_mealHeading (day : Day) : IsHeading (mealHeading day.text) := by
  have title : utf8 "\n🍱 오늘의 급식 메뉴\n\n" = utf8 "\n🍱 오늘의 급식 메뉴\n" ++ utf8 "\n" := by decide
  have newlines : utf8 "\n\n" = utf8 "\n" ++ utf8 "\n" := by decide
  have parts := ((isHeading_lines (by decide : ¬ utf8 "• " <+: utf8 "\n🍱 오늘의 급식 메뉴\n")
    (by decide)).append (isHeading_date day)).append isHeading_newline
  rw [mealHeading, title, newlines]
  simpa only [List.append_assoc] using parts

theorem isHeading_periodHeading : IsHeading (utf8 "\n🍱 기간별 급식 메뉴\n\n") := by
  have title : utf8 "\n🍱 기간별 급식 메뉴\n\n" = utf8 "\n🍱 기간별 급식 메뉴\n" ++ utf8 "\n" := by decide
  rw [title]
  exact isHeading_lines (by decide) (by decide)

/-- The text for a day shows the dishes of its row. -/
theorem dishLinesOf_mealText (row : MealRow day) :
    dishLinesOf (mealText row) = shownLines row.texts := by
  have shown := dishLinesOf_lines row.texts []
  rw [List.append_nil, dishLinesOf_nil, List.append_nil] at shown
  rw [mealText, isHeading_mealHeading day, shown]

/-- The text for a period shows the dishes of all rows. -/
theorem dishLinesOf_periodText (rows : List (MealRow day)) :
    dishLinesOf (periodText rows) = rows.flatMap fun row => shownLines row.texts := by
  rw [periodText, isHeading_periodHeading]
  induction rows with
  | nil => exact dishLinesOf_nil
  | cons row rows inductionHypothesis =>
    rw [List.flatMap_cons, List.flatMap_cons, entryText, entryHeading, List.append_assoc,
      List.append_assoc, isHeading_date day, dishLinesOf_lines, isHeading_newline,
      inductionHypothesis]

/-- Both queries succeed, and what the one for the day shows is what the one for the period
shows. -/
def ShowsEveryRow (side : NeisSide) (eduOffice schoolCode : Bytes) (day : Day) : Prop :=
  ∃ meal meals,
    side.formatting.result (side.formatting.getMealFromNeis eduOffice schoolCode day.text) =
      some (some meal) ∧
    side.formatting.result
        (side.formatting.getMealsPeriodFromNeis eduOffice schoolCode day.text day.text) =
      some (some meals) ∧
    dishLinesOf meal = dishLinesOf meals

/-- Both show the same when the rows behind the first show nothing. -/
theorem showsEveryRow_iff_behind (has : side.HasRows eduOffice schoolCode (first :: rows))
    (short : Short (first :: rows)) :
    ShowsEveryRow side eduOffice schoolCode day ↔
      (rows.flatMap fun row => shownLines row.texts) = [] := by
  have onDay := result_onDay has short
  have inPeriod := result_inPeriod has short
  have compare : ShowsEveryRow side eduOffice schoolCode day ↔
      dishLinesOf (mealText first) = dishLinesOf (periodText (first :: rows)) := by
    constructor
    · rintro ⟨meal, meals, isMeal, isMeals, same⟩
      rw [onDay, Option.some.injEq, Option.some.injEq] at isMeal
      rw [inPeriod, Option.some.injEq, Option.some.injEq] at isMeals
      rw [isMeal, isMeals, same]
    · exact fun same => ⟨_, _, onDay, inPeriod, same⟩
  rw [compare, dishLinesOf_mealText, dishLinesOf_periodText, List.flatMap_cons,
    List.self_eq_append_right]

/-- Every row of the day is shown exactly when there is no dish in the rows behind the first. -/
theorem showsEveryRow_iff (has : side.HasRows eduOffice schoolCode (first :: rows))
    (short : Short (first :: rows)) :
    ShowsEveryRow side eduOffice schoolCode day ↔
      ∀ row ∈ rows, ∀ item ∈ fields breakTag row.menu.text, BlankName item := by
  rw [showsEveryRow_iff_behind has short, List.flatMap_eq_nil_iff]
  simp only [shownLines_eq_nil_iff, MealRow.texts, dishTexts_eq_nil_iff]

end Rows

/-! ### A day with two rows -/

def firstMonday : Day := ⟨utf8 "20240603", by decide, by decide⟩

def lunch : MealRow firstMonday where
  json := .object
    [(utf8 "MLSV_YMD", .string (utf8 "20240603")), (utf8 "DDISH_NM", .string (utf8 "밥"))]
  menu := ⟨utf8 "밥", by decide⟩
  isDay := rfl
  isMenu := rfl

def dinner : MealRow firstMonday where
  json := .object
    [(utf8 "MLSV_YMD", .string (utf8 "20240603")), (utf8 "DDISH_NM", .string (utf8 "국"))]
  menu := ⟨utf8 "국", by decide⟩
  isDay := rfl
  isMenu := rfl

/-- A NEIS that answers with the two rows. -/
def twoRows : NeisSide := .calm <| .object
  [(utf8 "mealServiceDietInfo",
    .array [.null, .object [(utf8 "row", .array [lunch.json, dinner.json])]])]

theorem hasRows_twoRows : twoRows.HasRows (utf8 "B10") (utf8 "7010569") [lunch, dinner] where
  ready := rfl
  onDay := ⟨[], rfl, _, rfl, rfl⟩
  inPeriod := ⟨[], rfl, _, rfl, rfl⟩

theorem short_twoRows : Short [lunch, dinner] := ⟨by decide, by decide⟩

theorem showsEveryRow_twoRows :
    ShowsEveryRow twoRows (utf8 "B10") (utf8 "7010569") firstMonday ↔
      ∀ row ∈ [dinner], ∀ item ∈ fields breakTag row.menu.text, BlankName item :=
  showsEveryRow_iff hasRows_twoRows short_twoRows

/-- The query for the day leaves dinner out. -/
theorem not_showsEveryRow_dinner :
    twoRows.HasRows (utf8 "B10") (utf8 "7010569") [lunch, dinner] ∧ Short [lunch, dinner] ∧
      ¬ ShowsEveryRow twoRows (utf8 "B10") (utf8 "7010569") firstMonday := by
  refine ⟨hasRows_twoRows, short_twoRows, fun shows => ?_⟩
  have nothing := (showsEveryRow_iff_behind hasRows_twoRows short_twoRows).mp shows
  exact absurd nothing (by decide)

end SchoolMeals
