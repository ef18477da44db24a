/-
This file follows the array `buffer` of `get_meals_period_from_neis` through the
loop over the rows. Every row appends its entry with a `strncat` that stops where
the array ends, and then a line break with a `strcat` that does not. The loop is
run here on memory that goes on behind the array, so that it can be said what the
statements do once a text no longer fits: from then on the room that the first
call computes wraps, and the copy at the end cuts the text.
-/

import SchoolMeals.Library.Utf8
import SchoolMeals.MealTexts

namespace SchoolMeals

open CText Interaction

/-! ### The text in the array -/

/-- What `buffer` holds after each statement of each pass, on memory that goes on behind it. -/
def bufferTexts : List Bytes → Bytes → List Bytes
  | [], _ => []
  | entry :: entries, buffer =>
    let filled := strncat buffer entry (roomLeft buffer)
    let ended := filled ++ utf8 "\n"
    filled :: ended :: bufferTexts entries ended

/-- The title of the text for a period. -/
def periodTitle : Bytes := utf8 "\n🍱 기간별 급식 메뉴\n\n"

theorem length_periodTitle : periodTitle.length = 31 := by decide

theorem periodTitle_inside : periodTitle.length ≤ maxMealLen - 1 := by
  rw [length_periodTitle]
  decide

/-- After each statement of each pass the text in `buffer` ends inside of it. -/
def StaysInside (libraries : Libraries) (rows : List Json) : Prop :=
  ∀ text ∈ bufferTexts (rows.filterMap (rowEntry libraries)) periodTitle,
    text.length ≤ maxMealLen - 1

/-- The loop stays inside when all entries and their line breaks fit. -/
theorem bufferTexts_inside_iff (entries : List Bytes) {buffer : Bytes}
    (inside : buffer.length ≤ maxMealLen - 1) :
    (∀ text ∈ bufferTexts entries buffer, text.length ≤ maxMealLen - 1) ↔
      buffer.length + (rowLines entries).length ≤ maxMealLen - 1 := by
  induction entries generalizing buffer with
  | nil => simpa [bufferTexts, rowLines] using inside
  | cons entry entries inductionHypothesis =>
    have limit : maxMealLen - 1 = 1999 := rfl
    have filled := @strncat_inside buffer entry inside
    have filledLength : (strncat buffer entry (roomLeft buffer)).length ≤ maxMealLen - 1 := by
      rw [filled]
      exact List.length_take_le _ _
    rw [bufferTexts, List.forall_mem_cons, List.forall_mem_cons, rowLines_cons]
    simp only [filledLength, true_and]
    by_cases fits : buffer.length + entry.length + 1 ≤ maxMealLen - 1
    · have whole : strncat buffer entry (roomLeft buffer) = buffer ++ entry := by
        rw [filled, List.take_of_length_le (by rw [List.length_append]; omega)]
      have ended : (buffer ++ entry ++ utf8 "\n").length ≤ maxMealLen - 1 := by
        simpa only [List.length_append, length_newline] using fits
      rw [whole, inductionHypothesis ended]
      simp only [List.length_append, length_newline, limit] at fits ⊢
      omega
    · -- the entry leaves no byte for its line break
      have full : (strncat buffer entry (roomLeft buffer)).length = maxMealLen - 1 := by
        rw [filled, List.length_take, List.length_append]
        omega
      refine iff_of_false (fun all => ?_) ?_
      · have ended := all.1
        rw [List.length_append, full, length_newline] at ended
        omega
      · simp only [List.length_append, length_newline]
        omega

/-- The bytes a row takes: its heading, its dish lines and the empty line. -/
def rowLength (libraries : Libraries) (item : Json) : Nat :=
  (entryHeading (memberBytes libraries item (utf8 "MLSV_YMD"))).length +
    linesLength (dishTexts (memberBytes libraries item (utf8 "DDISH_NM"))) + 1

/-- The bytes of the title and all rows. -/
def periodLength (libraries : Libraries) (rows : List Json) : Nat :=
  31 + (rows.map (rowLength libraries)).sum

section Rows

variable {libraries : Libraries} {rows : List Json}
  (entries : ∀ item ∈ rows, (rowEntry libraries item).isSome)

include entries

theorem length_rowLines :
    periodTitle.length + (rowLines (rows.filterMap (rowEntry libraries))).length =
      periodLength libraries rows := by
  rw [filterMap_rowEntry entries, length_periodTitle, periodLength, rowLines,
    List.flatMap_map, List.length_flatMap]
  refine congrArg (31 + List.sum ·) (List.map_congr_left fun item _ => ?_)
  rw [rowLength, rowText, List.length_append, List.length_append, length_flatMap_dishLine,
    length_newline]

/-- The text stays inside `buffer` exactly when the title and the rows, with a byte for each empty
line, take fewer bytes than it has. -/
theorem staysInside_iff :
    StaysInside libraries rows ↔ periodLength libraries rows < maxMealLen := by
  rw [StaysInside, bufferTexts_inside_iff _ periodTitle_inside, length_rowLines entries]
  exact Nat.le_sub_one_iff_lt (by decide)

end Rows

/-! ### Rows with a date and a menu -/

section MealRows

variable {day : Day} (libraries : Libraries) (row : MealRow day)

theorem MealRow.rowLength_eq : rowLength libraries row.json = 26 + linesLength row.texts := by
  rw [rowLength, memberBytes, memberBytes, row.dateText, row.menuText, Option.getD_some,
    Option.getD_some, day.length_entryHeading, MealRow.texts]
  omega

end MealRows

/-- Libraries that only hand out the strings of a document. -/
def noLibraries : Libraries := ⟨fun text => text, fun _ => .null, fun _ => []⟩

/-- A menu of 34 dishes with names of three letters. -/
def fullMenu : Menu :=
  menuOf (List.replicate 34 ⟨utf8 "보리밥", by decide, avoids_of_all (by decide), by decide⟩)

theorem linesLength_fullMenu : linesLength (dishTexts fullMenu.text) = 476 := by
  have name : dishText (utf8 "보리밥") = utf8 "보리밥" := by decide
  have nonempty : utf8 "보리밥" ≠ [] := by decide
  have length : (utf8 "보리밥").length = 9 := by decide
  rw [fullMenu, dishTexts_menuOf]
  simp [linesLength, name, nonempty, length]

/-- The row of a day with that menu. -/
def fullRow (day : Day) : MealRow day where
  json := .object
    [(utf8 "MLSV_YMD", .string day.text), (utf8 "DDISH_NM", .string fullMenu.text)]
  menu := fullMenu
  isDay := rfl
  isMenu := rfl

/-- Such a row on each of four days. -/
def fullRows : List Json :=
  [(fullRow firstMonday).json,
    (fullRow ⟨utf8 "20240604", by decide, by decide⟩).json,
    (fullRow ⟨utf8 "20240605", by decide, by decide⟩).json,
    (fullRow ⟨utf8 "20240607", by decide, by decide⟩).json]

theorem fullRow_short (day : Day) : (entryText (fullRow day)).length < 512 := by
  rw [length_entryText]
  show 25 + linesLength (dishTexts fullMenu.text) < 512
  rw [linesLength_fullMenu]
  decide

/-- Every row of the four fits its entry. -/
theorem entries_fullRows (libraries : Libraries) :
    ∀ item ∈ fullRows, (rowEntry libraries item).isSome := by
  have each (day : Day) : (rowEntry libraries (fullRow day).json).isSome := by
    rw [MealRow.rowEntry_eq libraries _ (fullRow_short day)]
    rfl
  simp only [fullRows, List.forall_mem_cons, each, true_and]
  exact fun item member => absurd member List.not_mem_nil

theorem periodLength_fullRows (libraries : Libraries) :
    periodLength libraries fullRows = 2039 := by
  have each (day : Day) : rowLength libraries (fullRow day).json = 502 := by
    rw [MealRow.rowLength_eq]
    show 26 + linesLength (dishTexts fullMenu.text) = 502
    rw [linesLength_fullMenu]
  simp only [periodLength, fullRows, List.map_cons, List.map_nil, each]
  rfl

/-- The empty line of the fourth row is written past the array. -/
theorem not_staysInside_full :
    (∀ item ∈ fullRows, (rowEntry noLibraries item).isSome) ∧
      ¬ StaysInside noLibraries fullRows := by
  refine ⟨entries_fullRows _, ?_⟩
  rw [StaysInside, bufferTexts_inside_iff _ periodTitle_inside,
    length_rowLines (entries_fullRows _), periodLength_fullRows]
  decide

theorem staysInside_fullRows :
    StaysInside noLibraries fullRows ↔ periodLength noLibraries fullRows < maxMealLen :=
  staysInside_iff (entries_fullRows noLibraries)

end SchoolMeals
