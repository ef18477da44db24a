/-
This file asks whether a query for a period that succeeds is answered with every
row. Nothing reports that a text was cut: the loop over the rows fills its array
and goes on, the copy for the caller takes what fits, and the function returns
true. The complete entries stand in the reply exactly when they all fit; and the
reply is UTF-8 when the dates, which are written byte by byte, are not cut inside
a character.
-/

import SchoolMeals.PeriodTexts

namespace SchoolMeals

open CText Interaction

/-! ### Texts in order -/

/-- The texts stand in a text, one behind the other. -/
def HasInOrder : List Bytes → Bytes → Prop
  | [], _ => True
  | entry :: entries, text =>
    ∃ before after, text = before ++ entry ++ after ∧ HasInOrder entries after

theorem HasInOrder.behind {entries : List Bytes} {text : Bytes} (has : HasInOrder entries text)
    (gap : Bytes) : HasInOrder entries (gap ++ text) := by
  cases entries with
  | nil => trivial
  | cons entry entries =>
    obtain ⟨before, after, rfl, later⟩ := has
    exact ⟨gap ++ before, after, by simp only [List.append_assoc], later⟩

/-- What every entry begins with. -/
def entryMark : Bytes := utf8 "📅 "

/-- No entry begins inside of this text, whatever comes behind it. -/
def IsGap (gap : Bytes) : Prop :=
  ∀ rest before after, gap ++ rest = before ++ entryMark ++ after → gap <+: before

/-- A text none of whose ends is the beginning of the mark. -/
theorem isGap_of_tails {gap : Bytes}
    (differ : ∀ tail ∈ gap.tails, tail ≠ [] → tail.take 3 ≠ entryMark.take (min 3 tail.length)) :
    IsGap gap := by
  intro rest before after same
  rw [List.append_assoc, List.append_eq_append_iff] at same
  obtain ⟨middle, isBefore, _⟩ | ⟨middle, isGap, isRest⟩ := same
  · exact ⟨middle, isBefore.symm⟩
  · by_cases empty : middle = []
    · exact ⟨[], by rw [isGap, empty, List.append_nil, List.append_nil]⟩
    · refine absurd ?_ (differ middle ((List.mem_tails _ _).mpr ⟨before, isGap.symm⟩) empty)
      have begins := congrArg (List.take (min 3 middle.length)) isRest
      have mark : entryMark.length = 5 := by decide
      rw [List.take_append_of_le_length (by rw [mark]; omega),
        List.take_append_of_le_length (Nat.min_le_right _ _)] at begins
      rw [begins, List.take_eq_take_min]

theorem isGap_nil : IsGap [] := isGap_of_tails (by decide)

theorem isGap_newline : IsGap (utf8 "\n") := isGap_of_tails (by decide)

theorem isGap_periodTitle : IsGap periodTitle := isGap_of_tails (by decide)

/-- Behind a gap the first entry can be taken where it stands. -/
theorem hasInOrder_cons_iff {gap entry : Bytes} (isGap : IsGap gap) (starts : entryMark <+: entry)
    (entries : List Bytes) (rest : Bytes) :
    HasInOrder (entry :: entries) (gap ++ entry ++ rest) ↔ HasInOrder entries rest := by
  constructor
  · rintro ⟨before, after, same, later⟩
    obtain ⟨more, rfl⟩ := starts
    obtain ⟨between, rfl⟩ := isGap (entryMark ++ more ++ rest) before (more ++ after)
      (by simpa only [List.append_assoc] using same)
    simp only [List.append_assoc, List.append_cancel_left_eq] at same
    have ends : after <:+ rest := by
      have behindEntry : after <:+ entryMark ++ (more ++ rest) := by
        rw [same]
        simp only [← List.append_assoc]
        exact List.suffix_append _ _
      have behindMark : rest <:+ entryMark ++ (more ++ rest) := by
        rw [← List.append_assoc]
        exact List.suffix_append _ _
      refine List.suffix_of_suffix_length_le behindEntry behindMark ?_
      have lengths := congrArg List.length same
      simp only [List.length_append] at lengths
      omega
    obtain ⟨skipped, rfl⟩ := ends
    exact later.behind skipped
  · exact fun later => ⟨gap, rest, rfl, later⟩

/-- There is no room behind the gap for the first entry. -/
theorem not_hasInOrder_of_short {gap entry rest : Bytes} (isGap : IsGap gap)
    (starts : entryMark <+: entry) (short : rest.length < entry.length) (entries : List Bytes) :
    ¬ HasInOrder (entry :: entries) (gap ++ rest) := by
  rintro ⟨before, after, same, _⟩
  obtain ⟨more, rfl⟩ := starts
  obtain ⟨between, rfl⟩ := isGap rest before (more ++ after)
    (by simpa only [List.append_assoc] using same)
  have lengths := congrArg List.length same
  simp only [List.length_append] at lengths short
  omega

theorem length_rowLines_cons (entry : Bytes) (entries : List Bytes) :
    (rowLines (entry :: entries)).length = entry.length + (1 + (rowLines entries).length) := by
  rw [rowLines_cons, List.length_append, List.length_append, length_newline, Nat.add_assoc]

/-- In a text that is cut behind some bytes, all entries are there when at most the last line break
is missing. -/
theorem hasInOrder_take_iff {entries : List Bytes} (starts : ∀ entry ∈ entries, entryMark <+: entry)
    {gap : Bytes} (isGap : IsGap gap) (count : Nat) :
    HasInOrder entries (gap ++ (rowLines entries).take count) ↔
      (rowLines entries).length ≤ count + 1 := by
  induction entries generalizing gap count with
  | nil => exact iff_of_true trivial (Nat.zero_le _)
  | cons entry entries inductionHypothesis =>
    obtain ⟨isStart, starts⟩ := List.forall_mem_cons.mp starts
    rw [length_rowLines_cons, rowLines_cons, List.append_assoc]
    by_cases fits : entry.length ≤ count
    · rw [List.take_append, List.take_of_length_le fits, ← List.append_assoc gap,
        hasInOrder_cons_iff isGap isStart]
      cases left : count - entry.length with
      | zero =>
        rw [List.take_zero]
        cases entries with
        | nil =>
          refine iff_of_true trivial ?_
          show entry.length + (1 + 0) ≤ count + 1
          omega
        | cons second entries =>
          have mark := (List.forall_mem_cons.mp starts).1
          have positive : ([] : Bytes).length < second.length :=
            Nat.lt_of_lt_of_le (by decide) mark.length_le
          refine iff_of_false (not_hasInOrder_of_short isGap_nil mark positive entries) ?_
          rw [length_rowLines_cons]
          omega
      | succ room =>
        have next := inductionHypothesis starts isGap_newline room
        rw [List.take_append, length_newline, Nat.add_sub_cancel,
          List.take_of_length_le (by rw [length_newline]; omega), next]
        omega
    · refine iff_of_false (not_hasInOrder_of_short isGap isStart ?_ entries) (by omega)
      rw [List.length_take]
      omega

/-! ### What the function returns -/

/-- The text in `buffer` behind the loop, on memory that goes on behind it. -/
def bufferAfter : List Bytes → Bytes → Bytes
  | [], buffer => buffer
  | entry :: entries, buffer =>
    bufferAfter entries (strncat buffer entry (roomLeft buffer) ++ utf8 "\n")

/-- What `get_meals_period_from_neis` makes of an answer when the memory behind `buffer` takes what
is written there. -/
def readMealsOnward (libraries : Libraries) : Reading Bytes := fun body =>
  match (libraries.tokenerParse body).objectGetEx (utf8 "mealServiceDietInfo") with
  | some (.array elements) =>
    match (elements.getD 1 .null).objectGetEx (utf8 "row") with
    | some (.array rows) => do
      let entries ← rows.mapM (rowEntry libraries)
      return some (strncpy (bufferAfter entries periodTitle) (maxMealLen - 1) [])
    | _ => some none
  | _ => some none

theorem bufferAfter_prefix (entries : List Bytes) (buffer : Bytes) :
    buffer <+: bufferAfter entries buffer := by
  induction entries generalizing buffer with
  | nil => exact List.prefix_rfl
  | cons entry entries inductionHypothesis =>
    refine List.IsPrefix.trans ?_ (inductionHypothesis _)
    rw [strncat, List.append_assoc]
    exact List.prefix_append _ _

/-- What fits of the text is that of all entries. -/
theorem take_bufferAfter (entries : List Bytes) {buffer : Bytes}
    (inside : buffer.length ≤ maxMealLen - 1) :
    (bufferAfter entries buffer).take (maxMealLen - 1) =
      (buffer ++ rowLines entries).take (maxMealLen - 1) := by
  induction entries generalizing buffer with
  | nil => rw [bufferAfter, rowLines, List.flatMap_nil, List.append_nil]
  | cons entry entries inductionHypothesis =>
    rw [bufferAfter, strncat_inside inside, rowLines_cons]
    by_cases fits : buffer.length + entry.length < maxMealLen - 1
    · have whole : (buffer ++ entry).take (maxMealLen - 1) = buffer ++ entry :=
        List.take_of_length_le (by rw [List.length_append]; omega)
      have ended : (buffer ++ entry ++ utf8 "\n").length ≤ maxMealLen - 1 := by
        simp only [List.length_append, length_newline]
        omega
      rw [whole, inductionHypothesis ended]
      simp only [List.append_assoc]
    · -- the array is full, and nothing that is written later is copied
      have full : ((buffer ++ entry).take (maxMealLen - 1)).length = maxMealLen - 1 := by
        rw [List.length_take, List.length_append]
        omega
      obtain ⟨rest, later⟩ := bufferAfter_prefix entries
        ((buffer ++ entry).take (maxMealLen - 1) ++ utf8 "\n")
      have filled : maxMealLen - 1 ≤ (buffer ++ entry).length := by
        rw [List.length_append]
        omega
      rw [← later, List.append_assoc, List.take_append_of_le_length (Nat.le_of_eq full.symm),
        List.take_of_length_le (Nat.le_of_eq full), List.append_assoc entry, ← List.append_assoc,
        List.take_append_of_le_length filled]

/-- The text that is returned. -/
theorem strncpy_bufferAfter (entries : List Bytes) :
    strncpy (bufferAfter entries periodTitle) (maxMealLen - 1) [] =
      periodTitle ++ (rowLines entries).take 1968 := by
  have rest : maxMealLen - 1 - periodTitle.length = 1968 := by
    rw [length_periodTitle]
    rfl
  rw [strncpy_zeroed, take_bufferAfter entries periodTitle_inside, List.take_append,
    List.take_of_length_le periodTitle_inside, rest]

theorem mapM_rowEntry {libraries : Libraries} {rows : List Json}
    (entries : ∀ item ∈ rows, (rowEntry libraries item).isSome) :
    rows.mapM (rowEntry libraries) = some (rows.filterMap (rowEntry libraries)) := by
  induction rows with
  | nil => rfl
  | cons item rows inductionHypothesis =>
    obtain ⟨isEntry, entries⟩ := List.forall_mem_cons.mp entries
    rw [List.mapM_cons, rowEntry_eq isEntry, inductionHypothesis entries,
      List.filterMap_cons_some (rowEntry_eq isEntry)]
    rfl

/-- Where nothing is written past the array, this is what the function does. -/
theorem readMealsOnward_of_readMeals {libraries : Libraries} {body : Bytes} {result : Option Bytes}
    (read : readMeals libraries body = some result) :
    readMealsOnward libraries body = some result := by
  rw [readMeals] at read
  rw [readMealsOnward]
  generalize (libraries.tokenerParse body).objectGetEx (utf8 "mealServiceDietInfo") = info at read ⊢
  cases info with
  | none => exact read
  | some info =>
    cases info with
    | array elements =>
      simp only at read ⊢
      generalize (elements.getD 1 .null).objectGetEx (utf8 "row") = row at read ⊢
      cases row with
      | none => exact read
      | some row =>
        cases row with
        | array rows =>
          have title : strcat maxMealLen [] (utf8 "\n🍱 기간별 급식 메뉴\n\n") = some periodTitle :=
            strcat_of_fits (by decide)
          simp only [title, Option.bind_eq_bind, Option.bind_some] at read
          obtain ⟨buffer, added, isResult⟩ := Option.bind_eq_some_iff.mp read
          have entries := entries_of_addRows added
          rw [addRows_lines entries periodTitle_inside, strcat_eq_some_iff] at added
          have copied : strncpy (bufferAfter (rows.filterMap (rowEntry libraries)) periodTitle)
              (maxMealLen - 1) [] = strncpy buffer (maxMealLen - 1) [] := by
            rw [← added.2, strncpy_zeroed, strncpy_zeroed, take_bufferAfter _ periodTitle_inside]
          simp only [mapM_rowEntry entries, Option.bind_eq_bind, Option.bind_some, copied]
          exact isResult
        | _ => exact read
    | _ => exact read

/-! ### UTF-8 -/

section Valid

/-- The line breaks are characters of their own. -/
theorem isUtf8_rowLines_iff (entries : List Bytes) :
    IsUtf8 (rowLines entries) ↔ ∀ entry ∈ entries, IsUtf8 entry := by
  induction entries with
  | nil => exact iff_of_true isUtf8_nil fun entry member => absurd member List.not_mem_nil
  | cons entry entries inductionHypothesis =>
    have newline : utf8 "\n" = [10] := by decide
    rw [rowLines_cons, newline, List.append_assoc, List.singleton_append,
      IsUtf8.split_ascii_iff (by decide) (newline ▸ isUtf8_utf8 "\n"), inductionHypothesis,
      List.forall_mem_cons]

/-- A line break that is missing at the end does not matter. -/
theorem isUtf8_take_rowLines_iff {entries : List Bytes} {count : Nat}
    (fits : (rowLines entries).length ≤ count + 1) :
    IsUtf8 ((rowLines entries).take count) ↔ IsUtf8 (rowLines entries) := by
  rcases Nat.lt_or_ge count (rowLines entries).length with cut | whole
  · rcases List.eq_nil_or_concat entries with rfl | ⟨others, entry, rfl⟩
    · exact absurd cut (Nat.not_lt_zero count)
    · have newline : utf8 "\n" = [10] := by decide
      have lines : rowLines (others.concat entry) = rowLines others ++ entry ++ [10] := by
        rw [rowLines, List.concat_eq_append, List.flatMap_append, List.flatMap_singleton, newline,
          List.append_assoc]
        rfl
      have isCount : count = (rowLines others ++ entry).length := by
        rw [lines, List.length_append, List.length_singleton] at fits cut
        omega
      rw [lines, isCount, List.take_left, IsUtf8.split_ascii_iff (by decide)
        (newline ▸ isUtf8_utf8 "\n")]
      exact (and_iff_left isUtf8_nil).symm
  · rw [List.take_of_length_le whole]

theorem isUtf8_dishText {item : Bytes} (valid : IsUtf8 item) : IsUtf8 (dishText item) :=
  ((valid.takeWhile_ne (by decide)).dropWhile_eq (by decide)).rdropWhile_eq (by decide)

/-- The dish lines of a valid menu are valid. -/
theorem isUtf8_dishLines {menu : Bytes} (valid : IsUtf8 menu) :
    IsUtf8 ((dishTexts menu).flatMap dishLine) := by
  refine IsUtf8.flatMap fun text member => ?_
  obtain ⟨item, isItem, rfl⟩ := List.mem_map.mp (List.mem_filter.mp member).1
  have ascii : ∀ byte ∈ breakTag, byte < 128 := forall_mem_of_all (by decide)
  exact ((isUtf8_utf8 _).append (isUtf8_dishText (valid.of_mem_fields ascii _ isItem))).append
    (isUtf8_utf8 _)

/-- The eight bytes between the letters, as far as the date has them. -/
theorem formattedDate_pieces {date : Bytes} (zeroFree : 0 ∉ date) :
    formattedDate date = date.take 4 ++ if 4 ≤ date.length then
      utf8 "년 " ++ ((date.drop 4).take 2 ++ if 6 ≤ date.length then
        utf8 "월 " ++ ((date.drop 6).take 2 ++ if 8 ≤ date.length then utf8 "일" else [])
      else [])
    else [] := by
  have year : utf8 "년 " = [235, 133, 132, 32] := by decide
  have month : utf8 "월 " = [236, 155, 148, 32] := by decide
  have last : utf8 "일" = [236, 157, 188] := by decide
  rw [formattedDate, year, month, last]
  have nonzero : ∀ byte ∈ date, byte ≠ 0 := fun byte member => ne_of_mem_of_not_mem member zeroFree
  clear zeroFree
  match date, nonzero with
  | [], _ => rfl
  | [first], nonzero
  | [first, second], nonzero
  | [first, second, third], nonzero
  | [first, second, third, fourth], nonzero
  | [first, second, third, fourth, fifth], nonzero
  | [first, second, third, fourth, fifth, sixth], nonzero
  | [first, second, third, fourth, fifth, sixth, seventh], nonzero
  | first :: second :: third :: fourth :: fifth :: sixth :: seventh :: eighth :: rest,
      nonzero =>
    simp only [List.forall_mem_cons] at nonzero
    simp [snprintf, cString, nonzero]

/-- The date is not cut inside a character where the letters are put in, nor behind eight bytes. -/
def CutsWhole (date : Bytes) : Prop :=
  IsUtf8 (date.take 4) ∧ IsUtf8 ((date.drop 4).take 2) ∧ IsUtf8 ((date.drop 6).take 2)

theorem isUtf8_formattedDate_iff {date : Bytes} (zeroFree : 0 ∉ date) :
    IsUtf8 (formattedDate date) ↔ CutsWhole date := by
  have year (front behind : Bytes) :
      IsUtf8 (front ++ (utf8 "년 " ++ behind)) ↔ IsUtf8 front ∧ IsUtf8 behind :=
    IsUtf8.around_iff
      (show ∃ middle, utf8 "년 " = 235 :: middle ++ [32] from ⟨[133, 132], by decide⟩)
      (by decide) (by decide) (isUtf8_utf8 _)
  have month (front behind : Bytes) :
      IsUtf8 (front ++ (utf8 "월 " ++ behind)) ↔ IsUtf8 front ∧ IsUtf8 behind :=
    IsUtf8.around_iff
      (show ∃ middle, utf8 "월 " = 236 :: middle ++ [32] from ⟨[155, 148], by decide⟩)
      (by decide) (by decide) (isUtf8_utf8 _)
  have last (front : Bytes) : IsUtf8 (front ++ utf8 "일") ↔ IsUtf8 front := by
    refine ⟨fun whole => ?_, fun valid => valid.append (isUtf8_utf8 _)⟩
    have word : utf8 "일" = [236, 157, 188] := by decide
    rw [word] at whole
    exact (whole.split (by decide)).1
  rw [formattedDate_pieces zeroFree, CutsWhole]
  by_cases hasYear : 4 ≤ date.length
  · rw [if_pos hasYear, year]
    by_cases hasMonth : 6 ≤ date.length
    · rw [if_pos hasMonth, month]
      split
      · rw [last]
      · rw [List.append_nil]
    · have noDay : date.drop 6 = [] := List.drop_eq_nil_of_le (by omega)
      rw [if_neg hasMonth, List.append_nil, noDay]
      exact and_congr_right fun _ => (and_iff_left isUtf8_nil).symm
  · have noMonth : date.drop 4 = [] := List.drop_eq_nil_of_le (by omega)
    have noDay : date.drop 6 = [] := List.drop_eq_nil_of_le (by omega)
    rw [if_neg hasYear, List.append_nil, noMonth, noDay]
    exact (and_iff_left ⟨isUtf8_nil, isUtf8_nil⟩).symm

theorem isUtf8_entryHeading_iff {date : Bytes} (zeroFree : 0 ∉ date) :
    IsUtf8 (entryHeading date) ↔ CutsWhole date := by
  have start : utf8 "📅 " = [240, 159, 147, 133] ++ 32 :: [] := by decide
  have newline : utf8 "\n" = [10] := by decide
  rw [← isUtf8_formattedDate_iff zeroFree, entryHeading, List.append_assoc, newline,
    ← List.append_assoc, IsUtf8.split_ascii_iff (by decide) (newline ▸ isUtf8_utf8 "\n"),
    and_iff_left isUtf8_nil]
  refine ⟨fun valid => ?_, (isUtf8_utf8 _).append⟩
  rw [start, List.append_assoc] at valid
  exact (IsUtf8.split_ascii valid (show (32 : UInt8) < 128 by decide)).2

end Valid

/-! ### What is sent -/

/-- The texts that the row gives are valid. -/
def ValidRow (libraries : Libraries) (item : Json) : Prop :=
  IsUtf8 (memberBytes libraries item (utf8 "MLSV_YMD")) ∧
    IsUtf8 (memberBytes libraries item (utf8 "DDISH_NM"))

theorem zeroFree_memberBytes (libraries : Libraries) (item : Json) (key : Bytes) :
    0 ∉ memberBytes libraries item key := by
  rw [memberBytes]
  cases found : memberText libraries item key with
  | none => exact List.not_mem_nil
  | some text => exact zeroFree_memberText found

/-- The text of a row with a valid menu is valid when its date is not cut inside a character. -/
theorem isUtf8_rowText_iff {libraries : Libraries} {item : Json} (valid : ValidRow libraries item) :
    IsUtf8 (rowText libraries item) ↔
      CutsWhole (memberBytes libraries item (utf8 "MLSV_YMD")) := by
  rw [rowText, ← isUtf8_entryHeading_iff (zeroFree_memberBytes libraries item _)]
  refine ⟨fun whole => ?_, fun heading => heading.append (isUtf8_dishLines valid.2)⟩
  have newline : utf8 "\n" = [10] := by decide
  rw [entryHeading, newline, List.append_assoc, List.singleton_append] at whole
  rw [entryHeading]
  exact (whole.split_ascii (by decide)).1.append (isUtf8_utf8 _)

/-- An entry begins with the mark. -/
theorem mark_rowText (libraries : Libraries) (item : Json) :
    entryMark <+: rowText libraries item := by
  rw [rowText, entryHeading, List.append_assoc, List.append_assoc]
  exact List.prefix_append _ _

/-- The title ends with a line break. -/
theorem isUtf8_periodTitle_append_iff (text : Bytes) :
    IsUtf8 (periodTitle ++ text) ↔ IsUtf8 text := by
  have title : periodTitle = periodTitle.dropLast ++ [10] := by decide
  refine ⟨fun whole => ?_, (isUtf8_utf8 _).append⟩
  rw [title, List.append_assoc, List.singleton_append] at whole
  exact (whole.split_ascii (by decide)).2

/-- The data field of the bytes that `send_response` sends. -/
def sentData (reply : Reply) : Bytes :=
  reply.text.drop
    (utf8 (toString reply.status) ++ cmdDelimiter ++ reply.message ++ cmdDelimiter).length

/-- The entries of all rows are there, in order, and valid rows give a valid text. -/
structure Complete (libraries : Libraries) (rows : List Json) (text : Bytes) : Prop where
  entries : HasInOrder (rows.filterMap (rowEntry libraries)) text
  valid : (∀ item ∈ rows, ValidRow libraries item) → IsUtf8 text

theorem sentData_of_fits {reply : Reply} (nonempty : reply.data ≠ [])
    (fits : (utf8 (toString reply.status) ++ cmdDelimiter ++ reply.message ++ cmdDelimiter ++
      reply.data).length < bufferSize) : sentData reply = reply.data := by
  have whole : reply.text = utf8 (toString reply.status) ++ cmdDelimiter ++ reply.message ++
      cmdDelimiter ++ reply.data := by
    rw [Reply.text, if_pos (List.length_pos_iff.mpr nonempty),
      snprintf_of_fits _ _ (Nat.le_sub_one_of_lt fits)]
  rw [sentData, whole, List.drop_left]

/-- A query for a period for which NEIS has these rows, on memory that goes on behind the array. -/
structure AsksRows (side : NeisSide) (around : Surroundings) (eduOffice schoolName period : Bytes)
    (rows : List Json) : Prop where
  onward : side.readMeals = readMealsOnward side.libraries
  answers : side.Answers around
  ready : side.ready = true
  answered : ∃ startDate endDate codes body elements,
    splitPeriod period = some (startDate, endDate) ∧
    codesUsed around eduOffice schoolName = some codes ∧
    daysBetween side.clock startDate endDate ≤ 7 ∧
    side.body (mealsPeriodUrl codes.eduCode codes.schoolCode startDate endDate) = some body ∧
    (side.libraries.tokenerParse body).objectGetEx (utf8 "mealServiceDietInfo") =
      some (.array elements) ∧
    (elements.getD 1 .null).objectGetEx (utf8 "row") = some (.array rows)

/-- The server answers the query with a success, whose data are complete as the function returns
them and as they are sent. -/
def AnswersEveryRow (side : NeisSide) (around : Surroundings) (store : Store)
    (eduOffice schoolName period : Bytes) (rows : List Json) : Prop :=
  ∃ meals,
    outcomeOf around store (getMultiMeal (some eduOffice) (some schoolName) (some period)) =
      ⟨store, [success mealsFound meals]⟩ ∧
    Complete side.libraries rows meals ∧
    Complete side.libraries rows (sentData (success mealsFound meals))

section Answers

variable {side : NeisSide} {around : Surroundings} {store : Store}
  {eduOffice schoolName period : Bytes} {rows : List Json}
  (entries : ∀ item ∈ rows, (rowEntry side.libraries item).isSome)
  (asks : AsksRows side around eduOffice schoolName period rows)

/-- The text that is returned for some rows. -/
def returnedText (libraries : Libraries) (rows : List Json) : Bytes :=
  periodTitle ++ (rowLines (rows.filterMap (rowEntry libraries))).take 1968

include entries

include asks in
theorem outcomeOf_asksRows :
    outcomeOf around store (getMultiMeal (some eduOffice) (some schoolName) (some period)) =
      ⟨store, [success mealsFound (returnedText side.libraries rows)]⟩ := by
  obtain ⟨startDate, endDate, codes, body, elements, dates, used, short, found, isArray, isRow⟩ :=
    asks.answered
  have read : side.readMeals body = some (some (returnedText side.libraries rows)) := by
    simp only [asks.onward, readMealsOnward, isArray, isRow, mapM_rowEntry entries,
      Option.bind_eq_bind, Option.bind_some, strncpy_bufferAfter]
    rfl
  have request := side.result_request side.readMeals
    (mealsPeriodUrl codes.eduCode codes.schoolCode startDate endDate)
  rw [asks.ready, if_pos rfl, found, Option.elim_some, read] at request
  have result : side.result (side.getMealsPeriodFromNeis codes.eduCode codes.schoolCode startDate
      endDate) = some (some (returnedText side.libraries rows)) := by
    rw [NeisSide.getMealsPeriodFromNeis, Neis.getMealsPeriodFromNeis,
      if_neg (Int.not_lt.mpr short)]
    exact request
  rw [outcomeOf_getMultiMeal, multiMealOutcome, dates, used]
  simp only [asks.answers.meals _ _ _ _ _ result]

omit entries in
/-- Everything that is returned is sent. -/
theorem sentData_returnedText (libraries : Libraries) :
    sentData (success mealsFound (returnedText libraries rows)) = returnedText libraries rows := by
  have bound : (returnedText libraries rows).length ≤ 1999 := by
    rw [returnedText, List.length_append, length_periodTitle]
    exact Nat.add_le_add_left (List.length_take_le 1968 _) 31
  have header : (utf8 (toString respSuccess) ++ cmdDelimiter ++ mealsFound ++
      cmdDelimiter).length ≤ 100 := by decide
  refine sentData_of_fits (fun empty => ?_) ?_
  · have lengths := congrArg List.length empty
    rw [success, returnedText, List.length_append, length_periodTitle, List.length_nil] at lengths
    omega
  · show (utf8 (toString respSuccess) ++ cmdDelimiter ++ mealsFound ++ cmdDelimiter ++
      returnedText libraries rows).length < 4096
    rw [List.length_append]
    omega

theorem complete_returnedText_iff :
    Complete side.libraries rows (returnedText side.libraries rows) ↔
      periodLength side.libraries rows ≤ maxMealLen ∧
        ((∀ item ∈ rows, ValidRow side.libraries item) → ∀ item ∈ rows,
          CutsWhole (memberBytes side.libraries item (utf8 "MLSV_YMD"))) := by
  have limit : maxMealLen = 2000 := rfl
  have total := length_rowLines entries
  have inOrder : HasInOrder (rows.filterMap (rowEntry side.libraries))
      (returnedText side.libraries rows) ↔ periodLength side.libraries rows ≤ maxMealLen := by
    refine (hasInOrder_take_iff (fun entry member => ?_) isGap_periodTitle 1968).trans ?_
    · rw [filterMap_rowEntry entries] at member
      obtain ⟨item, _, rfl⟩ := List.mem_map.mp member
      exact mark_rowText side.libraries item
    · rw [length_periodTitle] at total
      omega
  have isValid (fits : periodLength side.libraries rows ≤ maxMealLen)
      (valid : ∀ item ∈ rows, ValidRow side.libraries item) :
      IsUtf8 (returnedText side.libraries rows) ↔ ∀ item ∈ rows,
        CutsWhole (memberBytes side.libraries item (utf8 "MLSV_YMD")) := by
    rw [length_periodTitle] at total
    rw [returnedText, isUtf8_periodTitle_append_iff, isUtf8_take_rowLines_iff (by omega),
      isUtf8_rowLines_iff, filterMap_rowEntry entries, List.forall_mem_map]
    exact forall₂_congr fun item member => isUtf8_rowText_iff (valid item member)
  constructor
  · intro complete
    have fits := inOrder.mp complete.entries
    exact ⟨fits, fun valid => (isValid fits valid).mp (complete.valid valid)⟩
  · rintro ⟨fits, cuts⟩
    exact ⟨inOrder.mpr fits, fun valid => (isValid fits valid).mpr (cuts valid)⟩

include asks in
/-- What is sent is complete when what is returned is. -/
theorem answersEveryRow_iff_complete :
    AnswersEveryRow side around store eduOffice schoolName period rows ↔
      Complete side.libraries rows (returnedText side.libraries rows) := by
  constructor
  · rintro ⟨meals, outcome, complete, _⟩
    rw [outcomeOf_asksRows entries asks] at outcome
    have same := congrArg (fun outcome : Outcome => outcome.replies.map Reply.data) outcome
    rw [show returnedText side.libraries rows = meals from List.singleton_injective same]
    exact complete
  · intro complete
    exact ⟨_, outcomeOf_asksRows entries asks, complete, by rwa [sentData_returnedText]⟩

include asks in
/-- Every row is in the reply exactly when all of them fit, and valid rows give a valid reply when
their dates are not cut inside a character. -/
theorem answersEveryRow_iff :
    AnswersEveryRow side around store eduOffice schoolName period rows ↔
      periodLength side.libraries rows ≤ maxMealLen ∧
        ((∀ item ∈ rows, ValidRow side.libraries item) → ∀ item ∈ rows,
          CutsWhole (memberBytes side.libraries item (utf8 "MLSV_YMD"))) := by
  rw [answersEveryRow_iff_complete entries asks, complete_returnedText_iff entries]

end Answers

/-! ### Four days -/

/-- A NEIS that answers with some rows. -/
def rowsSide (rows : List Json) : NeisSide :=
  let document := .object
    [(utf8 "mealServiceDietInfo", .array [.null, .object [(utf8 "row", .array rows)]])]
  { NeisSide.calm document with readMeals := readMealsOnward (NeisSide.calm document).libraries }

theorem asksRows_rowsSide (rows : List Json) :
    AsksRows (rowsSide rows) (rowsSide rows).surroundings (utf8 "B10") (utf8 "7010569")
      (utf8 "20240603-20240607") rows where
  onward := rfl
  answers := NeisSide.answers_surroundings _
  ready := rfl
  answered := by
    refine ⟨utf8 "20240603", utf8 "20240607", ⟨utf8 "B10", utf8 "7010569"⟩, [], _, by decide,
      ?_, ?_, rfl, rfl, rfl⟩
    · exact if_pos (by decide)
    · show daysBetween ⟨0, fun seconds => 0 ≤ seconds⟩ _ _ ≤ 7
      decide

theorem answersEveryRow_fullRows :
    AnswersEveryRow (rowsSide fullRows) (rowsSide fullRows).surroundings initDb (utf8 "B10")
        (utf8 "7010569") (utf8 "20240603-20240607") fullRows ↔
      periodLength (rowsSide fullRows).libraries fullRows ≤ maxMealLen ∧
        ((∀ item ∈ fullRows, ValidRow (rowsSide fullRows).libraries item) → ∀ item ∈ fullRows,
          CutsWhole (memberBytes (rowsSide fullRows).libraries item (utf8 "MLSV_YMD"))) :=
  answersEveryRow_iff (entries_fullRows _) (asksRows_rowsSide fullRows)

/-- The dishes of the fourth day are cut, and the query succeeds. -/
theorem not_answersEveryRow_full :
    (∀ item ∈ fullRows, (rowEntry (rowsSide fullRows).libraries item).isSome) ∧
      outcomeOf (rowsSide fullRows).surroundings initDb (getMultiMeal (some (utf8 "B10"))
          (some (utf8 "7010569")) (some (utf8 "20240603-20240607"))) =
        ⟨initDb, [success mealsFound (returnedText (rowsSide fullRows).libraries fullRows)]⟩ ∧
      ¬ AnswersEveryRow (rowsSide fullRows) (rowsSide fullRows).surroundings initDb (utf8 "B10")
        (utf8 "7010569") (utf8 "20240603-20240607") fullRows := by
  refine ⟨entries_fullRows _, outcomeOf_asksRows (entries_fullRows _)
    (asksRows_rowsSide fullRows), fun every => ?_⟩
  have complete := (answersEveryRow_iff_complete (entries_fullRows _)
    (asksRows_rowsSide fullRows)).mp every
  have fits := ((complete_returnedText_iff (entries_fullRows _)).mp complete).1
  rw [periodLength_fullRows] at fits
  exact absurd fits (by decide)

end SchoolMeals
