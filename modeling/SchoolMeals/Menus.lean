/-
This file models how `neis_api.c` turns menus into text. Both functions copy the
menu, cut the copy into items with `strtok`, and work on each item in place: the
first parenthesis and the spaces at the end are overwritten with terminators
while `strtok` keeps its own address. What is appended goes through `strcat`,
which does not know how large its array is. The main result is that either loop
appends the dish texts of the menu, one line for each, as long as they fit.
-/

import Mathlib.Algebra.GroupWithZero.Nat
import Mathlib.Data.List.DropRight
import SchoolMeals.Library.Buffer
import SchoolMeals.Neis

namespace SchoolMeals

open CText Interaction

/-! ### Dates -/

/-- `"%c%c%c%c년 %c%c월 %c%c일"` of the eight bytes at an address, read back as a string. -/
def formattedDate (date : Bytes) : Bytes :=
  let byte (index : Nat) : UInt8 := date.getD index 0
  cString <| snprintf 20 <|
    [byte 0, byte 1, byte 2, byte 3] ++ utf8 "년 " ++ [byte 4, byte 5] ++ utf8 "월 " ++
      [byte 6, byte 7] ++ utf8 "일"

/-! ### One item -/

/-- The tag as the second argument of `strtok`. -/
def breakTag : Bytes := utf8 "<br/>"

/-- `char *paren = strchr(item, '('); if (paren) *paren = '\0';` -/
def cutParenthesis (temp : Bytes) (item : Nat) : Bytes :=
  match strchr temp item 40 with
  | none => temp
  | some paren => temp.set paren 0

/-- `while (*item == ' ') item++;` -/
def skipSpaces (temp : Bytes) (item : Nat) : Nat :=
  item + ((temp.drop item).takeWhile (· = 32)).length

/-- `while (end > item && *end == ' ') *end-- = '\0';` for an `end` that may lie one byte before
the item when the item is empty. -/
def trimEnd (temp : Bytes) (item : Nat) : Nat → Bytes
  | 0 => temp
  | end_ + 1 =>
    if end_ + 1 > item ∧ temp.getD (end_ + 1) 0 = 32 then
      trimEnd (temp.set (end_ + 1) 0) item end_
    else temp

/-- The line of a text, in three `strcat` calls. -/
def addLine (size : Nat) (text result : Bytes) : Option Bytes := do
  let result ← strcat size result (utf8 "• ")
  let result ← strcat size result text
  strcat size result (utf8 "\n")

/-- `if (strlen(item) > 0)` its line is added. -/
def addText (size : Nat) (temp : Bytes) (item : Nat) (result : Bytes) : Option Bytes :=
  if strlen temp item > 0 then addLine size (stringAt temp item) result else some result

/-! ### The two loops -/

/-- The loop of `get_meal_from_neis`, with a bound on its passes. -/
def addDishes (size : Nat) : Nat → Bytes → Option Nat → Nat → Bytes → Option Bytes
  | _, _, none, _, result => some result
  | 0, _, some _, _, _ => none
  | passes + 1, temp, some item, saved, result => do
    let temp := cutParenthesis temp item
    let item := skipSpaces temp item
    let temp := trimEnd temp item (item + strlen temp item - 1)
    let result ← addText size temp item result
    let (item, temp, saved) := strtokAt breakTag temp saved
    addDishes size passes temp item saved result

/-- The loop of `get_meals_period_from_neis` over the items of one row, with a bound on its
passes. -/
def addItems (size : Nat) : Nat → Bytes → Option Nat → Nat → Bytes → Option Bytes
  | _, _, none, _, entry => some entry
  | 0, _, some _, _, _ => none
  | passes + 1, temp, some itemStr, saved, entry => do
    let temp := cutParenthesis temp itemStr
    let itemStr := skipSpaces temp itemStr
    let temp := trimEnd temp itemStr (itemStr + strlen temp itemStr - 1)
    let entry ← addText size temp itemStr entry
    let (itemStr, temp, saved) := strtokAt breakTag temp saved
    addItems size passes temp itemStr saved entry

/-- The text `get_meal_from_neis` builds in `result`. -/
def formatMeal (size : Nat) (menu date : Bytes) : Option Bytes := do
  let temp := menu ++ [0]
  let result ← strcat size [] (utf8 "\n🍱 오늘의 급식 메뉴\n\n")
  let result ← strcat size result (utf8 "📅 ")
  let result ← strcat size result (formattedDate date)
  let result ← strcat size result (utf8 "\n\n")
  let (item, temp, saved) := strtokAt breakTag temp 0
  addDishes size menu.length temp item saved result

/-- The text `get_meals_period_from_neis` builds in `entry` for one row. -/
def formatEntry (size : Nat) (menu date : Bytes) : Option Bytes :=
  let temp := menu ++ [0]
  let (itemStr, temp, saved) := strtokAt breakTag temp 0
  let entry := snprintf size (utf8 "📅 " ++ formattedDate date ++ utf8 "\n")
  addItems size menu.length temp itemStr saved entry

/-! ### The answers of NEIS -/

/-- What `get_meal_from_neis` makes of an answer. The date is read where its pointer points. -/
def readMeal (libraries : Libraries) (date : Bytes) : Reading Bytes := fun body =>
  match (libraries.tokenerParse body).objectGetEx (utf8 "mealServiceDietInfo") with
  | some (.array elements) =>
    match (elements.getD 1 .null).objectGetEx (utf8 "row") with
    | some (.array rows) =>
      match (rows.getD 0 .null).objectGetEx (utf8 "DDISH_NM") with
      | some menu => do
        let menu ← menu.getString libraries
        let result ← formatMeal maxMealLen menu date
        return some (strncpy result (maxMealLen - 1) [])
      | none => some none
    | _ => some none
  | _ => some none

/-- `json_object_get_string` of a member, the empty literal when the row does not have it. A null
member gives the null pointer, and reading through it is undefined. -/
def memberText (libraries : Libraries) (item : Json) (key : Bytes) : Option Bytes :=
  match item.objectGetEx key with
  | none => some []
  | some value => value.getString libraries

/-- The loop of `get_meals_period_from_neis` over the rows. -/
def addRows (libraries : Libraries) : List Json → Bytes → Option Bytes
  | [], buffer => some buffer
  | item :: rows, buffer => do
    let date ← memberText libraries item (utf8 "MLSV_YMD")
    let menu ← memberText libraries item (utf8 "DDISH_NM")
    let entry ← formatEntry 512 menu date
    let buffer := strncat buffer entry (maxMealLen - buffer.length - 1)
    let buffer ← strcat maxMealLen buffer (utf8 "\n")
    addRows libraries rows buffer

/-- What `get_meals_period_from_neis` makes of an answer. -/
def readMeals (libraries : Libraries) : Reading Bytes := fun body =>
  match (libraries.tokenerParse body).objectGetEx (utf8 "mealServiceDietInfo") with
  | some (.array elements) =>
    match (elements.getD 1 .null).objectGetEx (utf8 "row") with
    | some (.array rows) => do
      let buffer ← strcat maxMealLen [] (utf8 "\n🍱 기간별 급식 메뉴\n\n")
      let buffer ← addRows libraries rows buffer
      return some (strncpy buffer (maxMealLen - 1) [])
    | _ => some none
  | _ => some none

/-- The surroundings with the formatters of the source. -/
def NeisSide.formatting (side : NeisSide) : NeisSide :=
  { side with
    readMeal := SchoolMeals.readMeal side.libraries
    readMeals := SchoolMeals.readMeals side.libraries }

/-! ### What one pass does -/

/-- The text of an item: what stands before its first parenthesis, without the spaces around. -/
def dishText (item : Bytes) : Bytes :=
  ((item.takeWhile (· ≠ 40)).dropWhile (· = 32)).rdropWhile (· = 32)

theorem getD_append_length (front rest : Bytes) (byte : UInt8) :
    (front ++ byte :: rest).getD front.length 0 = byte := by simp

theorem set_append_length (front rest : Bytes) (byte : UInt8) :
    (front ++ byte :: rest).set front.length 0 = front ++ 0 :: rest := by
  rw [List.set_append_right _ _ (Nat.le_refl _), Nat.sub_self, List.set_cons_zero]

theorem trimEnd_of_le (temp : Bytes) {item end_ : Nat} (outside : end_ ≤ item) :
    trimEnd temp item end_ = temp := by
  cases end_ with
  | zero => rfl
  | succ end_ => exact if_neg fun inside => Nat.not_lt.mpr outside inside.1

/-- The spaces behind the text become terminators. -/
theorem trimEnd_spaces (front solid rest : Bytes) (count : Nat)
    (solidEnd : solid.getLast? ≠ some 32) (blank : solid = [] → count = 0) :
    trimEnd (front ++ solid ++ (List.replicate count 32 ++ rest)) front.length
        (front.length + solid.length + count - 1) =
      front ++ solid ++ (List.replicate count 0 ++ rest) := by
  induction count generalizing rest with
  | zero =>
    rcases List.eq_nil_or_concat solid with rfl | ⟨body, last, rfl⟩
    · exact trimEnd_of_le _ (Nat.sub_le _ _)
    · have position : front.length + (body.concat last).length + 0 - 1 =
          (front ++ body).length := by simp
      have split : front ++ body.concat last ++ (List.replicate 0 32 ++ rest) =
          (front ++ body) ++ last :: rest := by simp
      rw [position, split]
      have visible : last ≠ 32 := by simpa using solidEnd
      cases found : (front ++ body).length with
      | zero => simp [trimEnd, List.concat_eq_append]
      | succ before =>
        rw [trimEnd, ← found, getD_append_length, if_neg fun test => visible test.2]
        simp
  | succ count inductionHypothesis =>
    have nonempty : solid ≠ [] := fun empty => Nat.succ_ne_zero count (blank empty)
    have positive := List.length_pos_iff.mpr nonempty
    have split : front ++ solid ++ (List.replicate (count + 1) 32 ++ rest) =
        (front ++ solid ++ List.replicate count 32) ++ 32 :: rest := by
      simp [List.replicate_succ']
    have position : front.length + solid.length + (count + 1) - 1 =
        (front ++ solid ++ List.replicate count 32).length := by
      simp
      omega
    have before : (front ++ solid ++ List.replicate count 32).length =
        front.length + solid.length + count - 1 + 1 := by
      simp
      omega
    have again := inductionHypothesis (0 :: rest) fun empty => absurd empty nonempty
    rw [split, position, before, trimEnd, ← before, getD_append_length, set_append_length,
      if_pos ⟨by rw [before]; omega, rfl⟩]
    simpa [List.replicate_succ'] using again

/-- A terminator stands where the text ends. -/
theorem stringAt_stop {front text rest : Bytes} (zeroFree : 0 ∉ text)
    (stop : rest.head? = some 0) : stringAt (front ++ text ++ rest) front.length = text := by
  obtain ⟨tail, rfl⟩ := List.head?_eq_some_iff.mp stop
  exact StringAt.eq ⟨front, tail, rfl, rfl, zeroFree⟩

/-- The parenthesis becomes a terminator. -/
theorem cutParenthesis_eq (front : Bytes) {token : Bytes} (zeroFree : 0 ∉ token) (tail : Bytes) :
    ∃ waste : Bytes, (token.takeWhile (· ≠ 40)).length + waste.length = token.length ∧
      (waste ++ 0 :: tail).head? = some 0 ∧
      cutParenthesis (front ++ token ++ 0 :: tail) front.length =
        front ++ token.takeWhile (· ≠ 40) ++ (waste ++ 0 :: tail) := by
  have read : stringAt (front ++ token ++ 0 :: tail) front.length = token :=
    stringAt_stop zeroFree rfl
  unfold cutParenthesis strchr
  simp only [read]
  by_cases member : 40 ∈ token
  · obtain ⟨rest, split⟩ := cut_at_byte member
    rw [if_pos member]
    generalize token.takeWhile (· ≠ 40) = name at split ⊢
    subst split
    refine ⟨0 :: rest, by simp, rfl, ?_⟩
    have text : front ++ (name ++ 40 :: rest) ++ 0 :: tail =
        (front ++ name) ++ 40 :: (rest ++ 0 :: tail) := by simp
    rw [text, ← List.length_append]
    exact set_append_length (front ++ name) (rest ++ 0 :: tail) 40
  · have plain : token.takeWhile (· ≠ 40) = token := by
      rw [List.takeWhile_eq_self_iff]
      intro byte inside
      simpa using ne_of_mem_of_not_mem inside member
    rw [plain, if_neg member]
    exact ⟨[], rfl, rfl, rfl⟩

/-- The pointer moves over the spaces in front. -/
theorem skipSpaces_eq (front name : Bytes) {rest : Bytes} (stop : rest.head? = some 0) :
    skipSpaces (front ++ name ++ rest) front.length =
      (front ++ name.takeWhile (· = 32)).length := by
  obtain ⟨tail, rfl⟩ := List.head?_eq_some_iff.mp stop
  have spaces : (name ++ 0 :: tail).takeWhile (· = 32) = name.takeWhile (· = 32) := by
    induction name with
    | nil => simp
    | cons byte name inductionHypothesis =>
      by_cases space : byte = 32
      · simpa [space] using inductionHypothesis
      · simp [space]
  rw [skipSpaces, List.append_assoc, List.drop_left, spaces, List.length_append]

/-- What stands before the parenthesis is the dish text with spaces around. -/
theorem dishText_split (item : Bytes) :
    ∃ spaces count, item.takeWhile (· ≠ 40) = spaces ++ (dishText item ++ List.replicate count 32) ∧
      spaces = (item.takeWhile (· ≠ 40)).takeWhile (· = 32) ∧ (dishText item = [] → count = 0) := by
  let core := (item.takeWhile (· ≠ 40)).dropWhile (· = 32)
  have spaces : core.rtakeWhile (· = 32) =
      List.replicate (core.rtakeWhile (· = 32)).length 32 := by
    rw [List.eq_replicate_iff]
    exact ⟨rfl, fun byte member => by simpa using List.mem_rtakeWhile_imp member⟩
  have whole : dishText item ++ List.replicate (core.rtakeWhile (· = 32)).length 32 = core := by
    rw [← spaces]
    exact List.rdropWhile_append_rtakeWhile
  refine ⟨_, (core.rtakeWhile (· = 32)).length, ?_, rfl, fun empty => ?_⟩
  · rw [whole, List.takeWhile_append_dropWhile]
  · rw [empty, List.nil_append] at whole
    cases count : (core.rtakeWhile (· = 32)).length with
    | zero => rfl
    | succ count =>
      have stopped := List.head?_dropWhile_not (· = 32) (item.takeWhile (· ≠ 40))
      rw [show (item.takeWhile (· ≠ 40)).dropWhile (· = 32) = core from rfl, ← whole, count]
        at stopped
      cases stopped

theorem zeroFree_dishText {item : Bytes} (zeroFree : 0 ∉ item) : 0 ∉ dishText item :=
  fun member => zeroFree <| List.takeWhile_subset _ <| (List.dropWhile_suffix _).subset <|
    (List.rdropWhile_prefix _ _).subset member

theorem getLast?_dishText (item : Bytes) : (dishText item).getLast? ≠ some 32 := by
  intro last
  have nonempty : dishText item ≠ [] := fun empty => by
    rw [empty] at last
    cases last
  have solid : ¬ decide ((dishText item).getLast nonempty = 32) = true :=
    List.rdropWhile_last_not (fun byte => decide (byte = 32)) _ nonempty
  rw [List.getLast?_eq_some_getLast nonempty, Option.some.injEq] at last
  exact solid (decide_eq_true last)

/-- From a text with spaces behind it, the text is left. -/
theorem trimEnd_string (front : Bytes) {solid behind : Bytes} {count : Nat} (zeroFree : 0 ∉ solid)
    (stop : behind.head? = some 0) (solidEnd : solid.getLast? ≠ some 32)
    (blank : solid = [] → count = 0) :
    let temp := front ++ (solid ++ List.replicate count 32) ++ behind
    trimEnd temp front.length (front.length + strlen temp front.length - 1) =
        front ++ solid ++ (List.replicate count 0 ++ behind) ∧
      stringAt (front ++ solid ++ (List.replicate count 0 ++ behind)) front.length = solid := by
  intro temp
  have textFree : 0 ∉ solid ++ List.replicate count 32 := by
    rw [List.mem_append, List.mem_replicate]
    exact fun member => member.elim zeroFree fun space => absurd space.2 (by decide)
  have length : strlen temp front.length = solid.length + count := by
    rw [strlen, stringAt_stop textFree stop, List.length_append, List.length_replicate]
  constructor
  · rw [length, ← Nat.add_assoc, ← trimEnd_spaces front solid behind count solidEnd blank]
    simp only [temp, List.append_assoc]
  · refine stringAt_stop zeroFree ?_
    cases count with
    | zero => exact stop
    | succ count => rfl

/-- One pass leaves the dish text where the pointer stands, and writes into the item only. -/
theorem pass_eq (front : Bytes) {token : Bytes} (zeroFree : 0 ∉ token) (tail : Bytes) :
    let temp := cutParenthesis (front ++ token ++ 0 :: tail) front.length
    let item := skipSpaces temp front.length
    let trimmed := trimEnd temp item (item + strlen temp item - 1)
    stringAt trimmed item = dishText token ∧ ∃ region : Bytes, region.length = token.length ∧
      trimmed = front ++ region ++ 0 :: tail := by
  intro temp item trimmed
  obtain ⟨waste, length, stop, cut⟩ := cutParenthesis_eq front zeroFree tail
  obtain ⟨spaces, count, split, skipped, blank⟩ := dishText_split token
  have isItem : item = (front ++ spaces).length := by
    show skipSpaces (cutParenthesis _ _) _ = _
    rw [cut, skipSpaces_eq front _ stop, ← skipped]
  have isTemp : temp = front ++ spaces ++ (dishText token ++ List.replicate count 32) ++
      (waste ++ 0 :: tail) := by
    show cutParenthesis _ _ = _
    rw [cut, split, List.append_assoc front spaces]
  obtain ⟨trims, reads⟩ := trimEnd_string (front ++ spaces) (zeroFree_dishText zeroFree) stop
    (getLast?_dishText token) blank
  have isTrimmed : trimmed = front ++ spaces ++ dishText token ++
      (List.replicate count 0 ++ (waste ++ 0 :: tail)) := by
    show trimEnd temp item _ = _
    rw [isTemp, isItem]
    exact trims
  rw [isTrimmed, isItem]
  refine ⟨reads, spaces ++ dishText token ++ List.replicate count 0 ++ waste, ?_,
    by simp only [List.append_assoc]⟩
  rw [split] at length
  simp only [List.length_append, List.length_replicate] at length ⊢
  omega

/-! ### What the loops append -/

/-- The dish texts of a menu: those of its items that are not empty. -/
def dishTexts (menu : Bytes) : List Bytes :=
  ((fields breakTag menu).map dishText).filter (· ≠ [])

/-- The line of a dish. -/
def dishLine (text : Bytes) : Bytes := utf8 "• " ++ text ++ utf8 "\n"

/-- One line after the other. -/
def addLines (size : Nat) (texts : List Bytes) (result : Bytes) : Option Bytes :=
  texts.foldlM (fun result text => addLine size text result) result

/-- What a pass adds is the first line, if the item has a text. -/
theorem addLines_item (size : Nat) {temp token : Bytes} {item : Nat}
    (reads : stringAt temp item = dishText token) (items : List Bytes) (result : Bytes) :
    addLines size (((token :: items).map dishText).filter (· ≠ [])) result =
      addText size temp item result >>= addLines size ((items.map dishText).filter (· ≠ [])) := by
  rw [List.map_cons, addText, strlen, reads]
  by_cases empty : dishText token = []
  · rw [List.filter_cons_of_neg (by simpa using empty), empty]
    rfl
  · rw [List.filter_cons_of_pos (by simpa using empty), if_pos (List.length_pos_iff.mpr empty)]
    rfl

/-- The first loop adds the dish texts of the text that is left to scan. -/
theorem addDishes_eq (size passes : Nat) {temp rest : Bytes} {saved : Nat}
    (scans : StringAt temp saved rest) (enough : rest.length ≤ passes) (result : Bytes) :
    addDishes size passes (strtokAt breakTag temp saved).2.1 (strtokAt breakTag temp saved).1
      (strtokAt breakTag temp saved).2.2 result = addLines size (dishTexts rest) result := by
  induction passes generalizing temp rest saved result with
  | zero =>
    obtain rfl := List.eq_nil_of_length_eq_zero (Nat.le_zero.mp enough)
    obtain ⟨found, _⟩ := strtokAt_of_only scans (fun byte member => absurd member List.not_mem_nil)
    rw [found]
    rfl
  | succ passes inductionHypothesis =>
    obtain ⟨head, tail⟩ := fields_strtok breakTag rest
    rcases strtokAt_spec breakTag scans with
      ⟨listed, next, found, _⟩ | ⟨token, later, item, after, next, listed, found, _, shorter, cut⟩
    · rw [listed] at head
      rw [found, dishTexts, List.head?_eq_none_iff.mp head.symm]
      rfl
    · rw [listed] at head tail
      have items : fields breakTag rest = token :: fields breakTag later := by
        obtain ⟨others, split⟩ := List.head?_eq_some_iff.mp head.symm
        rw [split] at tail ⊢
        exact congrArg (token :: ·) tail.symm
      obtain ⟨front, behind, rfl, rfl, goesOn⟩ := cut.placed
      obtain ⟨reads, region, length, written⟩ := pass_eq front cut.zeroFree behind
      have goes := fun result => inductionHypothesis (goesOn region length) (by omega) result
      rw [← written] at goes
      rw [found, dishTexts, items, addLines_item size reads]
      exact congrArg (Option.bind _) (funext goes)

/-- The loops are the same, name by name. -/
theorem addItems_eq (size passes : Nat) (temp : Bytes) (itemStr : Option Nat) (saved : Nat)
    (entry : Bytes) :
    addItems size passes temp itemStr saved entry =
      addDishes size passes temp itemStr saved entry := by
  induction passes generalizing temp itemStr saved entry with
  | zero => cases itemStr <;> rfl
  | succ passes inductionHypothesis =>
    cases itemStr with
    | none => rfl
    | some item => exact congrArg (Option.bind _) (funext fun entry => inductionHypothesis _ _ _ _)

/-! ### What the arrays hold -/

/-- The bytes that the lines of some texts take. -/
def linesLength (texts : List Bytes) : Nat := (texts.map fun text => text.length + 5).sum

theorem length_newline : (utf8 "\n").length = 1 := by decide

theorem length_dishLine (text : Bytes) : (dishLine text).length = text.length + 5 := by
  have bullet : (utf8 "• ").length = 4 := by decide
  rw [dishLine, List.length_append, List.length_append, bullet, length_newline]
  omega

theorem length_flatMap_dishLine (texts : List Bytes) :
    (texts.flatMap dishLine).length = linesLength texts := by
  rw [List.length_flatMap, linesLength]
  exact congrArg List.sum (List.map_congr_left fun text _ => length_dishLine text)

/-- The three calls of a line are one. -/
theorem addLine_eq (size : Nat) (text result : Bytes) :
    addLine size text result = strcat size result (dishLine text) := by
  have calls : addLine size text result = strcat size result (utf8 "• ") >>= fun result =>
      strcat size result text >>= fun result => strcat size result (utf8 "\n") := rfl
  simp only [calls, strcat_strcat, dishLine, List.append_assoc]

/-- So are those of all lines. -/
theorem addLines_eq (size : Nat) (texts : List Bytes) {result : Bytes}
    (room : result.length < size) :
    addLines size texts result = strcat size result (texts.flatMap dishLine) := by
  induction texts generalizing result with
  | nil => exact (strcat_eq_some_iff.mpr ⟨room, List.append_nil result⟩).symm
  | cons text texts inductionHypothesis =>
    have first : addLines size (text :: texts) result =
        addLine size text result >>= addLines size texts := rfl
    rw [first, addLine_eq, List.flatMap_cons, ← strcat_strcat]
    cases added : strcat size result (dishLine text) with
    | none => rfl
    | some longer =>
      obtain ⟨fits, rfl⟩ := strcat_eq_some_iff.mp added
      exact inductionHypothesis (by rw [List.length_append]; exact fits)

/-- What `get_meal_from_neis` writes in front of the dishes. -/
def mealHeading (date : Bytes) : Bytes :=
  utf8 "\n🍱 오늘의 급식 메뉴\n\n" ++ utf8 "📅 " ++ formattedDate date ++ utf8 "\n\n"

/-- What `get_meals_period_from_neis` writes in front of the dishes of a row. -/
def entryHeading (date : Bytes) : Bytes := utf8 "📅 " ++ formattedDate date ++ utf8 "\n"

/-- The text of a meal is its heading with the line of every dish, if that fits. -/
theorem formatMeal_eq (size : Nat) {menu : Bytes} (zeroFree : 0 ∉ menu) (date : Bytes) :
    formatMeal size menu date =
      strcat size [] (mealHeading date ++ (dishTexts menu).flatMap dishLine) := by
  have scans : StringAt (menu ++ [0]) 0 menu := stringAt_start zeroFree []
  have dishes := addDishes_eq size menu.length scans (Nat.le_refl _)
  have calls : formatMeal size menu date =
      strcat size [] (utf8 "\n🍱 오늘의 급식 메뉴\n\n") >>= fun result =>
        strcat size result (utf8 "📅 ") >>= fun result =>
          strcat size result (formattedDate date) >>= fun result =>
            strcat size result (utf8 "\n\n") >>= addLines size (dishTexts menu) := by
    rw [← funext dishes]
    rfl
  have added : (strcat size [] (mealHeading date) >>= addLines size (dishTexts menu)) =
      strcat size [] (mealHeading date) >>= fun result =>
        strcat size result ((dishTexts menu).flatMap dishLine) := by
    cases written : strcat size [] (mealHeading date) with
    | none => rfl
    | some heading =>
      obtain ⟨fits, rfl⟩ := strcat_eq_some_iff.mp written
      exact addLines_eq size _ (by simpa using fits)
  rw [calls, ← strcat_strcat size [] (mealHeading date), ← added, mealHeading]
  simp only [← strcat_strcat, bind_assoc]

/-- The text of a row is its heading with the line of every dish, if that fits. -/
theorem formatEntry_eq {size : Nat} {menu : Bytes} (zeroFree : 0 ∉ menu) (date : Bytes)
    (room : (entryHeading date).length < size) :
    formatEntry size menu date =
      strcat size (entryHeading date) ((dishTexts menu).flatMap dishLine) := by
  have scans : StringAt (menu ++ [0]) 0 menu := stringAt_start zeroFree []
  have heading : snprintf size (utf8 "📅 " ++ formattedDate date ++ utf8 "\n") =
      entryHeading date := snprintf_of_fits size _ (Nat.le_sub_one_of_lt room)
  have calls : formatEntry size menu date = addItems size menu.length
      (strtokAt breakTag (menu ++ [0]) 0).2.1 (strtokAt breakTag (menu ++ [0]) 0).1
      (strtokAt breakTag (menu ++ [0]) 0).2.2
      (snprintf size (utf8 "📅 " ++ formattedDate date ++ utf8 "\n")) := rfl
  rw [calls, heading, addItems_eq, addDishes_eq size _ scans (Nat.le_refl _), addLines_eq _ _ room]

end SchoolMeals
