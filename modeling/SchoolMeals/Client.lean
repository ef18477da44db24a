/-
This file models what the client's handlers put on the wire: the checks of
`input_util.c` and, for every handler, the text it formats before it sends it.
A handler that refuses its operands sends nothing.
-/

import SchoolMeals.Protocol

namespace SchoolMeals

open CText

/-! ### Checks -/

/-- `validate_date_format`: eight digits that are a day of the calendar from 1900 on. -/
def validateDateFormat (date : Bytes) : Bool :=
  if date.length ≠ 8 then false
  else if !date.all isDigit then false
  else
    let digit (index : Nat) : Nat := (date.getD index 0).toNat - 48
    let year := digit 0 * 1000 + digit 1 * 100 + digit 2 * 10 + digit 3
    let month := digit 4 * 10 + digit 5
    let day := digit 6 * 10 + digit 7
    if year < 1900 then false
    else if month < 1 || month > 12 then false
    else if day < 1 || day > 31 then false
    else
      let isLeap := (year % 4 = 0 && year % 100 ≠ 0) || year % 400 = 0
      if month = 2 && isLeap && day > 29 then false
      else if month = 2 && !isLeap && day > 28 then false
      else if (month = 4 || month = 6 || month = 9 || month = 11) && day > 30 then false
      else true

/-- `is_valid_password`: exactly four digits. -/
def isValidPassword (pw : Bytes) : Bool :=
  if pw.length ≠ 4 then false else pw.all isDigit

/-- `is_valid_id`: four to sixteen letters and digits. -/
def isValidId (id : Bytes) : Bool :=
  if id.length < 4 || id.length > 16 then false else id.all isAlnum

def validEduOffices : List Bytes :=
  [utf8 "서울특별시교육청", utf8 "부산광역시교육청", utf8 "대구광역시교육청",
    utf8 "인천광역시교육청", utf8 "광주광역시교육청", utf8 "대전광역시교육청",
    utf8 "울산광역시교육청", utf8 "세종특별자치시교육청", utf8 "경기도교육청",
    utf8 "강원도교육청", utf8 "충청북도교육청", utf8 "충청남도교육청", utf8 "전라북도교육청",
    utf8 "전라남도교육청", utf8 "경상북도교육청", utf8 "경상남도교육청",
    utf8 "제주특별자치도교육청"]

def isValidEduOffice (name : Bytes) : Bool := validEduOffices.any (name = ·)

/-- A valid identifier fits its array and is a run of letters and digits. -/
theorem isValidId_iff (id : Bytes) :
    isValidId id = true ↔ 4 ≤ id.length ∧ id.length ≤ 16 ∧ ∀ byte ∈ id, isAlnum byte = true := by
  unfold isValidId
  by_cases length : id.length < 4 ∨ id.length > 16
  · rw [if_pos (by simpa using length)]
    constructor
    · intro impossible
      cases impossible
    · rintro ⟨lower, upper, _⟩
      omega
  · rw [if_neg (by simpa using length), List.all_eq_true]
    constructor
    · intro alphanumeric
      exact ⟨by omega, by omega, alphanumeric⟩
    · exact fun valid => valid.2.2

theorem isValidPassword_iff (pw : Bytes) :
    isValidPassword pw = true ↔ pw.length = 4 ∧ ∀ byte ∈ pw, isDigit byte = true := by
  unfold isValidPassword
  by_cases length : pw.length = 4 <;> simp [length]

/-- A valid date is eight digits. -/
theorem digits_of_validateDateFormat {date : Bytes} (valid : validateDateFormat date = true) :
    date.length = 8 ∧ ∀ byte ∈ date, isDigit byte = true := by
  unfold validateDateFormat at valid
  by_cases length : date.length = 8
  · rw [if_neg (not_not.mpr length)] at valid
    cases digits : date.all isDigit with
    | true => exact ⟨length, List.all_eq_true.mp digits⟩
    | false =>
      rw [digits] at valid
      cases valid
  · rw [if_pos length] at valid
    cases valid

/-- A digit is a letter or digit, and no letter or digit is a slash, a quote, a terminator, a
hyphen or white space. -/
theorem isAlnum_of_isDigit {byte : UInt8} (digit : isDigit byte = true) : isAlnum byte = true := by
  unfold isAlnum
  rw [digit]
  rfl

theorem plain_of_isAlnum {text : Bytes} (alphanumeric : ∀ byte ∈ text, isAlnum byte = true)
    (special : UInt8) (excluded : isAlnum special = false) : special ∉ text :=
  fun member => Bool.false_ne_true (excluded.symm.trans (alphanumeric special member))

/-- A valid identifier contains no special character, and neither does a valid password. -/
theorem plain_of_isValidId {id : Bytes} (valid : isValidId id = true) (special : UInt8)
    (excluded : isAlnum special = false) : special ∉ id :=
  plain_of_isAlnum ((isValidId_iff id).mp valid).2.2 special excluded

theorem plain_of_isValidPassword {pw : Bytes} (valid : isValidPassword pw = true)
    (special : UInt8) (excluded : isAlnum special = false) : special ∉ pw := by
  have digits := ((isValidPassword_iff pw).mp valid).2
  exact plain_of_isAlnum (fun byte member => isAlnum_of_isDigit (digits byte member)) special
    excluded

/-! ### The texts of the handlers -/

/-- The text `handle_login` sends. -/
def handleLogin (id pw : Bytes) : Bytes :=
  snprintf bufferSize (cmdLogin ++ cmdDelimiter ++ id ++ cmdDelimiter ++ pw)

/-- The text `handle_register` sends, unless it refuses the education office. -/
def handleRegister (id pw eduOffice schoolName : Bytes) : Option Bytes :=
  if !isValidEduOffice eduOffice then none
  else some <| snprintf bufferSize <|
    cmdRegisterGeneral ++ cmdDelimiter ++ id ++ cmdDelimiter ++ pw ++ cmdDelimiter ++ eduOffice ++
    cmdDelimiter ++ schoolName

/-- The text `handle_add_user` sends. -/
def handleAddUser (id pw eduOffice schoolName : Bytes) : Bytes :=
  snprintf bufferSize <|
    cmdRegisterGeneral ++ cmdDelimiter ++ id ++ cmdDelimiter ++ pw ++ cmdDelimiter ++ eduOffice ++
    cmdDelimiter ++ schoolName

/-- The text `handle_update_user` sends. -/
def handleUpdateUser (id pw eduOffice schoolName : Bytes) : Bytes :=
  snprintf bufferSize <|
    cmdUpdate ++ cmdDelimiter ++ id ++ cmdDelimiter ++ pw ++ cmdDelimiter ++ eduOffice ++
    cmdDelimiter ++ schoolName

/-- The text `handle_delete_user` sends. -/
def handleDeleteUser (id : Bytes) : Bytes :=
  snprintf bufferSize (cmdDelete ++ cmdDelimiter ++ id)

/-- The text the client's `get_meal_from_neis` sends. -/
def requestMeal (eduOffice schoolName date : Bytes) : Bytes :=
  snprintf bufferSize <|
    cmdGetMeal ++ cmdDelimiter ++ eduOffice ++ cmdDelimiter ++ schoolName ++ cmdDelimiter ++ date

/-- The text the client's `get_meals_period_from_neis` sends. -/
def requestMealsPeriod (eduOffice schoolName startDate endDate : Bytes) : Bytes :=
  snprintf bufferSize <|
    cmdGetMultiMeal ++ cmdDelimiter ++ eduOffice ++ cmdDelimiter ++ schoolName ++ cmdDelimiter ++
    startDate ++ utf8 "-" ++ endDate

/-- The text `get_child_meal` sends. -/
def requestChildMeal (parentId childId date : Bytes) : Bytes :=
  snprintf bufferSize <|
    cmdChildMeal ++ cmdDelimiter ++ parentId ++ cmdDelimiter ++ childId ++ cmdDelimiter ++ date

/-- The text `get_child_meals_period` sends. -/
def requestChildMealsPeriod (parentId childId startDate endDate : Bytes) : Bytes :=
  snprintf bufferSize <|
    cmdChildMultiMeal ++ cmdDelimiter ++ parentId ++ cmdDelimiter ++ childId ++ cmdDelimiter ++
    startDate ++ cmdDelimiter ++ endDate

end SchoolMeals
