/-
This file holds the constants and records both programs share: the sizes and
structures of `common.h`, the commands and messages of `protocol.h`, and the
text `send_response` puts on the wire.
-/

import SchoolMeals.Library.CText

namespace SchoolMeals

open CText

/-! ### Sizes -/

def bufferSize : Nat := 4096
def maxIdLen : Nat := 20
def maxPwLen : Nat := 20
def maxNameLen : Nat := 50
def maxRoleLen : Nat := 20
def maxEduOfficeLen : Nat := 50
def maxSchoolNameLen : Nat := 50
def maxMealLen : Nat := 2000
def maxChildren : Nat := 10
def maxPeriodDays : Nat := 7

/-! ### Commands and roles -/

def cmdDelimiter : Bytes := utf8 "//"

theorem length_cmdDelimiter : cmdDelimiter.length = 2 := by decide

def cmdLogin : Bytes := utf8 "LOGIN"
def cmdRegisterGeneral : Bytes := utf8 "REGISTER_GENERAL"
def cmdUpdate : Bytes := utf8 "UPDATE"
def cmdDelete : Bytes := utf8 "DELETE"
def cmdGetChildren : Bytes := utf8 "GET_CHILDREN"
def cmdAddChild : Bytes := utf8 "ADD_CHILD"
def cmdDelChild : Bytes := utf8 "DEL_CHILD"
def cmdChildMeal : Bytes := utf8 "CHILD_MEAL"
def cmdChildMultiMeal : Bytes := utf8 "CHILD_MULTI_MEAL"
def cmdGetMeal : Bytes := utf8 "GET_MEAL"
def cmdGetMultiMeal : Bytes := utf8 "GET_MULTI_MEAL"

def roleGeneral : Bytes := utf8 "GENERAL"
def roleParent : Bytes := utf8 "PARENT"

/-! ### Replies -/

def respSuccess : Nat := 1
def respError : Nat := 0

def respLoginOk : Bytes := utf8 "로그인 성공"
def respRegisterOk : Bytes := utf8 "회원가입 성공"
def respUpdateOk : Bytes := utf8 "사용자 정보 수정 성공"
def respDeleteOk : Bytes := utf8 "사용자 삭제 성공"
def respGetChildrenOk : Bytes := utf8 "자녀 목록 조회 성공"
def respAddChildOk : Bytes := utf8 "자녀 추가 성공"
def respDelChildOk : Bytes := utf8 "자녀 삭제 성공"
def respGetChildMealOk : Bytes := utf8 "자녀 급식 정보 조회 성공"
def respGetChildMultiMealOk : Bytes := utf8 "자녀 기간 급식 정보 조회 성공"

def respDbError : Bytes := utf8 "데이터베이스 오류"
def respInvalidRequest : Bytes := utf8 "잘못된 요청"
def respUnknownCommand : Bytes := utf8 "알 수 없는 명령어"
def errInvalidLogin : Bytes := utf8 "로그인 실패"
def errIdDuplicate : Bytes := utf8 "중복된 아이디"
def errChildUserNotFound : Bytes := utf8 "자녀 사용자를 찾을 수 없습니다"
def errInvalidChildId : Bytes := utf8 "잘못된 자녀 ID입니다"
def errChildMealNotFound : Bytes := utf8 "자녀 급식 정보를 찾을 수 없습니다"
def errMealNotFound : Bytes := utf8 "급식 정보를 찾을 수 없습니다"
def errInvalidDateFormat : Bytes := utf8 "잘못된 날짜 형식입니다"

/-- The literal `handle_client` answers with when the school lookup fails. -/
def schoolNotFound : Bytes := utf8 "학교 정보를 찾을 수 없습니다."

/-- The literals `handle_client` answers meal queries with. -/
def mealFound : Bytes := utf8 "급식 정보 조회 성공"
def mealsFound : Bytes := utf8 "기간 급식 정보 조회 성공"

/-- The arguments of one call of `send_response`. -/
structure Reply where
  status : Nat
  message : Bytes
  data : Bytes
  deriving DecidableEq

/-- The text `send_response` sends: the data field is left out when it is empty. -/
def Reply.text (reply : Reply) : Bytes :=
  snprintf bufferSize <|
    if reply.data.length > 0 then
      utf8 (toString reply.status) ++ cmdDelimiter ++ reply.message ++ cmdDelimiter ++ reply.data
    else utf8 (toString reply.status) ++ cmdDelimiter ++ reply.message

/-! ### Records -/

/-- A `User` record, each field read as a C string. -/
structure User where
  id : Bytes
  pw : Bytes
  name : Bytes
  role : Bytes
  eduOffice : Bytes
  schoolName : Bytes
  deriving DecidableEq

/-- `User user = {0}`. -/
def User.zero : User := ⟨[], [], [], [], [], []⟩

/-- A `Child` record, each field read as a C string. -/
structure Child where
  id : Bytes
  name : Bytes
  eduOffice : Bytes
  schoolName : Bytes
  deriving DecidableEq

/-- What `resolve_school_code` leaves in the caller's `edu_code` and `school_code` arrays, read
as C strings. A code that fills its array leaves no terminator in it, so neither string has a
bound on its length here. -/
structure SchoolCodes where
  eduCode : Bytes
  schoolCode : Bytes
  deriving DecidableEq

end SchoolMeals
