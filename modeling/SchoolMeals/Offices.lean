/-
This file asks which school a registration or an update stores. The user names an
education office and a school; the server looks the school up by its name alone
and takes the first row of the answer, whichever office that row belongs to. The
stored codes are those of the office exactly when the first row is.
-/

import SchoolMeals.Widths
import SchoolMeals.Neis

namespace SchoolMeals

open CText Interaction Relational

/-! ### The offices the client knows -/

def eduOfficeMap : List (Bytes × Bytes) :=
  [(utf8 "서울특별시교육청", utf8 "B10"), (utf8 "부산광역시교육청", utf8 "C10"),
    (utf8 "대구광역시교육청", utf8 "D10"), (utf8 "인천광역시교육청", utf8 "E10"),
    (utf8 "광주광역시교육청", utf8 "F10"), (utf8 "대전광역시교육청", utf8 "G10"),
    (utf8 "울산광역시교육청", utf8 "H10"), (utf8 "세종특별자치시교육청", utf8 "I10"),
    (utf8 "경기도교육청", utf8 "J10"), (utf8 "강원도교육청", utf8 "K10"),
    (utf8 "충청북도교육청", utf8 "M10"), (utf8 "충청남도교육청", utf8 "N10"),
    (utf8 "전라북도교육청", utf8 "P10"), (utf8 "전라남도교육청", utf8 "Q10"),
    (utf8 "경상북도교육청", utf8 "R10"), (utf8 "경상남도교육청", utf8 "S10"),
    (utf8 "제주특별자치도교육청", utf8 "T10")]

def getEduOfficeCode (eduOfficeName : Bytes) : Option Bytes :=
  (eduOfficeMap.find? (·.1 = eduOfficeName)).map Prod.snd

namespace NeisSide

variable (side : NeisSide)

end NeisSide

/-! ### What is stored -/

section Recording

variable (updating : Bool) (id pw eduOffice schoolName : Operand) (locals : Locals)
  (around : Surroundings) (store : Store)

variable {codes : SchoolCodes}

end Recording

/-! ### The office of the first row -/

section Office

variable (side : NeisSide) {schoolName eduCode : Bytes}

end Office

/-! ### Registrations and updates -/

section Requests

variable {updating : Bool} {id pw eduOffice schoolName : Operand} {locals : Locals}
  {around : Surroundings} {store : Store} {side : NeisSide} {eduCode : Bytes}

end Requests

/-! ### Two answers -/

end SchoolMeals
