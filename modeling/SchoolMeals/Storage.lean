/-
This file models the server's store and `db_handler.c`. The schema is the one
`init_db` creates; every function of `db_handler.c` is a program whose calls are
the prepared statements of the source, with the columns and filters of their
texts. `add_user` is the exception the source makes: it formats its statement
into a text and hands that to `sqlite3_exec`.

A null column read through `sqlite3_column_text` is a null pointer, and copying
from it is undefined.
-/

import Mathlib.Data.Finset.Insert
import SchoolMeals.Library.Interaction
import SchoolMeals.Library.Relational
import SchoolMeals.Library.SqlText
import SchoolMeals.Protocol

namespace SchoolMeals

open CText Interaction

/-! ### The schema -/

inductive Table where
  | users | children | meals
  deriving DecidableEq

instance : Fintype Table where
  elems := {.users, .children, .meals}
  complete table := by cases table <;> decide

inductive Column where
  | id | pw | name | role | eduOffice | schoolName | childId | parentId | date | meal
  deriving DecidableEq

/-- The tables `init_db` creates, with foreign keys switched on. -/
def schema : Relational.Schema Table Column where
  columns
    | .users => [.id, .pw, .name, .role, .eduOffice, .schoolName]
    | .children => [.childId, .parentId]
    | .meals => [.date, .eduOffice, .schoolName, .meal]
  primaryKey
    | .users => [.id]
    | .children => [.childId, .parentId]
    | .meals => [.date, .eduOffice, .schoolName]
  notNull
    | .users => [.pw, .role]
    | .children => [.childId, .parentId]
    | .meals => [.date, .eduOffice, .schoolName, .meal]
  foreignKeys
    | .users => []
    | .children => [⟨.childId, .users, .id⟩, ⟨.parentId, .users, .id⟩]
    | .meals => []

abbrev Store := Relational.Store schema Bytes
abbrev Row := Relational.Row Column Bytes
abbrev Statement := Relational.Statement Table Column Bytes
abbrev StepResult := Relational.Result Bytes

/-- The store right after `init_db` on a fresh file. -/
def initDb : Store := Relational.Store.empty schema Bytes

/-! ### The calls of the server -/

/-- What the server's request loop calls: SQLite, the school and meal lookups of `neis_api.c`,
and `send_response`. -/
inductive Call where
  | sqlite (statement : Statement)
  | sqliteExec (text : Bytes)
  | resolveSchoolCode (schoolName : Bytes)
  | getMealFromNeis (eduOffice schoolCode date : Bytes)
  | getMealsPeriodFromNeis (eduOffice schoolCode startDate endDate : Bytes)
  | sendResponse (reply : Reply)

/-- The answers. A lookup that returns `false` answers `none`; `sqlite3_exec` answers whether it
returned `SQLITE_OK`. The result of `send_response` is ignored by all its callers. -/
def Call.Answer : Call → Type
  | .sqlite _ => StepResult
  | .sqliteExec _ => Bool
  | .resolveSchoolCode _ => Option SchoolCodes
  | .getMealFromNeis .. => Option Bytes
  | .getMealsPeriodFromNeis .. => Option Bytes
  | .sendResponse _ => Unit

/-- A part of the server program. -/
abbrev Server := Program Call Call.Answer

def sqlite (statement : Statement) : Server StepResult := Program.ask (Call.sqlite statement)
def sqliteExec (text : Bytes) : Server Bool := Program.ask (Call.sqliteExec text)
def resolveSchoolCode (schoolName : Bytes) : Server (Option SchoolCodes) :=
  Program.ask (Call.resolveSchoolCode schoolName)
def getMealFromNeis (eduOffice schoolCode date : Bytes) : Server (Option Bytes) :=
  Program.ask (Call.getMealFromNeis eduOffice schoolCode date)
def getMealsPeriodFromNeis (eduOffice schoolCode startDate endDate : Bytes) :
    Server (Option Bytes) :=
  Program.ask (Call.getMealsPeriodFromNeis eduOffice schoolCode startDate endDate)
def sendResponse (status : Nat) (message data : Bytes) : Server Unit :=
  Program.ask (Call.sendResponse ⟨status, message, data⟩)

/-- The string behind `sqlite3_column_text(stmt, index)`; reading through a null column is
undefined. -/
def columnText (row : List (Option Bytes)) (index : Nat) : Server Bytes :=
  match row[index]? with
  | some (some text) => pure text
  | _ => .undefined

/-! ### Users -/

def isUserExists (id : Bytes) : Server Bool := do
  let result ← sqlite (.select [] .users [(.id, id)])
  return result.firstRow.isSome

/-- The text `add_user` formats. -/
def addUserText (user : User) : Bytes :=
  snprintf bufferSize <|
    utf8 "INSERT INTO users (id, pw, role, edu_office, school_name) VALUES ('" ++ user.id ++
    utf8 "', '" ++ user.pw ++ utf8 "', '" ++ user.role ++ utf8 "', '" ++ user.eduOffice ++
    utf8 "', '" ++ user.schoolName ++ utf8 "');"

def addUser (user : User) : Server Bool := sqliteExec (addUserText user)

/-- `get_user`, where `beyond` gives for each array of the caller's record the string that
starts at its last byte before the call: nothing for a zeroed record, anything for an
uninitialised one. -/
def getUser (beyond : User) (id : Bytes) : Server (Option User) := do
  let result ← sqlite (.select [.id, .pw, .role, .eduOffice, .schoolName] .users [(.id, id)])
  match result.firstRow with
  | none => return none
  | some row =>
    let id ← columnText row 0
    let pw ← columnText row 1
    let role ← columnText row 2
    let eduOffice ← columnText row 3
    let schoolName ← columnText row 4
    return some {
      id := strncpy id (maxIdLen - 1) beyond.id
      pw := strncpy pw (maxPwLen - 1) beyond.pw
      name := beyond.name
      role := strncpy role (maxRoleLen - 1) beyond.role
      eduOffice := strncpy eduOffice (maxEduOfficeLen - 1) beyond.eduOffice
      schoolName := strncpy schoolName (maxSchoolNameLen - 1) beyond.schoolName }

def updateUser (user : User) : Server Bool := do
  let result ← sqlite (.update .users
    [(.pw, user.pw), (.eduOffice, user.eduOffice), (.schoolName, user.schoolName)]
    [(.id, user.id)])
  return result.isDone

/-- `delete_user` with the text it leaves in its response buffer. -/
def deleteUser (id : Bytes) : Server (Bool × Bytes) := do
  let result ← sqlite (.delete .users [(.id, id)])
  if result = .unprepared then
    return (false, utf8 "데이터베이스 오류")
  else if result.isDone then
    return (true, utf8 "사용자 삭제 성공")
  else
    return (false, utf8 "사용자 삭제 실패")

def verifyUser (id pw : Bytes) : Server Bool := do
  let result ← sqlite (.select [] .users [(.id, id), (.pw, pw)])
  return result.firstRow.isSome

/-! ### Meals -/

/-- `get_meal` into a zeroed record; only the meal text is read by its caller. -/
def getMeal (date eduOffice schoolName : Bytes) : Server (Option Bytes) := do
  let result ← sqlite (.select [.meal] .meals
    [(.date, date), (.eduOffice, eduOffice), (.schoolName, schoolName)])
  match result.firstRow with
  | none => return none
  | some row =>
    let meal ← columnText row 0
    return some (strncpy meal (maxMealLen - 1) [])

/-! ### Children -/

/-- The copying loop of `get_children_db`: identifiers only, the other fields keep what the
caller's array held, and rows beyond the array are skipped. -/
def copyChildIds (array : Nat → Child) : Nat → List (List (Option Bytes)) → Server (List Child)
  | _, [] => return []
  | count, row :: rows =>
    if count < maxChildren then do
      let id ← columnText row 0
      let children ← copyChildIds array (count + 1) rows
      return { array count with id := id } :: children
    else copyChildIds array count rows

/-- `get_children_db`, which asks the table `children` for a column `id`. -/
def getChildrenDb (array : Nat → Child) (parentId : Bytes) : Server (Option (List Child)) := do
  let result ← sqlite (.select [.id] .children [(.parentId, parentId)])
  match result with
  | .unprepared => return none
  | .rows found => return some (← copyChildIds array 0 found)
  | _ => return some []

/-- The copying loop of `get_children_raw`, where `beyond` is as for `get_user`. -/
def copyChildren (beyond : Nat → Child) : Nat → List (List (Option Bytes)) → Server (List Child)
  | _, [] => return []
  | count, row :: rows =>
    if count < maxChildren then do
      let id ← columnText row 0
      let name ← columnText row 1
      let eduOffice ← columnText row 2
      let schoolName ← columnText row 3
      let children ← copyChildren beyond (count + 1) rows
      return {
        id := strncpy id (maxIdLen - 1) (beyond count).id
        name := strncpy name (maxNameLen - 1) (beyond count).name
        eduOffice := strncpy eduOffice (maxEduOfficeLen - 1) (beyond count).eduOffice
        schoolName := strncpy schoolName (maxSchoolNameLen - 1) (beyond count).schoolName }
        :: children
    else return []

def getChildrenRaw (beyond : Nat → Child) (parentId : Bytes) : Server (Option (List Child)) := do
  let result ← sqlite (.join [.id, .name, .eduOffice, .schoolName] .children .users .childId .id
    [(.parentId, parentId)])
  match result with
  | .unprepared => return none
  | .rows found => return some (← copyChildren beyond 0 found)
  | _ => return some []

/-- The array `get_children` builds, the comma behind every element but the last. -/
def childrenJson (children : List Child) : Bytes :=
  let elements := children.zipIdx.foldl
    (fun json (child, index) =>
      let element := snprintf 256 <|
        utf8 "\x7b\"id\":\"" ++ child.id ++ utf8 "\",\"name\":\"" ++ child.name ++
        utf8 "\",\"edu_office\":\"" ++ child.eduOffice ++ utf8 "\",\"school_name\":\"" ++
        child.schoolName ++ utf8 "\"\x7d" ++
        (if index + 1 < children.length then utf8 "," else [])
      strncat json element (bufferSize - json.length - 1))
    (utf8 "[")
  strncat elements (utf8 "]") (bufferSize - elements.length - 1)

/-- `get_children` with the text it leaves in its response buffer. -/
def getChildren (beyond : Nat → Child) (parentId : Bytes) : Server (Bool × Bytes) := do
  match ← getChildrenRaw beyond parentId with
  | none => return (false, respDbError)
  | some children => return (true, childrenJson children)

def dbAddChild (childId parentId : Bytes) : Server Bool := do
  if ← isUserExists childId then
    let result ← sqlite (.insert .children [(.childId, childId), (.parentId, parentId)])
    return result.isDone
  else
    return false

def dbDeleteChild (childId parentId : Bytes) : Server Bool := do
  let result ← sqlite (.delete .children [(.childId, childId), (.parentId, parentId)])
  return result.isDone

def isChildRegistered (childId parentId : Bytes) : Server Bool := do
  let result ← sqlite (.select [] .children [(.childId, childId), (.parentId, parentId)])
  return result.firstRow.isSome

end SchoolMeals
