/-
This file models the request loop of `server.c`. One pass of the loop takes the
bytes `recv` delivered, tokenises them in place, binds the operands by position
and answers. Each branch of the dispatcher is a definition of its own, in the
order of the source; a missing operand is the null pointer `strtok` returned.
-/

import SchoolMeals.Storage

namespace SchoolMeals

open CText Interaction

/-! ### Parsing -/

/-- The operand variables of `handle_client`. -/
structure Operands where
  id : Option Bytes
  pw : Option Bytes
  eduOffice : Option Bytes
  schoolName : Option Bytes
  date : Option Bytes
  childId : Option Bytes
  period : Option Bytes
  deriving DecidableEq

/-- All operand variables are initialised to null. -/
def Operands.null : Operands := ⟨none, none, none, none, none, none, none⟩

structure Request where
  command : Bytes
  operands : Operands
  deriving DecidableEq

/-- The `strtok(NULL, CMD_DELIMITER)` calls after the command, whose targets depend on it. -/
def parseOperands (command saved : Bytes) : Operands :=
  if command = cmdGetMeal then
    let (eduOffice, saved) := strtok cmdDelimiter saved
    let (schoolName, saved) := strtok cmdDelimiter saved
    let (date, _) := strtok cmdDelimiter saved
    { Operands.null with eduOffice, schoolName, date }
  else if command = cmdGetMultiMeal then
    let (eduOffice, saved) := strtok cmdDelimiter saved
    let (schoolName, saved) := strtok cmdDelimiter saved
    let (period, _) := strtok cmdDelimiter saved
    { Operands.null with eduOffice, schoolName, period }
  else
    let (id, saved) := strtok cmdDelimiter saved
    let (pw, saved) := strtok cmdDelimiter saved
    let (eduOffice, saved) := strtok cmdDelimiter saved
    let (schoolName, saved) := strtok cmdDelimiter saved
    let (date, saved) := strtok cmdDelimiter saved
    let (childId, saved) := strtok cmdDelimiter saved
    let (period, _) := strtok cmdDelimiter saved
    { id, pw, eduOffice, schoolName, date, childId, period }

/-- The received bytes are terminated and read as a C string; the first token is the command. -/
def parseRequest (received : Bytes) : Option Request :=
  match strtok cmdDelimiter (cString received) with
  | (none, _) => none
  | (some command, saved) => some ⟨command, parseOperands command saved⟩

/-- `sscanf(period, "%10[^-]-%10s", start_date, end_date)`, when it converts both. -/
def splitPeriod (period : Bytes) : Option (Bytes × Bytes) := do
  let (startDate, rest) ← scanUntil 45 10 period
  let rest ← scanByte 45 rest
  let (endDate, _) ← scanWord 10 rest
  return (startDate, endDate)

/-! ### The branches of the dispatcher -/

/-- What the uninitialised locals of `handle_client` hold before they are written. -/
structure Locals where
  user : User
  child : User
  children : Nat → Child

def invalidRequest : Server Unit := sendResponse respError respInvalidRequest []

def login (locals : Locals) : Option Bytes → Option Bytes → Server Unit
  | some id, some pw => do
    if ← verifyUser id pw then
      match ← getUser locals.user id with
      | some user =>
        let data := snprintf 256 <|
          user.eduOffice ++ utf8 "//" ++ user.schoolName ++ utf8 "//" ++ user.role
        sendResponse respSuccess respLoginOk data
      | none => sendResponse respError respDbError []
    else
      sendResponse respError errInvalidLogin []
  | _, _ => invalidRequest

/-- The record `handle_register_general` fills. -/
def generalUser (id pw : Bytes) (codes : SchoolCodes) : User where
  id := strncpy id (maxIdLen - 1) []
  pw := strncpy pw (maxPwLen - 1) []
  name := strncpy [] (maxNameLen - 1) []
  role := strncpy roleGeneral (maxRoleLen - 1) []
  eduOffice := strncpy codes.eduCode (maxEduOfficeLen - 1) []
  schoolName := strncpy codes.schoolCode (maxSchoolNameLen - 1) []

/-- `handle_register_general`; the education office is not read. -/
def handleRegisterGeneral (id pw _eduOffice schoolName : Bytes) : Server Bool := do
  match ← resolveSchoolCode schoolName with
  | none =>
    sendResponse respError schoolNotFound []
    return false
  | some codes => addUser (generalUser id pw codes)

def registerGeneral : Option Bytes → Option Bytes → Option Bytes → Option Bytes → Server Unit
  | some id, some pw, some eduOffice, some schoolName => do
    if ← isUserExists id then
      sendResponse respError errIdDuplicate []
    else
      if ← handleRegisterGeneral id pw eduOffice schoolName then
        sendResponse respSuccess respRegisterOk []
  | _, _, _, _ => invalidRequest

/-- The record the `UPDATE` branch fills, with name and role of the old record. -/
def updatedUser (id pw : Bytes) (codes : SchoolCodes) (oldUser : User) : User where
  id := strncpy id (maxIdLen - 1) []
  pw := strncpy pw (maxPwLen - 1) []
  name := strncpy oldUser.name (maxNameLen - 1) []
  role := strncpy oldUser.role (maxRoleLen - 1) []
  eduOffice := strncpy codes.eduCode (maxEduOfficeLen - 1) []
  schoolName := strncpy codes.schoolCode (maxSchoolNameLen - 1) []

def update : Option Bytes → Option Bytes → Option Bytes → Option Bytes → Server Unit
  | some id, some pw, some _, some schoolName => do
    match ← resolveSchoolCode schoolName with
    | none => sendResponse respError schoolNotFound []
    | some codes =>
      let oldUser ← getUser User.zero id
      if ← updateUser (updatedUser id pw codes (oldUser.getD User.zero)) then
        sendResponse respSuccess respUpdateOk []
      else
        sendResponse respError respDbError []
  | _, _, _, _ => invalidRequest

def delete : Option Bytes → Server Unit
  | some id => do
    let (deleted, _) ← deleteUser id
    if deleted then
      sendResponse respSuccess respDeleteOk []
    else
      sendResponse respError respDbError []
  | none => invalidRequest

/-- The array the `GET_CHILDREN` branch builds, the comma in front of every element but the
first. -/
def childrenList (children : List Child) : Bytes :=
  let elements := children.zipIdx.foldl
    (fun json (child, index) =>
      let element := snprintf 256 <|
        (if index > 0 then utf8 "," else []) ++ utf8 "\x7b\"id\":\"" ++ child.id ++
        utf8 "\",\"name\":\"" ++ child.name ++ utf8 "\"\x7d"
      strncat json element (bufferSize - json.length - 1))
    (utf8 "[")
  strncat elements (utf8 "]") (bufferSize - elements.length - 1)

def getChildrenOf (locals : Locals) : Option Bytes → Server Unit
  | some id => do
    match ← getChildrenDb locals.children id with
    | some children => sendResponse respSuccess respGetChildrenOk (childrenList children)
    | none => sendResponse respError respDbError []
  | none => invalidRequest

def addChild : Option Bytes → Option Bytes → Server Unit
  | some id, some childId => do
    if !(← isUserExists childId) then
      sendResponse respError errChildUserNotFound []
    else if ← dbAddChild childId id then
      sendResponse respSuccess respAddChildOk []
    else
      sendResponse respError respDbError []
  | _, _ => invalidRequest

def delChild : Option Bytes → Option Bytes → Server Unit
  | some id, some childId => do
    if !(← isChildRegistered childId id) then
      sendResponse respError errInvalidChildId []
    else if ← dbDeleteChild childId id then
      sendResponse respSuccess respDelChildOk []
    else
      sendResponse respError respDbError []
  | _, _ => invalidRequest

def childMeal (locals : Locals) : Option Bytes → Option Bytes → Option Bytes → Server Unit
  | some id, some childId, some date => do
    if !(← isChildRegistered childId id) then
      sendResponse respError errInvalidChildId []
    else
      match ← getUser locals.child childId with
      | some child =>
        match ← getMeal date child.eduOffice child.schoolName with
        | some meal => sendResponse respSuccess respGetChildMealOk meal
        | none => sendResponse respError errChildMealNotFound []
      | none => sendResponse respError errChildUserNotFound []
  | _, _, _ => invalidRequest

def childMultiMeal : Option Bytes → Option Bytes → Option Bytes → Server Unit
  | some id, some childId, some period => do
    if !(← isChildRegistered childId id) then
      sendResponse respError errInvalidChildId []
    else
      match splitPeriod period with
      | none => sendResponse respError errInvalidDateFormat []
      | some _ => sendResponse respSuccess respGetChildMultiMealOk []
  | _, _, _ => invalidRequest

/-- The codes a meal query uses: the operands themselves when the school begins with a digit,
and otherwise what the lookup finds. -/
def mealCodes (eduOffice schoolName : Bytes) : Server (Option SchoolCodes) :=
  if schoolName.head?.any isDigit then
    return some ⟨strncpy eduOffice 9 [], strncpy schoolName 19 []⟩
  else resolveSchoolCode schoolName

def getMealOf : Option Bytes → Option Bytes → Option Bytes → Server Unit
  | some eduOffice, some schoolName, some date => do
    match ← mealCodes eduOffice schoolName with
    | none => sendResponse respError schoolNotFound []
    | some codes =>
      match ← getMealFromNeis codes.eduCode codes.schoolCode date with
      | some meal => sendResponse respSuccess mealFound meal
      | none => sendResponse respError errMealNotFound []
  | _, _, _ => invalidRequest

def getMultiMeal : Option Bytes → Option Bytes → Option Bytes → Server Unit
  | some eduOffice, some schoolName, some period => do
    match splitPeriod period with
    | none => sendResponse respError errInvalidDateFormat []
    | some (startDate, endDate) =>
      match ← mealCodes eduOffice schoolName with
      | none => sendResponse respError schoolNotFound []
      | some codes =>
        match ← getMealsPeriodFromNeis codes.eduCode codes.schoolCode startDate endDate with
        | some meals => sendResponse respSuccess mealsFound meals
        | none => sendResponse respError errMealNotFound []
  | _, _, _ => invalidRequest

/-! ### The dispatcher -/

def dispatch (locals : Locals) (request : Request) : Server Unit :=
  let operands := request.operands
  if request.command = cmdLogin then login locals operands.id operands.pw
  else if request.command = cmdRegisterGeneral then
    registerGeneral operands.id operands.pw operands.eduOffice operands.schoolName
  else if request.command = cmdUpdate then
    update operands.id operands.pw operands.eduOffice operands.schoolName
  else if request.command = cmdDelete then delete operands.id
  else if request.command = cmdGetChildren then getChildrenOf locals operands.id
  else if request.command = cmdAddChild then addChild operands.id operands.childId
  else if request.command = cmdDelChild then delChild operands.id operands.childId
  else if request.command = cmdChildMeal then
    childMeal locals operands.id operands.childId operands.date
  else if request.command = cmdChildMultiMeal then
    childMultiMeal operands.id operands.childId operands.period
  else if request.command = cmdGetMeal then
    getMealOf operands.eduOffice operands.schoolName operands.date
  else if request.command = cmdGetMultiMeal then
    getMultiMeal operands.eduOffice operands.schoolName operands.period
  else sendResponse respError respUnknownCommand []

/-- One pass of the loop of `handle_client`. -/
def handleClient (locals : Locals) (received : Bytes) : Server Unit :=
  match parseRequest received with
  | none => invalidRequest
  | some request => dispatch locals request

end SchoolMeals
