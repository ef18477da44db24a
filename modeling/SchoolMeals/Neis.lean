/-
This file models `neis_api.c`: how the server looks up a school, and which query
it sends for the meals of a day or of a period. What libcurl, json-c and the
clock do is given from outside; what the functions ask NEIS, and what they take
from an answer about schools, is here. How the text of a meal is formatted is
left to a parameter.
-/

import SchoolMeals.Outcomes
import SchoolMeals.Library.Calendar

namespace SchoolMeals

open CText Interaction

/-! ### JSON values -/

/-- A value of json-c. The null value is the null pointer. -/
inductive Json where
  | null
  | boolean (value : Bool)
  | number (text : Bytes)
  | string (text : Bytes)
  | array (elements : List Json)
  | object (members : List (Bytes × Json))

/-- `json_object_object_get_ex`: false on anything but an object with that member. -/
def Json.objectGetEx : Json → Bytes → Option Json
  | .object members, key => (members.find? (·.1 = key)).map Prod.snd
  | _, _ => none

/-! ### The surroundings of the functions -/

/-- What libcurl and json-c make of their arguments. A text that does not parse is null. -/
structure Libraries where
  easyEscape : Bytes → Bytes
  tokenerParse : Bytes → Json
  toJsonString : Json → Bytes

/-- What the arrays of a lookup hold where nothing is written: the rest of `encoded_school`, and
what lies behind the arrays for the codes. -/
structure SchoolMemory where
  encodedSchool : Bytes
  eduCode : Bytes
  schoolCode : Bytes

/-- `json_object_get_string`, which is null on null. -/
def Json.getString (libraries : Libraries) : Json → Option Bytes
  | .null => none
  | .string text => some (cString text)
  | json => some (cString (libraries.toJsonString json))

/-- The calls into libcurl. A request that succeeds answers with the whole body. -/
inductive NeisCall where
  | easyInit
  | easyPerform (url : Bytes)

def NeisCall.Answer : NeisCall → Type
  | .easyInit => Bool
  | .easyPerform _ => Option Bytes

/-- A part of a lookup. -/
abbrev Neis := Program NeisCall NeisCall.Answer

def easyInit : Neis Bool := Program.ask NeisCall.easyInit
def easyPerform (url : Bytes) : Neis (Option Bytes) := Program.ask (NeisCall.easyPerform url)

/-- `json_object_array_get_idx`, which asserts that it has an array. -/
def Json.arrayGetIdx : Json → Nat → Option Json
  | .array elements, index => some (elements.getD index .null)
  | _, _ => none

/-- What a function makes of the body of an answer: nothing when that is not defined, and no
result when it returns false. -/
abbrev Reading (Result : Type) := Bytes → Option (Option Result)

def readBody {Result : Type} (read : Reading Result) : Option Bytes → Neis (Option Result)
  | none => return none
  | some body =>
    match read body with
    | none => .undefined
    | some result => return result

/-! ### The lookup of a school -/

def neisApiKey : Bytes := utf8 "53ea0d0873e048e188a0b13834667795"

def neisApiUrl : Bytes := utf8 "https://open.neis.go.kr/hub/mealServiceDietInfo"

/-- The query of a lookup, for a name that is already encoded. -/
def schoolInfoUrl (encodedSchool : Bytes) : Bytes :=
  snprintf 1024 <|
    utf8 "https://open.neis.go.kr/hub/schoolInfo?KEY=" ++ neisApiKey ++
      utf8 "&Type=json&SCHUL_NM=" ++ encodedSchool

/-- The two members that the lookup copies out of a row. -/
def schoolRow (school : Json) : Option (Json × Json) :=
  match school.objectGetEx (utf8 "ATPT_OFCDC_SC_CODE"),
    school.objectGetEx (utf8 "SD_SCHUL_CODE") with
  | some eduCode, some schoolCode => some (eduCode, schoolCode)
  | _, _ => none

/-- The `strncpy` of both members; it is not defined on a null string. -/
def copyCodes (libraries : Libraries) (memory : SchoolMemory) (row : Json × Json) :
    Option SchoolCodes :=
  match row.1.getString libraries, row.2.getString libraries with
  | some eduCode, some schoolCode =>
    some ⟨strncpy eduCode 10 memory.eduCode, strncpy schoolCode 20 memory.schoolCode⟩
  | _, _ => none

def readSchoolCodes (libraries : Libraries) (memory : SchoolMemory) : Reading SchoolCodes :=
  fun body =>
    match (libraries.tokenerParse body).objectGetEx (utf8 "schoolInfo") with
    | none => some none
    | some schoolInfo => do
      let obj ← schoolInfo.arrayGetIdx 1
      match obj.objectGetEx (utf8 "row") with
      | some (.array rows) =>
        match schoolRow (rows.getD 0 .null) with
        | none => some none
        | some row => (copyCodes libraries memory row).map some
      | _ => some none

def Neis.getSchoolCodes (libraries : Libraries) (memory : SchoolMemory) (schoolName : Bytes) :
    Neis (Option SchoolCodes) := do
  if !(← easyInit) then return none
  else
    let encodedSchool := strncpy (libraries.easyEscape schoolName) 255 memory.encodedSchool
    let response ← easyPerform (schoolInfoUrl encodedSchool)
    readBody (readSchoolCodes libraries memory) response

/-! ### The queries for meals -/

/-- Time in the C library: the seconds by which local midnight comes early, and what fits
`time_t`. -/
structure Clock where
  zone : Int
  representable : Int → Bool

/-- `mktime` on a broken-down time without hours, which it brings into range. -/
def Clock.mktime (clock : Clock) (tmYear tmMon tmMday : Int) : Int :=
  let seconds := 86400 * Calendar.dayNumber (tmYear + 1900) tmMon tmMday - clock.zone
  if clock.representable seconds then seconds else -1

/-- `sscanf(date_str, "%4d%2d%2d", …)` into zeros. -/
def scanDate (date : Bytes) : Int × Int × Int :=
  match scanInt 4 date with
  | none => (0, 0, 0)
  | some (year, rest) =>
    match scanInt 2 rest with
    | none => (year, 0, 0)
    | some (month, rest) =>
      match scanInt 2 rest with
      | none => (year, month, 0)
      | some (day, _) => (year, month, day)

def parseDate (clock : Clock) (date : Bytes) : Int :=
  let (year, month, day) := scanDate date
  clock.mktime (year - 1900) (month - 1) day

/-- `days_between`; the conversion to `int` cuts towards zero. -/
def daysBetween (clock : Clock) (startDate endDate : Bytes) : Int :=
  (parseDate clock endDate - parseDate clock startDate).tdiv (60 * 60 * 24) + 1

def performCurlRequest (url : Bytes) : Neis (Option Bytes) := do
  if !(← easyInit) then return none
  else easyPerform url

def mealUrl (eduOffice schoolCode date : Bytes) : Bytes :=
  snprintf 1024 <|
    neisApiUrl ++ utf8 "?KEY=" ++ neisApiKey ++ utf8 "&Type=json&ATPT_OFCDC_SC_CODE=" ++
      eduOffice ++ utf8 "&SD_SCHUL_CODE=" ++ schoolCode ++ utf8 "&MLSV_YMD=" ++ date

def mealsPeriodUrl (eduOffice schoolCode startDate endDate : Bytes) : Bytes :=
  snprintf 1024 <|
    neisApiUrl ++ utf8 "?KEY=" ++ neisApiKey ++ utf8 "&Type=json&ATPT_OFCDC_SC_CODE=" ++
      eduOffice ++ utf8 "&SD_SCHUL_CODE=" ++ schoolCode ++ utf8 "&MLSV_FROM_YMD=" ++ startDate ++
      utf8 "&MLSV_TO_YMD=" ++ endDate

def Neis.getMealFromNeis (read : Reading Bytes) (eduOffice schoolCode date : Bytes) :
    Neis (Option Bytes) := do
  let response ← performCurlRequest (mealUrl eduOffice schoolCode date)
  readBody read response

def Neis.getMealsPeriodFromNeis (clock : Clock) (read : Reading Bytes)
    (eduOffice schoolCode startDate endDate : Bytes) : Neis (Option Bytes) := do
  if daysBetween clock startDate endDate > 7 then return none
  else
    let response ← performCurlRequest (mealsPeriodUrl eduOffice schoolCode startDate endDate)
    readBody read response

/-! ### What a request asks NEIS -/

/-- What the calls of a part of the server ask, in order. -/
def askedIn {Result : Type} (ask : Call → List Bytes) (around : Surroundings)
    (program : Server Result) (world : World) : List Bytes :=
  (Program.exchanges (answer around) program world).flatMap fun exchange => ask exchange.request

/-- Everything outside `neis_api.c` that its functions meet during one request. -/
structure NeisSide where
  libraries : Libraries
  memory : SchoolMemory
  clock : Clock
  ready : Bool
  body : Bytes → Option Bytes
  readMeal : Bytes → Reading Bytes
  readMeals : Reading Bytes

namespace NeisSide

variable (side : NeisSide)

def answer : (request : NeisCall) → Unit → request.Answer × Unit
  | .easyInit, _ => (side.ready, ())
  | .easyPerform url, _ => (side.body url, ())

/-- The result of a lookup, when it is defined. -/
def result {Result : Type} (program : Neis Result) : Option Result :=
  (Program.run side.answer program ()).1

/-- The URLs that a lookup requests, in order. -/
def urls {Result : Type} (program : Neis Result) : List Bytes :=
  (Program.exchanges side.answer program ()).filterMap fun exchange =>
    match exchange.request with
    | .easyInit => none
    | .easyPerform url => some url

def getSchoolCodes (schoolName : Bytes) : Neis (Option SchoolCodes) :=
  Neis.getSchoolCodes side.libraries side.memory schoolName

def getMealFromNeis (eduOffice schoolCode date : Bytes) : Neis (Option Bytes) :=
  Neis.getMealFromNeis (side.readMeal date) eduOffice schoolCode date

def getMealsPeriodFromNeis (eduOffice schoolCode startDate endDate : Bytes) : Neis (Option Bytes) :=
  Neis.getMealsPeriodFromNeis side.clock side.readMeals eduOffice schoolCode startDate endDate

/-- The URLs that one call of the server requests. -/
def queries : Call → List Bytes
  | .resolveSchoolCode schoolName => side.urls (side.getSchoolCodes schoolName)
  | .getMealFromNeis eduOffice schoolCode date =>
    side.urls (side.getMealFromNeis eduOffice schoolCode date)
  | .getMealsPeriodFromNeis eduOffice schoolCode startDate endDate =>
    side.urls (side.getMealsPeriodFromNeis eduOffice schoolCode startDate endDate)
  | _ => []

/-- The URLs that are requested while the server handles one request. -/
def queriesOf (arrival : Arrival) (store : Store) : List Bytes :=
  askedIn side.queries arrival.around (handleClient arrival.locals arrival.received)
    (World.start store)

/-- A NEIS that answers every query with one document, for names of letters and digits, which
libcurl does not escape. -/
def calm (document : Json) : NeisSide where
  libraries := ⟨fun text => text, fun _ => document, fun _ => []⟩
  memory := ⟨[], [], []⟩
  clock := ⟨0, fun seconds => 0 ≤ seconds⟩
  ready := true
  body _ := some []
  readMeal _ _ := some none
  readMeals _ := some none

/-- The surroundings of the server answer the lookups as the functions do. -/
structure Answers (around : Surroundings) : Prop where
  schoolCodes : ∀ schoolName codes, side.result (side.getSchoolCodes schoolName) = some codes →
    around.schoolCodes schoolName = codes
  meal : ∀ eduOffice schoolCode date text,
    side.result (side.getMealFromNeis eduOffice schoolCode date) = some text →
      around.meal eduOffice schoolCode date = text
  meals : ∀ eduOffice schoolCode startDate endDate text,
    side.result (side.getMealsPeriodFromNeis eduOffice schoolCode startDate endDate) = some text →
      around.meals eduOffice schoolCode startDate endDate = text

/-- The surroundings of a server without faults of SQLite, whose lookups are these functions. -/
def surroundings : Surroundings where
  sqliteFault _ := none
  runScript store _ := (false, store)
  schoolCodes schoolName := (side.result (side.getSchoolCodes schoolName)).join
  meal eduOffice schoolCode date :=
    (side.result (side.getMealFromNeis eduOffice schoolCode date)).join
  meals eduOffice schoolCode startDate endDate :=
    (side.result (side.getMealsPeriodFromNeis eduOffice schoolCode startDate endDate)).join

theorem answers_surroundings : side.Answers side.surroundings where
  schoolCodes _ _ found := congrArg Option.join found
  meal _ _ _ _ found := congrArg Option.join found
  meals _ _ _ _ _ found := congrArg Option.join found

/-! ### Which URLs those are -/

section Urls

variable {Result : Type}

@[simp]
theorem urls_finished (result : Result) : side.urls (.finished result) = [] := rfl

@[simp]
theorem urls_undefined : side.urls (.undefined : Neis Result) = [] := rfl

@[simp]
theorem urls_easyInit (next : Bool → Neis Result) :
    side.urls (.call .easyInit next) = side.urls (next side.ready) := rfl

@[simp]
theorem urls_easyPerform (url : Bytes) (next : Option Bytes → Neis Result) :
    side.urls (.call (.easyPerform url) next) = url :: side.urls (next (side.body url)) := rfl

@[simp]
theorem urls_readBody (read : Reading Result) (response : Option Bytes) :
    side.urls (readBody read response) = [] := by
  cases response with
  | none => rfl
  | some body =>
    rw [readBody]
    cases read body <;> rfl

/-- A query goes out once libcurl is there, whatever is made of its answer. -/
theorem urls_request (read : Reading Result) (url : Bytes) :
    side.urls (performCurlRequest url >>= readBody read) = if side.ready then [url] else [] := by
  show side.urls ((if !side.ready then Program.finished none else easyPerform url) >>=
    readBody read) = _
  cases side.ready with
  | false => rfl
  | true =>
    show side.urls (.call (.easyPerform url) (readBody read)) = [url]
    rw [urls_easyPerform, urls_readBody]

/-- What such a query comes to. -/
theorem result_request (read : Reading Result) (url : Bytes) :
    side.result (performCurlRequest url >>= readBody read) =
      if side.ready then (side.body url).elim (some none) read else some none := by
  show (Program.run side.answer
    ((if !side.ready then Program.finished none else easyPerform url) >>= readBody read) ()).1 = _
  cases side.ready with
  | false => rfl
  | true =>
    show (Program.run side.answer (readBody read (side.body url)) ()).1 = _
    cases side.body url with
    | none => rfl
    | some body =>
      rw [readBody, if_pos rfl, Option.elim_some]
      cases read body <;> rfl

end Urls

theorem urls_getMealFromNeis (eduOffice schoolCode date : Bytes) :
    side.urls (side.getMealFromNeis eduOffice schoolCode date) =
      if side.ready then [mealUrl eduOffice schoolCode date] else [] :=
  side.urls_request (side.readMeal date) _

/-- No query for a period that the gate refuses. -/
theorem urls_getMealsPeriodFromNeis (eduOffice schoolCode startDate endDate : Bytes) :
    side.urls (side.getMealsPeriodFromNeis eduOffice schoolCode startDate endDate) =
      if daysBetween side.clock startDate endDate ≤ 7 ∧ side.ready then
        [mealsPeriodUrl eduOffice schoolCode startDate endDate]
      else [] := by
  rw [getMealsPeriodFromNeis, Neis.getMealsPeriodFromNeis]
  split
  · rename_i long
    rw [if_neg fun gate => absurd gate.1 (Int.not_le.mpr long)]
    rfl
  · rename_i short
    rw [side.urls_request side.readMeals]
    simp [Int.not_lt.mp short]

/-- A period that the gate refuses, or a missing libcurl, makes the lookup fail. -/
theorem result_getMealsPeriodFromNeis {eduOffice schoolCode startDate endDate : Bytes}
    (refused : 7 < daysBetween side.clock startDate endDate ∨ side.ready = false) :
    side.result (side.getMealsPeriodFromNeis eduOffice schoolCode startDate endDate) =
      some none := by
  rw [getMealsPeriodFromNeis, Neis.getMealsPeriodFromNeis]
  split
  · rfl
  · rename_i short
    rw [side.result_request side.readMeals, refused.resolve_left short]
    rfl

/-- The query for a school. -/
def schoolUrl (schoolName : Bytes) : Bytes :=
  schoolInfoUrl (strncpy (side.libraries.easyEscape schoolName) 255 side.memory.encodedSchool)

theorem getSchoolCodes_eq (schoolName : Bytes) :
    side.getSchoolCodes schoolName =
      performCurlRequest (side.schoolUrl schoolName) >>=
        readBody (readSchoolCodes side.libraries side.memory) := by
  show Program.call _ _ = Program.call _ _
  congr 1
  funext ready
  cases ready <;> rfl

theorem urls_getSchoolCodes (schoolName : Bytes) :
    side.urls (side.getSchoolCodes schoolName) =
      if side.ready then [side.schoolUrl schoolName] else [] := by
  rw [getSchoolCodes_eq, urls_request]

/-- Without libcurl nothing is asked. -/
theorem queries_of_unready (unready : side.ready = false) (request : Call) :
    side.queries request = [] := by
  cases request with
  | resolveSchoolCode schoolName =>
    rw [queries, urls_getSchoolCodes, unready]
    rfl
  | getMealFromNeis eduOffice schoolCode date =>
    rw [queries, urls_getMealFromNeis, unready]
    rfl
  | getMealsPeriodFromNeis eduOffice schoolCode startDate endDate =>
    rw [queries, urls_getMealsPeriodFromNeis, unready]
    simp
  | _ => rfl

end NeisSide

/-! ### What the meal commands ask -/

section Commands

variable (ask : Call → List Bytes) (around : Surroundings) (world : World)

theorem askedIn_call {Result : Type} (request : Call) (next : request.Answer → Server Result) :
    askedIn ask around (.call request next) world =
      ask request ++ askedIn ask around (next (answer around request world).1)
        (answer around request world).2 :=
  List.flatMap_cons

/-- A call that is followed by a reply. -/
theorem askedIn_last {Result : Type} (request : Call) (next : request.Answer → Server Result)
    (replies : ∀ given after, askedIn ask around (next given) after = []) :
    askedIn ask around (.call request next) world = ask request := by
  rw [askedIn_call, replies, List.append_nil]

/-- What is asked to find the codes of a school. -/
def askedForCodes (schoolName : Bytes) : List Bytes :=
  if schoolName.head?.any isDigit then [] else ask (.resolveSchoolCode schoolName)

/-- A meal query asks for the codes it needs, and then with those it has. -/
theorem askedIn_mealCodes {Result : Type} (eduOffice schoolName : Bytes)
    (next : Option SchoolCodes → Server Result) :
    ∃ calls, askedIn ask around (mealCodes eduOffice schoolName >>= next) world =
      askedForCodes ask schoolName ++
        askedIn ask around (next (codesUsed around eduOffice schoolName))
          ⟨world.store, calls, world.sent⟩ := by
  unfold mealCodes askedForCodes codesUsed
  split
  · exact ⟨world.calls, rfl⟩
  · exact ⟨world.calls + 1, askedIn_call ask around world (.resolveSchoolCode schoolName) next⟩

variable {ask} (silent : ∀ reply, ask (.sendResponse reply) = [])

include silent

theorem askedIn_sendResponse (status : Nat) (message data : Bytes) :
    askedIn ask around (sendResponse status message data) world = [] := by
  show ask (.sendResponse _) ++ [] = []
  rw [silent, List.append_nil]

theorem askedIn_getMealOf (eduOffice schoolName date : Bytes) :
    askedIn ask around (getMealOf (some eduOffice) (some schoolName) (some date)) world =
      askedForCodes ask schoolName ++
        (codesUsed around eduOffice schoolName).elim [] fun codes =>
          ask (.getMealFromNeis codes.eduCode codes.schoolCode date) := by
  rw [getMealOf]
  obtain ⟨calls, asked⟩ := askedIn_mealCodes ask around world eduOffice schoolName _
  rw [asked]
  refine congrArg (askedForCodes ask schoolName ++ ·) ?_
  cases codesUsed around eduOffice schoolName with
  | none => exact askedIn_sendResponse around _ silent respError schoolNotFound []
  | some codes =>
    refine askedIn_last ask around _ (.getMealFromNeis codes.eduCode codes.schoolCode date) _ ?_
    intro text after
    cases text with
    | none => exact askedIn_sendResponse around after silent respError errMealNotFound []
    | some meal => exact askedIn_sendResponse around after silent respSuccess mealFound meal

theorem askedIn_getMultiMeal (eduOffice schoolName period : Bytes) :
    askedIn ask around (getMultiMeal (some eduOffice) (some schoolName) (some period)) world =
      (splitPeriod period).elim [] fun dates =>
        askedForCodes ask schoolName ++
          (codesUsed around eduOffice schoolName).elim [] fun codes =>
            ask (.getMealsPeriodFromNeis codes.eduCode codes.schoolCode dates.1 dates.2) := by
  rw [getMultiMeal]
  cases splitPeriod period with
  | none => exact askedIn_sendResponse around world silent respError errInvalidDateFormat []
  | some dates =>
    obtain ⟨calls, asked⟩ := askedIn_mealCodes ask around world eduOffice schoolName _
    refine asked.trans (congrArg (askedForCodes ask schoolName ++ ·) ?_)
    cases codesUsed around eduOffice schoolName with
    | none => exact askedIn_sendResponse around _ silent respError schoolNotFound []
    | some codes =>
      refine askedIn_last ask around _
        (.getMealsPeriodFromNeis codes.eduCode codes.schoolCode dates.1 dates.2) _ ?_
      intro text after
      cases text with
      | none => exact askedIn_sendResponse around after silent respError errMealNotFound []
      | some meals => exact askedIn_sendResponse around after silent respSuccess mealsFound meals

end Commands

end SchoolMeals
