/-
This file proves what the tokeniser of the request loop makes of a request. The
two-character separator is a set of characters to `strtok`, so runs of slashes
separate and no operand can be empty or hold a slash; every other operand comes
through, in its place. The boundary is exact for every request the client's
handlers build: the server binds the operands the client passed if and only if
each of them is non-empty and free of slashes.
-/

import Mathlib.Data.List.ReduceOption
import SchoolMeals.Client
import SchoolMeals.Server

namespace SchoolMeals

open CText

/-! ### Every operand is a token -/

theorem isToken_iff (field : Bytes) : IsToken cmdDelimiter field ↔ field ≠ [] ∧ 47 ∉ field := by
  have slashes : cmdDelimiter = [47, 47] := by decide
  refine and_congr Iff.rfl ⟨fun outside member => ?_, fun absent byte member delimits => ?_⟩
  · exact outside 47 member (by rw [slashes]; decide)
  · rw [slashes] at delimits
    obtain rfl : byte = 47 := by simpa using delimits
    exact absent member

/-- The operands a request carries, missing ones left out. -/
def Operands.given (operands : Operands) : List Bytes :=
  [operands.id, operands.pw, operands.eduOffice, operands.schoolName, operands.date,
    operands.childId, operands.period].reduceOption

theorem isToken_of_parseOperands (command saved : Bytes) :
    ∀ operand ∈ (parseOperands command saved).given, IsToken cmdDelimiter operand := by
  intro operand member
  have token : ∀ rest, some operand = (strtok cmdDelimiter rest).1 → IsToken cmdDelimiter operand :=
    fun rest found => isToken_of_strtok cmdDelimiter rest operand found.symm
  rw [Operands.given, List.reduceOption_mem_iff] at member
  unfold parseOperands at member
  split at member
  · simp only [Operands.null, List.mem_cons, List.not_mem_nil, reduceCtorEq, false_or,
      or_false] at member
    rcases member with found | found | found <;> exact token _ found
  · split at member
    · simp only [Operands.null, List.mem_cons, List.not_mem_nil, reduceCtorEq, false_or,
        or_false] at member
      rcases member with found | found | found <;> exact token _ found
    · simp only [List.mem_cons, List.not_mem_nil, or_false] at member
      rcases member with found | found | found | found | found | found | found <;>
        exact token _ found

/-- Whatever the server receives, the operands it binds are non-empty and free of slashes. -/
theorem isToken_of_parseRequest {received : Bytes} {request : Request}
    (parsed : parseRequest received = some request) :
    ∀ operand ∈ request.operands.given, IsToken cmdDelimiter operand := by
  unfold parseRequest at parsed
  split at parsed
  · cases parsed
  · obtain rfl := Option.some.inj parsed
    exact isToken_of_parseOperands _ _

/-! ### Reading a request back -/

/-- A request: the command and its operands, each behind a separator. -/
def requestText (command : Bytes) (operands : List Bytes) : Bytes :=
  command ++ trailing cmdDelimiter operands

/-- A token before a separator is the first field. -/
theorem fields_delimited {token : Bytes} (isToken : IsToken cmdDelimiter token) (rest : Bytes) :
    fields cmdDelimiter (token ++ cmdDelimiter ++ rest) = token :: fields cmdDelimiter rest :=
  fields_separated (fun _ member => member) (by decide) isToken rest

/-- The fields of a request of tokens. -/
theorem fields_requestText {command : Bytes} {operands : List Bytes}
    (isCommand : IsToken cmdDelimiter command)
    (tokens : ∀ operand ∈ operands, IsToken cmdDelimiter operand) :
    fields cmdDelimiter (requestText command operands) = command :: operands :=
  fields_trailing (fun _ member => member) (by decide) command operands isCommand tokens

/-- The positions at which the server expects the operands of a command. -/
def bindOperands (command : Bytes) (operands : List Bytes) : Operands :=
  if command = cmdGetMeal then
    { Operands.null with
      eduOffice := operands[0]?, schoolName := operands[1]?, date := operands[2]? }
  else if command = cmdGetMultiMeal then
    { Operands.null with
      eduOffice := operands[0]?, schoolName := operands[1]?, period := operands[2]? }
  else
    { id := operands[0]?, pw := operands[1]?, eduOffice := operands[2]?,
      schoolName := operands[3]?, date := operands[4]?, childId := operands[5]?,
      period := operands[6]? }

/-- The operands are the fields behind the command, each in its place. -/
theorem parseOperands_eq (command saved : Bytes) :
    parseOperands command saved = bindOperands command (fields cmdDelimiter saved) := by
  have taken : ∀ text, (strtok cmdDelimiter text).1 = (fields cmdDelimiter text)[0]? :=
    fun text => (fields_strtok _ text).1.trans List.head?_eq_getElem?
  have later : ∀ text, fields cmdDelimiter (strtok cmdDelimiter text).2 =
      (fields cmdDelimiter text).tail := fun text => (fields_strtok _ text).2
  unfold parseOperands bindOperands
  split
  · simp only [taken, later, List.getElem?_tail, Nat.zero_add]
  · split
    · simp only [taken, later, List.getElem?_tail, Nat.zero_add]
    · simp only [taken, later, List.getElem?_tail, Nat.zero_add, Nat.reduceAdd]

/-- The server reads the fields of what it received: the first is the command. -/
theorem parseRequest_of_fields {received : Bytes} {command : Bytes} {operands : List Bytes}
    (read : fields cmdDelimiter (cString received) = command :: operands) :
    parseRequest received = some ⟨command, bindOperands command operands⟩ := by
  have split := fields_strtok cmdDelimiter (cString received)
  rw [read] at split
  unfold parseRequest
  cases taken : strtok cmdDelimiter (cString received) with
  | mk token saved =>
    rw [taken] at split
    obtain ⟨rfl, rest⟩ := split
    show some (Request.mk command (parseOperands command saved)) = _
    rw [parseOperands_eq, rest]
    rfl

/-- What the server reads is the fields of what it received. -/
theorem fields_of_parseRequest {received : Bytes} {request : Request}
    (parsed : parseRequest received = some request) :
    ∃ operands, fields cmdDelimiter (cString received) = request.command :: operands ∧
      request.operands = bindOperands request.command operands := by
  cases read : fields cmdDelimiter (cString received) with
  | nil =>
    have none := (fields_strtok cmdDelimiter (cString received)).1
    rw [read] at none
    unfold parseRequest at parsed
    cases taken : strtok cmdDelimiter (cString received) with
    | mk token saved =>
      rw [taken] at none parsed
      obtain rfl : token = Option.none := none
      cases parsed
  | cons command operands =>
    obtain rfl := Option.some.inj ((parseRequest_of_fields read).symm.trans parsed)
    exact ⟨operands, rfl, rfl⟩

/-- A request whose command and operands are tokens is read back whole. -/
theorem parseRequest_requestText (command : Bytes) (operands : List Bytes)
    (isCommand : IsToken cmdDelimiter command)
    (tokens : ∀ operand ∈ operands, IsToken cmdDelimiter operand)
    (zeroFree : 0 ∉ requestText command operands) :
    parseRequest (requestText command operands) =
      some ⟨command, bindOperands command operands⟩ := by
  refine parseRequest_of_fields ?_
  rw [cString_of_zeroFree _ zeroFree]
  exact fields_requestText isCommand tokens

theorem zeroFree_requestText {command : Bytes} {operands : List Bytes} (commandFree : 0 ∉ command)
    (operandsFree : ∀ operand ∈ operands, 0 ∉ operand) : 0 ∉ requestText command operands := by
  have separator : 0 ∉ cmdDelimiter := by decide
  simp only [requestText, trailing, List.mem_append, List.mem_flatMap, not_or, not_exists, not_and]
  exact ⟨commandFree, fun operand member => ⟨separator, operandsFree operand member⟩⟩

/-- An operand that can be written in a request: a C string that the tokeniser returns whole. -/
structure Operand where
  text : Bytes
  isToken : IsToken cmdDelimiter text
  zeroFree : 0 ∉ text

/-- A request with operands that come through. -/
def Operand.request (command : Bytes) (operands : List Operand) : Bytes :=
  requestText command (operands.map Operand.text)

theorem Operand.parse_request {command : Bytes} (isCommand : IsToken cmdDelimiter command)
    (commandFree : 0 ∉ command) (operands : List Operand) :
    parseRequest (Operand.request command operands) =
      some ⟨command, bindOperands command (operands.map Operand.text)⟩ := by
  refine parseRequest_requestText command _ isCommand ?_ (zeroFree_requestText commandFree ?_)
  · intro text member
    obtain ⟨operand, _, rfl⟩ := List.mem_map.mp member
    exact operand.isToken
  · intro text member
    obtain ⟨operand, _, rfl⟩ := List.mem_map.mp member
    exact operand.zeroFree

/-- The two dates of a period come apart at the hyphen. -/
theorem splitPeriod_dates {startDate endDate : Bytes} (validStart : validateDateFormat startDate)
    (validEnd : validateDateFormat endDate) :
    splitPeriod (startDate ++ utf8 "-" ++ endDate) = some (startDate, endDate) := by
  obtain ⟨startLength, startDigits⟩ := digits_of_validateDateFormat validStart
  obtain ⟨endLength, endDigits⟩ := digits_of_validateDateFormat validEnd
  have nonempty : ∀ date : Bytes, date.length = 8 → date ≠ [] :=
    fun date length empty => by simp [empty] at length
  have hyphen : (45 : UInt8) ∉ startDate := fun member =>
    Bool.false_ne_true ((by decide : isDigit 45 = false).symm.trans (startDigits 45 member))
  have solid : ∀ byte ∈ endDate, isSpace byte = false := fun byte member =>
    isSpace_of_isDigit (endDigits byte member)
  have text : startDate ++ utf8 "-" ++ endDate = startDate ++ 45 :: endDate := by
    rw [show utf8 "-" = [45] by decide, List.append_assoc, List.singleton_append]
  rw [text, splitPeriod, scanUntil_append 45 10 startDate endDate (nonempty _ startLength) hyphen
    (by omega)]
  show ((scanWord 10 endDate).bind fun scanned => some (startDate, scanned.1)) = _
  rw [scanWord_eq 10 endDate (nonempty _ endLength) solid (by omega)]
  rfl

/-! ### The requests of the client -/

/-- A call of one of the client's handlers. -/
inductive HandlerCall where
  | login (id pw : Bytes)
  | register (id pw eduOffice schoolName : Bytes)
  | addUser (id pw eduOffice schoolName : Bytes)
  | updateUser (id pw eduOffice schoolName : Bytes)
  | deleteUser (id : Bytes)
  | meal (eduOffice schoolName date : Bytes)
  | mealsPeriod (eduOffice schoolName startDate endDate : Bytes)

namespace HandlerCall

/-- The text the handler sends, if it sends one. -/
def sent : HandlerCall → Option Bytes
  | login id pw => some (handleLogin id pw)
  | register id pw eduOffice schoolName => handleRegister id pw eduOffice schoolName
  | addUser id pw eduOffice schoolName => some (handleAddUser id pw eduOffice schoolName)
  | updateUser id pw eduOffice schoolName => some (handleUpdateUser id pw eduOffice schoolName)
  | deleteUser id => some (handleDeleteUser id)
  | meal eduOffice schoolName date => some (requestMeal eduOffice schoolName date)
  | mealsPeriod eduOffice schoolName startDate endDate =>
      some (requestMealsPeriod eduOffice schoolName startDate endDate)

/-- The operands the handler is called with. -/
def operands : HandlerCall → List Bytes
  | login id pw => [id, pw]
  | register id pw eduOffice schoolName | addUser id pw eduOffice schoolName
  | updateUser id pw eduOffice schoolName => [id, pw, eduOffice, schoolName]
  | deleteUser id => [id]
  | meal eduOffice schoolName date => [eduOffice, schoolName, date]
  | mealsPeriod eduOffice schoolName startDate endDate =>
      [eduOffice, schoolName, startDate, endDate]

def command : HandlerCall → Bytes
  | login .. => cmdLogin
  | register .. | addUser .. => cmdRegisterGeneral
  | updateUser .. => cmdUpdate
  | deleteUser .. => cmdDelete
  | meal .. => cmdGetMeal
  | mealsPeriod .. => cmdGetMultiMeal

/-- The fields of the request; the two dates of a period share one. -/
def fields : HandlerCall → List Bytes
  | mealsPeriod eduOffice schoolName startDate endDate =>
      [eduOffice, schoolName, startDate ++ utf8 "-" ++ endDate]
  | call => call.operands

/-- The dates of a period are accepted by `validate_date_format`. -/
def DatesValid : HandlerCall → Prop
  | mealsPeriod _ _ startDate endDate =>
      validateDateFormat startDate = true ∧ validateDateFormat endDate = true
  | _ => True

/-- The server has bound exactly the operands the handler was called with; a period is bound
when it splits into its dates. -/
def IsBound (call : HandlerCall) (request : Request) : Prop :=
  request.command = call.command ∧
    match call with
    | login id pw => request.operands = { Operands.null with id := some id, pw := some pw }
    | register id pw eduOffice schoolName | addUser id pw eduOffice schoolName
    | updateUser id pw eduOffice schoolName =>
        request.operands = { Operands.null with
          id := some id, pw := some pw, eduOffice := some eduOffice,
          schoolName := some schoolName }
    | deleteUser id => request.operands = { Operands.null with id := some id }
    | meal eduOffice schoolName date =>
        request.operands = { Operands.null with
          eduOffice := some eduOffice, schoolName := some schoolName, date := some date }
    | mealsPeriod eduOffice schoolName startDate endDate =>
        ∃ period, request.operands = { Operands.null with
            eduOffice := some eduOffice, schoolName := some schoolName, period := some period } ∧
          splitPeriod period = some (startDate, endDate)

theorem isToken_command (call : HandlerCall) :
    IsToken cmdDelimiter call.command ∧ 0 ∉ call.command := by
  have commands : ∀ command ∈ [cmdLogin, cmdRegisterGeneral, cmdUpdate, cmdDelete, cmdGetMeal,
      cmdGetMultiMeal], IsToken cmdDelimiter command ∧ 0 ∉ command := by decide
  cases call <;> exact commands _ (by simp [command])

/-- A request that fits the buffer is sent as it was formatted. -/
theorem sent_eq {call : HandlerCall} {text : Bytes} (sent : call.sent = some text)
    (fits : (requestText call.command call.fields).length ≤ bufferSize - 1) :
    text = requestText call.command call.fields := by
  rw [← snprintf_of_fits bufferSize _ fits]
  cases call with
  | register id pw eduOffice schoolName =>
    have formatted : handleRegister id pw eduOffice schoolName = some text := sent
    unfold handleRegister at formatted
    split at formatted
    · cases formatted
    · rw [← Option.some.inj formatted]
      simp [requestText, trailing, command, fields, operands]
  | _ =>
    rw [← Option.some.inj sent]
    simp [handleLogin, handleAddUser, handleUpdateUser, handleDeleteUser, requestMeal,
      requestMealsPeriod, requestText, trailing, command, fields, operands]

/-- A date is a token. -/
theorem isToken_of_date {date : Bytes} (valid : validateDateFormat date = true) :
    date ≠ [] ∧ 47 ∉ date := by
  obtain ⟨length, digits⟩ := digits_of_validateDateFormat valid
  refine ⟨fun empty => ?_, fun member => ?_⟩
  · rw [empty] at length
    cases length
  · exact Bool.false_ne_true ((by decide : isDigit 47 = false).symm.trans (digits 47 member))

/-- Operands that are tokens make fields that are. -/
theorem isToken_fields {call : HandlerCall}
    (tokens : ∀ operand ∈ call.operands, operand ≠ [] ∧ 47 ∉ operand) :
    ∀ field ∈ call.fields, IsToken cmdDelimiter field := by
  intro field member
  rw [isToken_iff]
  cases call with
  | mealsPeriod eduOffice schoolName startDate endDate =>
    have startToken := tokens startDate (by simp [operands])
    have endToken := tokens endDate (by simp [operands])
    simp only [fields, List.mem_cons, List.not_mem_nil, or_false] at member
    rcases member with rfl | rfl | rfl
    · exact tokens field (by simp [operands])
    · exact tokens field (by simp [operands])
    · have hyphen : (47 : UInt8) ∉ utf8 "-" := by decide
      simp [startToken, endToken, hyphen]
  | _ => exact tokens field member

theorem zeroFree_fields {call : HandlerCall} (zeroFree : ∀ operand ∈ call.operands, 0 ∉ operand) :
    ∀ field ∈ call.fields, 0 ∉ field := by
  intro field member
  cases call with
  | mealsPeriod eduOffice schoolName startDate endDate =>
    have startFree := zeroFree startDate (by simp [operands])
    have endFree := zeroFree endDate (by simp [operands])
    simp only [fields, List.mem_cons, List.not_mem_nil, or_false] at member
    rcases member with rfl | rfl | rfl
    · exact zeroFree field (by simp [operands])
    · exact zeroFree field (by simp [operands])
    · have hyphen : (0 : UInt8) ∉ utf8 "-" := by decide
      simp [startFree, endFree, hyphen]
  | _ => exact zeroFree field member

/-- The fields of a call, in the places where the server expects them, are its operands. -/
theorem isBound_fields {call : HandlerCall} (dates : call.DatesValid) :
    call.IsBound ⟨call.command, bindOperands call.command call.fields⟩ := by
  refine ⟨rfl, ?_⟩
  cases call with
  | mealsPeriod eduOffice schoolName startDate endDate =>
    exact ⟨_, rfl, splitPeriod_dates dates.1 dates.2⟩
  | _ => rfl

/-- The operands of a bound call are among those of the request, except the dates. -/
theorem isToken_of_isBound {call : HandlerCall} {request : Request} (dates : call.DatesValid)
    (bound : call.IsBound request)
    (tokens : ∀ operand ∈ request.operands.given, IsToken cmdDelimiter operand) :
    ∀ operand ∈ call.operands, operand ≠ [] ∧ 47 ∉ operand := by
  intro operand member
  have found : some operand ∈ [request.operands.id, request.operands.pw,
      request.operands.eduOffice, request.operands.schoolName, request.operands.date,
      request.operands.childId, request.operands.period] → operand ≠ [] ∧ 47 ∉ operand :=
    fun given => (isToken_iff operand).mp (tokens operand (List.reduceOption_mem_iff.mpr given))
  obtain ⟨_, placed⟩ := bound
  cases call with
  | mealsPeriod eduOffice schoolName startDate endDate =>
    obtain ⟨period, placed, _⟩ := placed
    rw [placed] at found
    simp only [HandlerCall.operands, List.mem_cons, List.not_mem_nil, or_false] at member
    rcases member with rfl | rfl | rfl | rfl
    · exact found (by simp)
    · exact found (by simp)
    · exact isToken_of_date dates.1
    · exact isToken_of_date dates.2
  | _ =>
    rw [placed] at found
    exact found (by simpa [HandlerCall.operands, Operands.null] using member)

/-- Operands that are tokens come through. -/
theorem bound_of_tokens {call : HandlerCall} {text : Bytes} (sent : call.sent = some text)
    (zeroFree : ∀ operand ∈ call.operands, 0 ∉ operand)
    (fits : (requestText call.command call.fields).length ≤ bufferSize - 1)
    (dates : call.DatesValid)
    (tokens : ∀ operand ∈ call.operands, operand ≠ [] ∧ 47 ∉ operand) :
    ∃ request, parseRequest text = some request ∧ call.IsBound request := by
  have parsed := parseRequest_requestText call.command call.fields (isToken_command call).1
    (isToken_fields tokens)
    (zeroFree_requestText (isToken_command call).2 (zeroFree_fields zeroFree))
  rw [← sent_eq sent fits] at parsed
  exact ⟨_, parsed, isBound_fields dates⟩

/-- The request loop binds exactly the operands a handler of the client was called with, if and
only if every operand is non-empty and free of slashes. -/
theorem isBound_iff (call : HandlerCall) (text : Bytes) (sent : call.sent = some text)
    (zeroFree : ∀ operand ∈ call.operands, 0 ∉ operand)
    (fits : (requestText call.command call.fields).length ≤ bufferSize - 1)
    (dates : call.DatesValid) :
    (∃ request, parseRequest text = some request ∧ call.IsBound request) ↔
      ∀ operand ∈ call.operands, operand ≠ [] ∧ 47 ∉ operand := by
  constructor
  · rintro ⟨request, parsed, bound⟩
    exact isToken_of_isBound dates bound (isToken_of_parseRequest parsed)
  · exact bound_of_tokens sent zeroFree fits dates

/-- A period request with two dates, bound as it was passed. -/
theorem isBound_mealsPeriod :
    (∃ request, parseRequest
        (requestMealsPeriod (utf8 "B10") (utf8 "7010569") (utf8 "20240603") (utf8 "20240607")) =
          some request ∧
      (mealsPeriod (utf8 "B10") (utf8 "7010569") (utf8 "20240603")
        (utf8 "20240607")).IsBound request) ↔
      ∀ operand ∈ (mealsPeriod (utf8 "B10") (utf8 "7010569") (utf8 "20240603")
        (utf8 "20240607")).operands, operand ≠ [] ∧ 47 ∉ operand :=
  isBound_iff (mealsPeriod (utf8 "B10") (utf8 "7010569") (utf8 "20240603") (utf8 "20240607"))
    _ rfl (by decide) (by decide) ⟨by decide, by decide⟩

end HandlerCall

end SchoolMeals
