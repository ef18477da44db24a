/-
This file models the handlers of the client: the session variables they write,
the meal queries, and the login with its reading of the reply. A handler formats
its request, sends it, and receives one reply.
-/

import SchoolMeals.Network
import SchoolMeals.Parsing

namespace SchoolMeals

open CText Interaction

/-! ### The session -/

/-- The session variables of `client.c`. -/
structure Session where
  currentUserId : Bytes
  currentUserRole : Bytes
  currentUserEduOffice : Bytes
  currentUserSchool : Bytes
  deriving DecidableEq

/-- The session variables before the first login. -/
def Session.empty : Session := ⟨[], [], [], []⟩

/-- The test of the main loop: without it the login menu is shown, with it a user menu. -/
def Session.loggedIn (session : Session) : Bool := session.currentUserId.length ≠ 0

/-- `handle_logout`. -/
def handleLogout : Session := Session.empty

/-! ### Meal queries -/

/-- The body of every meal query: send the text and hand on what `receive_response` says. -/
def mealQuery (text : Bytes) : Client (Bool × Bytes) := do
  if !(← sendData text) then return (false, communicationError)
  else receiveResponse

namespace Client

def getMealFromNeis (eduOffice schoolName date : Bytes) : Client (Bool × Bytes) :=
  mealQuery (requestMeal eduOffice schoolName date)

def getMealsPeriodFromNeis (eduOffice schoolName startDate endDate : Bytes) :
    Client (Bool × Bytes) :=
  mealQuery (requestMealsPeriod eduOffice schoolName startDate endDate)

def getChildMeal (parentId childId date : Bytes) : Client (Bool × Bytes) :=
  mealQuery (requestChildMeal parentId childId date)

def getChildMealsPeriod (parentId childId startDate endDate : Bytes) : Client (Bool × Bytes) :=
  mealQuery (requestChildMealsPeriod parentId childId startDate endDate)

end Client

/-! ### Login -/

/-- What `handle_login` returns, with the session variables and the response buffer it leaves. -/
structure LoginResult where
  returned : Bool
  session : Session
  response : Bytes
  deriving DecidableEq

/-- The end of `handle_login`: the identifier is written before the other tokens are read. -/
def readLogin (id : Bytes) (session : Session) (response : Bytes) : LoginResult :=
  let status := strtok cmdDelimiter response
  let left := cutByStrtok cmdDelimiter response
  if status.1.any (atoi · = respSuccess) then
    let session := { session with currentUserId := strncpy id (maxIdLen - 1) [] }
    let message := strtok cmdDelimiter status.2
    let eduOffice := strtok cmdDelimiter message.2
    let schoolName := strtok cmdDelimiter eduOffice.2
    let role := strtok cmdDelimiter schoolName.2
    match eduOffice.1, schoolName.1, role.1 with
    | some eduOffice, some schoolName, some role =>
      ⟨true, { session with
        currentUserEduOffice := strncpy eduOffice (maxEduOfficeLen - 1) []
        currentUserSchool := strncpy schoolName (maxSchoolNameLen - 1) []
        currentUserRole := strncpy role (maxRoleLen - 1) [] }, left⟩
    | _, _, _ => ⟨false, session, left⟩
  else ⟨false, session, left⟩

def responseFailed : Bytes := utf8 "서버 응답 수신 실패"

def Client.handleLogin (id pw : Bytes) (session : Session) : Client LoginResult := do
  if !(← sendData (SchoolMeals.handleLogin id pw)) then
    return ⟨false, session, communicationError⟩
  else
    let response ← receiveResponse
    if !response.1 then return ⟨false, session, responseFailed⟩
    else return readLogin id session response.2

/-! ### Reading the reply to a login -/

/-- The session variables after a login with these tokens. -/
def loginSession (id eduOffice schoolName role : Bytes) : Session where
  currentUserId := strncpy id (maxIdLen - 1) []
  currentUserRole := strncpy role (maxRoleLen - 1) []
  currentUserEduOffice := strncpy eduOffice (maxEduOfficeLen - 1) []
  currentUserSchool := strncpy schoolName (maxSchoolNameLen - 1) []

/-- The first token of a response is the status of a success. -/
def tellsSuccess (response : Bytes) : Bool :=
  (fields cmdDelimiter response).head?.any (atoi · = respSuccess)

section ReadLogin

variable (id : Bytes) (session : Session) {response : Bytes}

theorem readLogin_of_refused (refused : tellsSuccess response = false) :
    readLogin id session response = ⟨false, session, cutByStrtok cmdDelimiter response⟩ := by
  rw [readLogin, (fields_strtok cmdDelimiter response).1]
  exact if_neg (Bool.eq_false_iff.mp refused)

/-- The tokens of a success, in the order of the calls. -/
theorem readLogin_of_success (success : tellsSuccess response = true) :
    readLogin id session response =
      match (fields cmdDelimiter response)[2]?, (fields cmdDelimiter response)[3]?,
        (fields cmdDelimiter response)[4]? with
      | some eduOffice, some schoolName, some role =>
        ⟨true, loginSession id eduOffice schoolName role, cutByStrtok cmdDelimiter response⟩
      | _, _, _ => ⟨false, { session with currentUserId := strncpy id (maxIdLen - 1) [] },
          cutByStrtok cmdDelimiter response⟩ := by
  have taken : ∀ text, (strtok cmdDelimiter text).1 = (fields cmdDelimiter text)[0]? :=
    fun text => (fields_strtok _ text).1.trans List.head?_eq_getElem?
  have later : ∀ text, fields cmdDelimiter (strtok cmdDelimiter text).2 =
      (fields cmdDelimiter text).tail := fun text => (fields_strtok _ text).2
  rw [tellsSuccess, List.head?_eq_getElem?] at success
  simp only [readLogin, taken, later, List.getElem?_tail, Nat.zero_add, Nat.reduceAdd, success,
    if_true]
  cases (fields cmdDelimiter response)[2]? with
  | none => rfl
  | some eduOffice =>
    cases (fields cmdDelimiter response)[3]? with
    | none => rfl
    | some schoolName => cases (fields cmdDelimiter response)[4]? <;> rfl

theorem readLogin_of_short (success : tellsSuccess response = true)
    (short : (fields cmdDelimiter response).length < 5) :
    readLogin id session response =
      ⟨false, { session with currentUserId := strncpy id (maxIdLen - 1) [] },
        cutByStrtok cmdDelimiter response⟩ := by
  have missing : (fields cmdDelimiter response)[4]? = none :=
    List.getElem?_eq_none (Nat.le_of_lt_succ short)
  rw [readLogin_of_success id session success, missing]
  cases (fields cmdDelimiter response)[2]? with
  | none => rfl
  | some eduOffice => cases (fields cmdDelimiter response)[3]? <;> rfl

theorem readLogin_of_fields {status message eduOffice schoolName role : Bytes} {more : List Bytes}
    (read : fields cmdDelimiter response =
      status :: message :: eduOffice :: schoolName :: role :: more)
    (success : atoi status = respSuccess) :
    readLogin id session response =
      ⟨true, loginSession id eduOffice schoolName role, cutByStrtok cmdDelimiter response⟩ := by
  have reported : tellsSuccess response = true := by
    rw [tellsSuccess, read]
    exact decide_eq_true success
  rw [readLogin_of_success id session reported, read]
  rfl

theorem exists_five {tokens : List Bytes} (enough : 5 ≤ tokens.length) :
    ∃ status message eduOffice schoolName role more,
      tokens = status :: message :: eduOffice :: schoolName :: role :: more := by
  refine ⟨tokens[0], tokens[1], tokens[2], tokens[3], tokens[4], tokens.drop 5, ?_⟩
  rw [List.getElem_cons_drop, List.getElem_cons_drop, List.getElem_cons_drop,
    List.getElem_cons_drop, List.getElem_cons_drop, List.drop_zero]

/-- A login that returns true has read five tokens and written four of them. -/
theorem fields_of_returned (returned : (readLogin id session response).returned = true) :
    ∃ status message eduOffice schoolName role more,
      fields cmdDelimiter response = status :: message :: eduOffice :: schoolName :: role :: more ∧
        (readLogin id session response).session = loginSession id eduOffice schoolName role := by
  cases success : tellsSuccess response with
  | false =>
    rw [readLogin_of_refused id session success] at returned
    cases returned
  | true =>
    by_cases short : (fields cmdDelimiter response).length < 5
    · rw [readLogin_of_short id session success short] at returned
      cases returned
    · obtain ⟨status, message, eduOffice, schoolName, role, more, read⟩ :=
        exists_five (Nat.not_lt.mp short)
      have isSuccess : atoi status = respSuccess := by
        rw [tellsSuccess, read] at success
        exact of_decide_eq_true success
      refine ⟨status, message, eduOffice, schoolName, role, more, read, ?_⟩
      rw [readLogin_of_fields id session read isSuccess]

end ReadLogin

/-- A network failure, or the reading of the response, ends a login. -/
theorem run_handleLogin {Remote : Type} (react : Bytes → Remote → List Bytes × Remote)
    (id pw : Bytes) (session : Session) (wire : Wire Remote) {response : Bytes}
    {after : Wire Remote}
    (received : Program.run (Wire.answer react) receiveResponse
      (wire.deliver react (handleLogin id pw)) = (some (true, response), after)) :
    Program.run (Wire.answer react) (Client.handleLogin id pw session) wire =
      (some (readLogin id session response), after) := by
  have nonempty : handleLogin id pw ≠ [] := by
    simp only [handleLogin, List.append_assoc]
    exact List.cons_ne_nil _ _
  rw [Client.handleLogin, Program.run_bind_of_some _ _ (run_sendData react nonempty wire)]
  show Program.run _ (receiveResponse >>= _) _ = _
  rw [Program.run_bind_of_some _ _ received]
  rfl

/-! ### What a meal query returns -/

/-- The reply to whatever is sent, in one piece. -/
def answeredBy (reply : Reply) (_ : Bytes) (remote : Unit) : List Bytes × Unit :=
  ([reply.text], remote)

/-- The text of a meal query fills the buffer or less, and is never empty. -/
theorem run_mealQuery {text : Bytes} (nonempty : text ≠ []) {reply : Reply}
    (wellFormed : reply.WellFormed) :
    Program.run (Wire.answer (answeredBy reply)) (mealQuery text) ⟨[], ()⟩ =
      (some (true, reply.text), ⟨[], ()⟩) := by
  rw [mealQuery, Program.run_bind_of_some _ _ (run_sendData (answeredBy reply) nonempty ⟨[], ()⟩)]
  exact receives_chunk (answeredBy reply) [] () wellFormed.text_eq.2.1 wellFormed.text_eq.2.2
    wellFormed.complete

/-- A call of one of the client's four meal queries. -/
inductive MealQuery where
  | meal (eduOffice schoolName date : Bytes)
  | mealsPeriod (eduOffice schoolName startDate endDate : Bytes)
  | childMeal (parentId childId date : Bytes)
  | childMealsPeriod (parentId childId startDate endDate : Bytes)

namespace MealQuery

def program : MealQuery → Client (Bool × Bytes)
  | meal eduOffice schoolName date => Client.getMealFromNeis eduOffice schoolName date
  | mealsPeriod eduOffice schoolName startDate endDate =>
    Client.getMealsPeriodFromNeis eduOffice schoolName startDate endDate
  | childMeal parentId childId date => Client.getChildMeal parentId childId date
  | childMealsPeriod parentId childId startDate endDate =>
    Client.getChildMealsPeriod parentId childId startDate endDate

/-- What the handler returns when this reply arrives whole. -/
def returned (query : MealQuery) (reply : Reply) : Option Bool :=
  (Program.run (Wire.answer (answeredBy reply)) query.program ⟨[], ()⟩).1.map Prod.fst

theorem program_eq (query : MealQuery) : ∃ text, text ≠ [] ∧ query.program = mealQuery text := by
  have written : ∀ command rest : Bytes, command ≠ [] →
      snprintf bufferSize (command ++ rest) ≠ [] := by
    intro command rest nonempty empty
    cases command with
    | nil => exact nonempty rfl
    | cons byte command => cases empty
  cases query with
  | meal eduOffice schoolName date =>
    refine ⟨_, ?_, rfl⟩
    simp only [requestMeal, List.append_assoc]
    exact written cmdGetMeal _ (by decide)
  | mealsPeriod eduOffice schoolName startDate endDate =>
    refine ⟨_, ?_, rfl⟩
    simp only [requestMealsPeriod, List.append_assoc]
    exact written cmdGetMultiMeal _ (by decide)
  | childMeal parentId childId date =>
    refine ⟨_, ?_, rfl⟩
    simp only [requestChildMeal, List.append_assoc]
    exact written cmdChildMeal _ (by decide)
  | childMealsPeriod parentId childId startDate endDate =>
    refine ⟨_, ?_, rfl⟩
    simp only [requestChildMealsPeriod, List.append_assoc]
    exact written cmdChildMultiMeal _ (by decide)

/-- Every whole reply counts as meal information: a meal query returns what `receive_response`
returns and does not look at the status. -/
theorem returned_eq (query : MealQuery) {reply : Reply} (wellFormed : reply.WellFormed) :
    query.returned reply = some true := by
  obtain ⟨text, nonempty, program⟩ := query.program_eq
  rw [returned, program, run_mealQuery nonempty wellFormed]
  rfl

/-- A meal query tells success from error if and only if the reply is a success. -/
theorem reports_iff (query : MealQuery) (reply : Reply) (wellFormed : reply.WellFormed) :
    (query.returned reply = some true ↔ reply.status = respSuccess) ↔
      reply.status = respSuccess := by
  rw [query.returned_eq wellFormed]
  exact ⟨fun reports => reports.mp rfl, fun successful => iff_of_true rfl successful⟩

/-- A query for a meal that is found. -/
theorem reports_sample :
    ((meal (utf8 "B10") (utf8 "7010569") (utf8 "20240603")).returned
        ⟨respSuccess, mealFound, utf8 "rice"⟩ = some true ↔ respSuccess = respSuccess) ↔
      respSuccess = respSuccess :=
  reports_iff (meal (utf8 "B10") (utf8 "7010569") (utf8 "20240603"))
    ⟨respSuccess, mealFound, utf8 "rice"⟩ ⟨by decide, by decide, by decide⟩

/-- A meal the server does not find is presented as meal information. -/
theorem not_reports_missing :
    ¬ ((meal (utf8 "B10") (utf8 "7010569") (utf8 "20240603")).returned
        ⟨respError, errMealNotFound, []⟩ = some true ↔ respError = respSuccess) := by
  decide

end MealQuery

/-! ### The requests of the parent menu -/

/-- The server reads a `CHILD_MEAL` request of the client as it was meant. -/
def ChildMealRead (parentId childId date : Bytes) : Prop :=
  ∃ request, parseRequest (requestChildMeal parentId childId date) = some request ∧
    request.operands.id = some parentId ∧ request.operands.childId = some childId ∧
    request.operands.date = some date

/-- The server reads a `CHILD_MULTI_MEAL` request of the client as it was meant. -/
def ChildMealsPeriodRead (parentId childId startDate endDate : Bytes) : Prop :=
  ∃ request, parseRequest (requestChildMealsPeriod parentId childId startDate endDate) =
      some request ∧
    request.operands.id = some parentId ∧ request.operands.childId = some childId ∧
    ∃ period, request.operands.period = some period ∧
      splitPeriod period = some (startDate, endDate)

/-- The server reads a child from the sixth operand. -/
theorem childId_bindOperands {command : Bytes} {operands : List Bytes}
    (short : operands.length ≤ 5) : (bindOperands command operands).childId = none := by
  unfold bindOperands
  split
  · rfl
  · split
    · rfl
    · exact List.getElem?_eq_none short

/-- However the buffer cuts it, a request with at most five operands carries no child. -/
theorem childId_of_short {command : Bytes} {operands : List Bytes}
    (isCommand : IsToken cmdDelimiter command)
    (tokens : ∀ operand ∈ operands, IsToken cmdDelimiter operand) (short : operands.length ≤ 5)
    {request : Request}
    (parsed : parseRequest (snprintf bufferSize (requestText command operands)) = some request) :
    request.operands.childId = none := by
  obtain ⟨read, fieldsRead, bound⟩ := fields_of_parseRequest parsed
  have all := fields_requestText isCommand tokens
  have terminated : cString (snprintf bufferSize (requestText command operands)) <+:
      requestText command operands :=
    (List.takeWhile_prefix _).trans (List.take_prefix _ _)
  obtain ⟨more, split⟩ := terminated
  have fewer := length_fields_append cmdDelimiter
    (cString (snprintf bufferSize (requestText command operands))) more
  rw [split, all, fieldsRead] at fewer
  rw [bound]
  exact childId_bindOperands ((Nat.le_of_succ_le_succ fewer).trans short)

/-- The client writes the child where the server expects a password, so neither of its requests
for the meals of a child is ever read as it was meant. -/
theorem not_childMealRead (parentId childId date startDate endDate : Bytes)
    (parentToken : parentId ≠ [] ∧ 47 ∉ parentId) (childToken : childId ≠ [] ∧ 47 ∉ childId)
    (validDate : validateDateFormat date = true) (validStart : validateDateFormat startDate = true)
    (validEnd : validateDateFormat endDate = true) :
    ¬ ChildMealRead parentId childId date ∧
      ¬ ChildMealsPeriodRead parentId childId startDate endDate := by
  have token : ∀ text : Bytes, text ≠ [] ∧ 47 ∉ text → IsToken cmdDelimiter text :=
    fun text => (isToken_iff text).mpr
  have dateToken : ∀ text : Bytes, validateDateFormat text = true → IsToken cmdDelimiter text :=
    fun text valid => token text (HandlerCall.isToken_of_date valid)
  constructor
  · rintro ⟨request, parsed, _, child, _⟩
    have written : requestChildMeal parentId childId date =
        snprintf bufferSize (requestText cmdChildMeal [parentId, childId, date]) := by
      simp [requestChildMeal, requestText, trailing]
    rw [written] at parsed
    have missing := childId_of_short (by decide)
      (by simp [token _ parentToken, token _ childToken, dateToken _ validDate]) (by simp) parsed
    exact Option.some_ne_none _ (child.symm.trans missing)
  · rintro ⟨request, parsed, _, child, _⟩
    have written : requestChildMealsPeriod parentId childId startDate endDate =
        snprintf bufferSize
          (requestText cmdChildMultiMeal [parentId, childId, startDate, endDate]) := by
      simp [requestChildMealsPeriod, requestText, trailing]
    rw [written] at parsed
    have missing := childId_of_short (by decide)
      (by simp [token _ parentToken, token _ childToken, dateToken _ validStart,
        dateToken _ validEnd]) (by simp) parsed
    exact Option.some_ne_none _ (child.symm.trans missing)

/-- Two users and a week. -/
theorem not_childMealRead_sample :
    ¬ ChildMealRead (utf8 "parent1") (utf8 "child1") (utf8 "20240603") ∧
      ¬ ChildMealsPeriodRead (utf8 "parent1") (utf8 "child1") (utf8 "20240603")
        (utf8 "20240607") :=
  not_childMealRead (utf8 "parent1") (utf8 "child1") (utf8 "20240603") (utf8 "20240603")
    (utf8 "20240607") (by decide) (by decide) (by decide) (by decide) (by decide)

/-- What the server makes of a `CHILD_MEAL` request: the child is the password, the date the
education office. -/
theorem childMeal_misread :
    ¬ ChildMealRead (utf8 "parent1") (utf8 "child1") (utf8 "20240603") := by
  rintro ⟨request, parsed, _, child, _⟩
  obtain rfl := Option.some.inj parsed
  exact absurd child (by decide)

end SchoolMeals
