/-
This file follows the client over whole runs, with any input, any network and
any replies. The bytes of a pass on the wire are the front of one request, and
the server reads that request as it was meant as soon as what the user typed
freely is made of tokens. The session changes by logging in and out only, and a
parent who is logged in stays so, without a further word to the server.
-/

import SchoolMeals.Library.Footprint
import SchoolMeals.Requests
import SchoolMeals.Sending

namespace SchoolMeals

open CText Interaction Transition

/-! ### What a pass says -/

def ClientCall.speaks : ClientCall → Bool
  | .send _ => true
  | .selectWrite => false
  | .selectRead => false
  | .recv _ => false

/-- The program sends nothing, whatever it is answered. -/
abbrev Listens {Result : Type} (program : Client Result) : Prop :=
  Within (fun request => request.speaks = false) program

section Listens

theorem listens_receiveLoop (rounds : Nat) (buffer : Bytes) :
    Listens (receiveLoop rounds buffer) := by
  induction rounds generalizing buffer with
  | zero => trivial
  | succ rounds inductionHypothesis =>
    refine within_ite (fun _ => ⟨rfl, fun answer => ?_⟩) fun _ => trivial
    cases answer with
    | none => trivial
    | some chunk =>
      exact within_ite (fun _ => trivial) fun _ => within_ite (fun _ => trivial) fun _ =>
        inductionHypothesis _

theorem listens_receiveResponse : Listens receiveResponse := by
  refine ⟨rfl, fun ready => within_ite (fun _ => trivial) fun _ => ?_⟩
  exact within_bind (listens_receiveLoop _ _) fun _ => trivial

/-- Nothing is accepted of a program that sends nothing. -/
theorem Listens.accepted {Result : Type} {program last : Client Result}
    {path : List ClientExchange} (walked : Program.Path program path last)
    (listens : Listens program) : path.flatMap ClientExchange.accepted = [] := by
  rw [List.flatMap_eq_nil_iff]
  rintro ⟨request, answer⟩ member
  have only : Only (fun _ _ => True) (fun request : ClientCall => request.speaks = false)
      program := listens.only
  have quiet := only.of_path walked (fun _ _ => trivial) _ member
  cases request with
  | send data => cases quiet
  | selectWrite => rfl
  | selectRead => rfl
  | recv room => rfl

end Listens

/-- A program that sends a text and then listens puts the front of the text on the wire. -/
theorem front_of_sendData {Result : Type} {text : Bytes} {next : Bool → Client Result}
    (listens : ∀ sent, Listens (next sent)) {path : List ClientExchange} {last : Client Result}
    (walked : Program.Path (sendData text >>= next) path last) :
    path.flatMap ClientExchange.accepted <+: text := by
  have sends : ∀ {part : List ClientExchange} {middle : Client Bool},
      Program.Path (sendData text) part middle →
        part.flatMap ClientExchange.accepted <+: text := by
    intro part middle sending
    rw [sendData_eq] at sending
    have front := (sends_of_path (Nat.le_refl _) sending).front
    rwa [unsent, List.drop_zero, List.take_length] at front
  rcases walked.bind_cases with ⟨middle, sending, _⟩ | ⟨sent, first, second, rfl, sending, later⟩
  · exact sends sending
  · rw [List.flatMap_append, (listens sent).accepted later, List.append_nil]
    exact sends sending

section Handlers

variable {Result : Type}

/-- The program sends a text and then listens. -/
def Asks (text : Bytes) (program : Client Result) : Prop :=
  ∃ next : Bool → Client Result, program = (sendData text >>= next) ∧ ∀ sent, Listens (next sent)

theorem asks_exchange {Read : Type} (text : Bytes) (unsent unanswered : Read)
    (read : Bytes → Read) (next : Read → Result) :
    Asks text (exchange text unsent unanswered read >>= fun given => .finished (next given)) := by
  rw [exchange, Program.bind_assoc]
  refine ⟨_, rfl, fun sent => ?_⟩
  cases sent with
  | false => trivial
  | true =>
    refine within_bind (within_bind listens_receiveResponse fun response => ?_) fun _ => trivial
    exact within_ite (fun _ => trivial) fun _ => trivial

theorem asks_mealQuery (text : Bytes) (next : Bool × Bytes → Result) :
    Asks text (mealQuery text >>= fun given => .finished (next given)) := by
  rw [mealQuery, Program.bind_assoc]
  refine ⟨_, rfl, fun sent => ?_⟩
  cases sent with
  | false => trivial
  | true => exact within_bind listens_receiveResponse fun _ => trivial

theorem asks_handleLogin (id pw : Bytes) (session : Session) (next : LoginResult → Result) :
    Asks (handleLogin id pw)
      (Client.handleLogin id pw session >>= fun given => .finished (next given)) := by
  rw [Client.handleLogin, Program.bind_assoc]
  refine ⟨_, rfl, fun sent => ?_⟩
  cases sent with
  | false => trivial
  | true =>
    refine within_bind (within_bind listens_receiveResponse fun response => ?_) fun _ => trivial
    exact within_ite (fun _ => trivial) fun _ => trivial

end Handlers

/-- A call of a handler sends its request, if it has one. -/
theorem asks_perform {call : HandlerCall} {text : Bytes} (sent : call.sent = some text)
    (array : ResponseArray) (session : Session) : Asks text (call.perform array session) := by
  cases call with
  | register id pw eduOffice schoolName =>
    have request : handleRegister id pw eduOffice schoolName = some text := sent
    rw [HandlerCall.perform, Client.handleRegister, request]
    exact asks_exchange text _ _ _ _
  | login id pw =>
    cases sent
    exact asks_handleLogin id pw session _
  | addUser | updateUser | deleteUser =>
    cases sent
    exact asks_exchange _ _ _ _ _
  | meal | mealsPeriod =>
    cases sent
    exact asks_mealQuery _ _

theorem perform_unsent {call : HandlerCall} (unsent : call.sent = none) (array : ResponseArray)
    (session : Session) : call.perform array session = .finished ⟨session, false⟩ := by
  cases call with
  | register id pw eduOffice schoolName =>
    have none : handleRegister id pw eduOffice schoolName = none := unsent
    show (Client.handleRegister array id pw eduOffice schoolName >>= _) = _
    unfold Client.handleRegister
    rw [none]
    rfl
  | login | addUser | updateUser | deleteUser | meal | mealsPeriod => cases unsent

/-- The text of the request that a pass makes. -/
def MenuAction.text : MenuAction → Bytes
  | calls call => call.sent.getD []
  | logout | nothing | exit => []

/-- What is accepted of a call is the front of its request. -/
theorem front_perform {array : ResponseArray} {session : Session} {call : HandlerCall}
    {path : List ClientExchange} {last : Client PassResult}
    (walked : Program.Path (call.perform array session) path last) :
    path.flatMap ClientExchange.accepted <+: call.sent.getD [] := by
  cases sent : call.sent with
  | none =>
    rw [perform_unsent sent] at walked
    rw [Program.path_finished walked]
    exact List.nil_prefix
  | some text =>
    obtain ⟨next, same, listens⟩ := asks_perform sent array session
    rw [same] at walked
    exact front_of_sendData listens walked

/-! ### What a pass does to the session -/

/-- What becomes of the session in a pass that ends. -/
inductive SessionEffect (session : Session) (path : List ClientExchange) :
    MenuAction → Session → Prop where
  | login {id pw : Bytes} {result : LoginResult}
      (walked : Program.Path (Client.handleLogin id pw session) path (.finished result)) :
      SessionEffect session path (.calls (.login id pw)) result.session
  | other {call : HandlerCall} (noLogin : ∀ id pw, call ≠ .login id pw) :
      SessionEffect session path (.calls call) session
  | logout (silent : path = []) : SessionEffect session path .logout handleLogout
  | nothing (silent : path = []) : SessionEffect session path .nothing session
  | exit (silent : path = []) : SessionEffect session path .exit session

/-- A program that ends with what its first part makes of a result has ended that part. -/
theorem path_map_finished {First Last : Type} {program : Client First} {next : First → Last}
    {path : List ClientExchange} {result : Last}
    (walked : Program.Path (program >>= fun given => .finished (next given)) path
      (.finished result)) :
    ∃ given, Program.Path program path (.finished given) ∧ next given = result := by
  obtain ⟨given, first, second, rfl, opening, ending⟩ := walked.of_bind
  obtain ⟨rfl, same⟩ := Program.result_of_path_finished ending
  rw [List.append_nil]
  exact ⟨given, opening, same⟩

theorem effect_of_perform {array : ResponseArray} {session : Session} {action : MenuAction}
    {path : List ClientExchange} {result : PassResult}
    (walked : Program.Path (action.perform array session) path (.finished result)) :
    SessionEffect session path action result.session := by
  cases action with
  | calls call =>
    cases call with
    | login id pw =>
      obtain ⟨login, opening, rfl⟩ := path_map_finished walked
      exact .login opening
    | register id pw eduOffice schoolName | addUser id pw eduOffice schoolName
    | updateUser id pw eduOffice schoolName | deleteUser id | meal eduOffice schoolName date
    | mealsPeriod eduOffice schoolName startDate endDate =>
      obtain ⟨given, -, rfl⟩ := path_map_finished walked
      exact .other nofun
  | logout =>
    obtain ⟨silent, rfl⟩ := Program.result_of_path_finished walked
    exact .logout silent
  | nothing =>
    obtain ⟨silent, rfl⟩ := Program.result_of_path_finished walked
    exact .nothing silent
  | exit =>
    obtain ⟨silent, rfl⟩ := Program.result_of_path_finished walked
    exact .exit silent

/-- The session variables end in their arrays. -/
structure Session.Ends (session : Session) : Prop where
  id : EndsWithin maxIdLen session.currentUserId
  role : EndsWithin maxRoleLen session.currentUserRole
  eduOffice : EndsWithin maxEduOfficeLen session.currentUserEduOffice
  school : EndsWithin maxSchoolNameLen session.currentUserSchool

theorem Session.Ends.empty : Session.empty.Ends := ⟨by decide, by decide, by decide, by decide⟩

/-- A bounded copy into a variable of the client ends in it. -/
theorem endsWithin_strncpy {source : Bytes} (zeroFree : 0 ∉ source) {size : Nat}
    (room : 0 < size) : EndsWithin size (strncpy source (size - 1) []) := by
  rw [strncpy_zeroed]
  exact ⟨fun zero => zeroFree (List.mem_of_mem_take zero),
    Nat.lt_of_le_of_lt (List.length_take_le _ _) (Nat.sub_one_lt_of_lt room)⟩

theorem ends_readLogin {id response : Bytes} {session : Session} (ends : session.Ends)
    (idFree : 0 ∉ id) (responseFree : 0 ∉ response) :
    (readLogin id session response).session.Ends := by
  have tokenFree : ∀ token ∈ fields cmdDelimiter response, 0 ∉ token :=
    fun token member zero => responseFree (subset_of_mem_fields cmdDelimiter member zero)
  have idEnds : EndsWithin maxIdLen (strncpy id (maxIdLen - 1) []) :=
    endsWithin_strncpy idFree (by decide)
  cases success : tellsSuccess response with
  | false =>
    rw [readLogin_of_refused id session success]
    exact ends
  | true =>
    by_cases short : (fields cmdDelimiter response).length < 5
    · rw [readLogin_of_short id session success short]
      exact ⟨idEnds, ends.role, ends.eduOffice, ends.school⟩
    · obtain ⟨status, message, eduOffice, schoolName, role, more, read⟩ :=
        exists_five (Nat.not_lt.mp short)
      have isSuccess : atoi status = respSuccess := by
        rw [tellsSuccess, read] at success
        exact of_decide_eq_true success
      rw [read] at tokenFree
      rw [readLogin_of_fields id session read isSuccess]
      exact ⟨idEnds, endsWithin_strncpy (tokenFree role (by simp)) (by decide),
        endsWithin_strncpy (tokenFree eduOffice (by simp)) (by decide),
        endsWithin_strncpy (tokenFree schoolName (by simp)) (by decide)⟩

theorem zeroFree_replyOf {path : List ClientExchange} {response : Bytes}
    (replied : replyOf path = some response) : 0 ∉ response := by
  rw [replyOf] at replied
  split at replied
  · cases replied
  · split at replied
    · cases replied
    · rw [← Option.some.inj replied]
      exact zeroFree_cString _

theorem ends_of_effect {session after : Session} {path : List ClientExchange}
    {action : MenuAction} (effect : SessionEffect session path action after)
    (allowed : action.Allowed session) (ends : session.Ends) : after.Ends := by
  cases effect with
  | @login id pw result walked =>
    have ended := path_handleLogin walked
    cases replied : replyOf path with
    | none =>
      rw [replied] at ended
      rw [ended.2]
      exact ends
    | some response =>
      rw [replied] at ended
      rw [ended]
      cases allowed with
      | login _ idEnds _ => exact ends_readLogin ends idEnds.1 (zeroFree_replyOf replied)
  | other => exact ends
  | logout => exact .empty
  | nothing => exact ends
  | exit => exact ends

/-! ### How the server reads a pass -/

/-- The operands of a call that no menu checks. -/
def HandlerCall.typed : HandlerCall → List Bytes
  | login id pw => [id, pw]
  | register _ _ _ schoolName | addUser _ _ _ schoolName | updateUser _ _ _ schoolName =>
    [schoolName]
  | deleteUser _ => []
  | meal eduOffice schoolName date => [eduOffice, schoolName, date]
  | mealsPeriod eduOffice schoolName _ _ => [eduOffice, schoolName]

theorem EndsWithin.mono {size wider : Nat} {text : Bytes} (ends : EndsWithin size text)
    (within : size ≤ wider) : EndsWithin wider text :=
  ⟨ends.1, Nat.lt_of_lt_of_le ends.2 within⟩

section Checked

variable {text : Bytes}

theorem endsWithin_of_isValidId (valid : isValidId text = true) : EndsWithin maxIdLen text :=
  ⟨plain_of_isValidId valid 0 (by decide),
    Nat.lt_of_le_of_lt ((isValidId_iff text).mp valid).2.1 (by decide)⟩

theorem endsWithin_of_isValidPassword (valid : isValidPassword text = true) :
    EndsWithin maxPwLen text :=
  ⟨plain_of_isValidPassword valid 0 (by decide),
    Nat.lt_of_le_of_lt ((isValidPassword_iff text).mp valid).1.le (by decide)⟩

theorem endsWithin_of_validDate (valid : validateDateFormat text = true) :
    EndsWithin dateSize text := by
  obtain ⟨length, digits⟩ := digits_of_validateDateFormat valid
  exact ⟨plain_of_isAlnum (fun byte member => isAlnum_of_isDigit (digits byte member)) 0
    (by decide), Nat.lt_of_le_of_lt length.le (by decide)⟩

theorem token_of_isValidId (valid : isValidId text = true) : text ≠ [] ∧ 47 ∉ text :=
  ⟨List.ne_nil_of_length_pos (Nat.lt_of_lt_of_le (by decide) ((isValidId_iff text).mp valid).1),
    plain_of_isValidId valid 47 (by decide)⟩

theorem token_of_isValidPassword (valid : isValidPassword text = true) :
    text ≠ [] ∧ 47 ∉ text :=
  ⟨List.ne_nil_of_length_pos
      (Nat.lt_of_lt_of_le (by decide) ((isValidPassword_iff text).mp valid).1.ge),
    plain_of_isValidPassword valid 47 (by decide)⟩

theorem token_of_isValidEduOffice (valid : isValidEduOffice text = true) :
    text ≠ [] ∧ 47 ∉ text := by
  obtain ⟨office, isOffice, same⟩ := List.any_eq_true.mp valid
  have tokens : ∀ office ∈ validEduOffices, office ≠ [] ∧ 47 ∉ office := by decide
  rw [of_decide_eq_true same]
  exact tokens office isOffice

theorem token_of_getEduOfficeCode (known : (getEduOfficeCode text).isSome = true) :
    text ≠ [] ∧ 47 ∉ text := by
  obtain ⟨code, found⟩ := Option.isSome_iff_exists.mp known
  obtain ⟨entry, isEntry, -⟩ := Option.map_eq_some_iff.mp found
  have tokens : ∀ entry ∈ eduOfficeMap, entry.1 ≠ [] ∧ 47 ∉ entry.1 := by decide
  have same : entry.1 = text := by simpa using List.find?_some isEntry
  rw [← same]
  exact tokens entry (List.mem_of_find?_eq_some isEntry)

end Checked

section Read

variable {session : Session} {call : HandlerCall}

/-- Every operand of a call ends in an array of the client. -/
theorem ends_operands (allowed : call.Allowed session) (ends : session.Ends) :
    ∀ operand ∈ call.operands, EndsWithin 50 operand := by
  have short : maxIdLen ≤ 50 ∧ maxPwLen ≤ 50 ∧ dateSize ≤ 50 := by decide
  cases allowed with
  | login _ idEnds pwEnds =>
    simpa [HandlerCall.operands] using ⟨idEnds.mono short.1, pwEnds.mono short.2.1⟩
  | register _ idValid pwValid office school =>
    simpa [HandlerCall.operands] using ⟨(endsWithin_of_isValidId idValid).mono short.1,
      (endsWithin_of_isValidPassword pwValid).mono short.2.1, office, school⟩
  | addUser _ account | updateUser _ account =>
    simpa [HandlerCall.operands] using ⟨(endsWithin_of_isValidId account.id).mono short.1,
      (endsWithin_of_isValidPassword account.pw).mono short.2.1, account.office.2,
      account.school.2⟩
  | deleteUser _ idValid =>
    simpa [HandlerCall.operands] using (endsWithin_of_isValidId idValid).mono short.1
  | ownMeal _ valid =>
    simpa [HandlerCall.operands] using
      ⟨ends.eduOffice, ends.school, (endsWithin_of_validDate valid).mono short.2.2⟩
  | otherMeal _ office school dateEnds =>
    simpa [HandlerCall.operands] using ⟨office, school, dateEnds.mono short.2.2⟩
  | ownMeals _ period =>
    simpa [HandlerCall.operands] using ⟨ends.eduOffice, ends.school,
      (endsWithin_of_validDate period.start).mono short.2.2,
      (endsWithin_of_validDate period.finish).mono short.2.2⟩
  | otherMeals _ office school period =>
    simpa [HandlerCall.operands] using ⟨office, school,
      (endsWithin_of_validDate period.start).mono short.2.2,
      (endsWithin_of_validDate period.finish).mono short.2.2⟩

theorem fits_of_ends (ends : ∀ operand ∈ call.operands, EndsWithin 50 operand) :
    (requestText call.command call.fields).length ≤ bufferSize - 1 := by
  have commands : ∀ command ∈ [cmdLogin, cmdRegisterGeneral, cmdUpdate, cmdDelete, cmdGetMeal,
      cmdGetMultiMeal], command.length ≤ 16 := by decide
  have command : call.command.length ≤ 16 := by
    cases call <;> exact commands _ (by simp [HandlerCall.command])
  have hyphen : (utf8 "-").length = 1 := by decide
  have short : ∀ operand ∈ call.operands, operand.length < 50 :=
    fun operand member => (ends operand member).2
  generalize call.command = name at command
  cases call <;>
    simp only [HandlerCall.operands, List.forall_mem_cons] at short <;>
    simp [requestText, trailing, HandlerCall.fields, HandlerCall.operands, bufferSize,
      length_cmdDelimiter, hyphen] <;> omega

theorem dates_of_allowed (allowed : call.Allowed session) : call.DatesValid := by
  cases allowed with
  | ownMeals _ period | otherMeals _ _ _ period => exact ⟨period.start, period.finish⟩
  | _ => trivial

/-- What the menus check is a token, so what was typed freely decides. -/
theorem tokens_of_typed (allowed : call.Allowed session) (sent : call.sent.isSome = true)
    (typed : ∀ operand ∈ call.typed, operand ≠ [] ∧ 47 ∉ operand) :
    ∀ operand ∈ call.operands, operand ≠ [] ∧ 47 ∉ operand := by
  cases allowed with
  | login => exact typed
  | @register id pw eduOffice schoolName _ idValid pwValid =>
    have valid : isValidEduOffice eduOffice = true := by
      by_contra invalid
      rw [HandlerCall.sent, handleRegister, if_pos (by simpa using invalid)] at sent
      cases sent
    simpa [HandlerCall.operands] using ⟨token_of_isValidId idValid,
      token_of_isValidPassword pwValid, token_of_isValidEduOffice valid, typed schoolName
        List.mem_cons_self⟩
  | @addUser id pw eduOffice schoolName _ account
  | @updateUser id pw eduOffice schoolName _ account =>
    simpa [HandlerCall.operands] using ⟨token_of_isValidId account.id,
      token_of_isValidPassword account.pw, token_of_getEduOfficeCode account.office.1,
      typed schoolName List.mem_cons_self⟩
  | deleteUser _ idValid => simpa [HandlerCall.operands] using token_of_isValidId idValid
  | ownMeal => exact typed
  | otherMeal => exact typed
  | ownMeals _ period | otherMeals _ _ _ period =>
    have rest := List.forall_mem_cons.mp typed
    simpa [HandlerCall.operands] using
      ⟨rest.1, rest.2 _ List.mem_cons_self, HandlerCall.isToken_of_date period.start,
        HandlerCall.isToken_of_date period.finish⟩

theorem typed_subset (call : HandlerCall) : call.typed ⊆ call.operands := by
  cases call <;> simp [HandlerCall.typed, HandlerCall.operands]

/-- The server binds the operands of a call exactly when those that no menu checks are tokens. -/
theorem read_iff_typed (allowed : call.Allowed session) (ends : session.Ends) {text : Bytes}
    (sent : call.sent = some text) :
    (∃ request, parseRequest text = some request ∧ call.IsBound request) ↔
      ∀ operand ∈ call.typed, operand ≠ [] ∧ 47 ∉ operand := by
  have operands := ends_operands allowed ends
  have dates := dates_of_allowed allowed
  constructor
  · rintro ⟨request, parsed, bound⟩ operand member
    exact HandlerCall.isToken_of_isBound dates bound (isToken_of_parseRequest parsed) operand
      (typed_subset call member)
  · intro typed
    exact HandlerCall.bound_of_tokens sent (fun operand member => (operands operand member).1)
      (fits_of_ends operands) dates
      (tokens_of_typed allowed (Option.isSome_iff_exists.mpr ⟨text, sent⟩) typed)

end Read

/-! ### Whole runs -/

/-- What a pass does that has begun: it comes to what the session allows, it puts the front of its
request on the wire and nothing else, and the server reads the request as it was meant exactly
when what no menu checks is made of tokens. -/
structure Conducts (session : Session) (action : MenuAction) (path : List ClientExchange) :
    Prop where
  allowed : action.Allowed session
  front : path.flatMap ClientExchange.accepted <+: action.text
  silent : (∀ call, action ≠ .calls call) → path = []
  read : ∀ call text, action = .calls call → call.sent = some text →
    ((∃ request, parseRequest text = some request ∧ call.IsBound request) ↔
      ∀ operand ∈ call.typed, operand ≠ [] ∧ 47 ∉ operand)

section Pass

variable {session after : Session} {action : MenuAction} {path : List ClientExchange}

theorem conducts_of_walked (allowed : action.Allowed session) (ends : session.Ends)
    {array : ResponseArray} {last : Client PassResult}
    (walked : Program.Path (action.perform array session) path last) :
    Conducts session action path := by
  cases action with
  | calls call =>
    refine ⟨allowed, front_perform walked, fun noCall => absurd rfl (noCall call), ?_⟩
    intro other text same sent
    cases same
    exact read_iff_typed allowed ends sent
  | logout | nothing | exit =>
    have silent := Program.path_finished walked
    exact ⟨allowed, silent ▸ List.nil_prefix, fun _ => silent, nofun⟩

/-- A call of a handler is made by nobody, or by a user who is no parent. -/
theorem not_parent_of_allowed {call : HandlerCall} (allowed : call.Allowed session) :
    session.phase ≠ .parent := by
  intro parent
  cases allowed with
  | login nobody | register nobody => cases nobody.symm.trans parent
  | addUser user | updateUser user | deleteUser user | ownMeal user | otherMeal user
  | ownMeals user | otherMeals user => cases user.symm.trans parent

/-- A parent does nothing but leave. -/
theorem parent_of_effect (effect : SessionEffect session path action after)
    (allowed : action.Allowed session) (parent : session.phase = .parent) :
    path = [] ∧ after = session := by
  cases effect with
  | login | other => exact absurd parent (not_parent_of_allowed allowed)
  | logout =>
    have user : session.phase = .user := allowed
    cases user.symm.trans parent
  | nothing silent | exit silent => exact ⟨silent, rfl⟩

/-- The session changes when nobody is logged in and a login is told of a success, and when a user
logs out. -/
theorem changes_of_effect (effect : SessionEffect session path action after)
    (allowed : action.Allowed session) (changes : after ≠ session) :
    (session.phase = .nobody ∧ ∃ id pw response, action = .calls (.login id pw) ∧
        replyOf path = some response ∧ tellsSuccess response = true) ∨
      (session.phase = .user ∧ action = .logout ∧ after = Session.empty) := by
  cases effect with
  | @login id pw result walked =>
    have ended := path_handleLogin walked
    cases replied : replyOf path with
    | none =>
      rw [replied] at ended
      exact absurd ended.2 changes
    | some response =>
      rw [replied] at ended
      cases success : tellsSuccess response with
      | false =>
        rw [ended, readLogin_of_refused id session success] at changes
        exact absurd rfl changes
      | true =>
        cases allowed with
        | login nobody _ _ => exact Or.inl ⟨nobody, id, pw, response, rfl, rfl, success⟩
  | other | nothing | exit => exact absurd rfl changes
  | logout => exact Or.inr ⟨allowed, rfl, rfl⟩

end Pass

section Runs

variable {choice : Int} {stdin : Bytes} {passes : List LoopPass} {state : ClientState}

theorem ends_of_runs (runs : Runs PassStep (.start choice stdin) passes state) :
    state.session.Ends := by
  refine runs.invariant (fun _ state => state.session.Ends) .empty ?_
  rintro - middle - - - - ⟨running, reads, walked⟩ ends
  exact ends_of_effect (effect_of_perform walked) (allowed_readPass _ reads) ends

/-- In every state of every run, a pass that has begun conducts itself, whether it ends or not. -/
theorem conducts_of_runs (runs : Runs PassStep (.start choice stdin) passes state)
    {rounds : Nat} {locals : MenuLocals} {input : PassInput}
    (reads : readPass rounds locals state = some input) {path : List ClientExchange}
    {last : Client PassResult}
    (walked : Program.Path (input.action.perform locals.response state.session) path last) :
    Conducts state.session input.action path :=
  conducts_of_walked (allowed_readPass locals reads) (ends_of_runs runs) walked

variable {before last : ClientState}

/-- A property of the session that every pass of a run keeps holds behind the run, and in front of
each pass. -/
theorem session_invariant (runs : Runs PassStep before passes last) (holds : Session → Prop)
    (initial : holds before.session)
    (keeps : ∀ pass ∈ passes, ∀ after, pass.action.Allowed pass.session →
      SessionEffect pass.session pass.path pass.action after → holds pass.session → holds after) :
    holds last.session ∧ ∀ pass ∈ passes, holds pass.session ∧
      ∃ after, pass.action.Allowed pass.session ∧
        SessionEffect pass.session pass.path pass.action after := by
  induction runs with
  | nil => exact ⟨initial, fun pass none => absurd none List.not_mem_nil⟩
  | snoc earlier next inductionHypothesis =>
    obtain ⟨held, each⟩ := inductionHypothesis fun pass member =>
      keeps pass (List.mem_append_left _ member)
    obtain ⟨running, reads, walked⟩ := next
    have allowed := allowed_readPass _ reads
    have effect := effect_of_perform walked
    refine ⟨keeps _ (List.mem_append_right _ (List.mem_singleton.mpr rfl)) _ allowed effect held,
      fun pass member => ?_⟩
    rcases List.mem_append.mp member with earlierPass | newest
    · exact each pass earlierPass
    · obtain rfl := List.mem_singleton.mp newest
      exact ⟨held, _, allowed, effect⟩

/-- Whoever is logged in stays so, with the same variables, until a logout; nobody is logged in
before a reply tells a success; and a parent is never logged out and says nothing to the server
any more. -/
theorem session_of_runs (runs : Runs PassStep before passes last) :
    (before.session.phase ≠ .nobody → (∀ pass ∈ passes, pass.action ≠ .logout) →
        last.session = before.session) ∧
      (before.session.phase = .nobody →
        (∀ pass ∈ passes, ∀ response, replyOf pass.path = some response →
          tellsSuccess response = false) → last.session = before.session) ∧
      (before.session.phase = .parent →
        last.session = before.session ∧ ∀ pass ∈ passes, pass.path = []) := by
  refine ⟨fun somebody stays => ?_, fun nobody refused => ?_, fun parent => ?_⟩
  · refine (session_invariant runs (· = before.session) rfl ?_).1
    intro pass member after allowed effect same
    by_contra changed
    rw [← same] at changed somebody
    rcases changes_of_effect effect allowed changed with ⟨nobody, _⟩ | ⟨_, logout, _⟩
    · exact somebody nobody
    · exact stays pass member logout
  · refine (session_invariant runs (· = before.session) rfl ?_).1
    intro pass member after allowed effect same
    by_contra changed
    rw [← same] at changed nobody
    rcases changes_of_effect effect allowed changed with
      ⟨_, _, _, response, _, replied, success⟩ | ⟨user, _⟩
    · exact Bool.false_ne_true ((refused pass member response replied).symm.trans success)
    · cases nobody.symm.trans user
  · have stays := session_invariant runs (· = before.session) rfl
      fun pass _ after allowed effect same =>
        (parent_of_effect effect allowed (by rw [same]; exact parent)).2.trans same
    refine ⟨stays.1, fun pass member => ?_⟩
    obtain ⟨same, after, allowed, effect⟩ := stays.2 pass member
    exact (parent_of_effect effect allowed (by rw [same]; exact parent)).1

end Runs

/-- A login with this reply, as a pass of the main loop. -/
def loginPass (reply : Reply) : LoopPass where
  session := Session.empty
  action := .calls (.login (utf8 "user1") (utf8 "1234"))
  path := Program.exchanges (Wire.answer (answeredBy reply))
    (HandlerCall.perform ChangeReply.zeroArray Session.empty
      (.login (utf8 "user1") (utf8 "1234"))) ⟨[], ()⟩
  result := ⟨(readLogin (utf8 "user1") Session.empty reply.text).session,
    (readLogin (utf8 "user1") Session.empty reply.text).returned⟩

/-- A user types a login, and then something else. -/
theorem runs_loginPass {reply : Reply} (wellFormed : reply.WellFormed) {rest : Bytes}
    (reads : readPass 1 .zeroed (.start 0 (utf8 "1\nuser1\n1234\n" ++ rest)) =
      some ⟨.calls (.login (utf8 "user1") (utf8 "1234")), 1, rest⟩) :
    Runs PassStep (.start 0 (utf8 "1\nuser1\n1234\n" ++ rest)) [loginPass reply]
      ⟨(loginPass reply).result.session, 1, rest, true⟩ := by
  have received := receives_chunk (answeredBy reply) [] () wellFormed.text_eq.2.1
    wellFormed.text_eq.2.2 wellFormed.complete
  have performed : Program.run (Wire.answer (answeredBy reply))
      (HandlerCall.perform ChangeReply.zeroArray Session.empty
        (.login (utf8 "user1") (utf8 "1234"))) ⟨[], ()⟩ =
      (some (loginPass reply).result, ⟨[], ()⟩) :=
    Program.run_bind_of_some _ _ (run_handleLogin (answeredBy reply) (utf8 "user1") (utf8 "1234")
      Session.empty ⟨[], ()⟩ received)
  have walked : Program.Path (MenuAction.perform MenuLocals.zeroed.response Session.empty
      (.calls (.login (utf8 "user1") (utf8 "1234")))) (loginPass reply).path
      (.finished (loginPass reply).result) := Program.path_of_run _ performed
  exact Runs.nil.snoc (@PassStep.pass (.start 0 (utf8 "1\nuser1\n1234\n" ++ rest)) 1 .zeroed
    ⟨.calls (.login (utf8 "user1") (utf8 "1234")), 1, rest⟩ _ _ rfl reads walked)

/-- Behind a login, a user asks for a meal of the own school. -/
theorem conducts_sample :
    Conducts (loginPass sampleReply).result.session
      (.calls (.meal (utf8 "B10") (utf8 "7010569") (utf8 "20240603"))) [] :=
  @conducts_of_runs 0 (utf8 "1\nuser1\n1234\n" ++ utf8 "1\n1\n20240603\n")
    [loginPass sampleReply]
    ⟨(loginPass sampleReply).result.session, 1, utf8 "1\n1\n20240603\n", true⟩
    (runs_loginPass ⟨by decide, by decide, by decide⟩ (by decide)) 1 .zeroed
    ⟨.calls (.meal (utf8 "B10") (utf8 "7010569") (utf8 "20240603")), 1, []⟩ (by decide) []
    _ (.nil _)

/-- The session of a parent with a school. -/
def parentSession : Session := ⟨utf8 "user1", roleParent, utf8 "B10", utf8 "7010569"⟩

/-- A parent who asks for a logout stays logged in. -/
theorem session_parent :
    ∃ passes last, Runs PassStep ⟨parentSession, 0, utf8 "4\n", true⟩ passes last ∧
      last.choice = 4 ∧ last.session = parentSession ∧ ∀ pass ∈ passes, pass.path = [] := by
  have reads : readPass 1 .zeroed ⟨parentSession, 0, utf8 "4\n", true⟩ =
      some ⟨.nothing, 4, []⟩ := by decide
  have runs : Runs PassStep ⟨parentSession, 0, utf8 "4\n", true⟩
      [⟨parentSession, .nothing, [], parentSession, false⟩] ⟨parentSession, 4, [], true⟩ :=
    Runs.nil.snoc (@PassStep.pass ⟨parentSession, 0, utf8 "4\n", true⟩ 1 .zeroed
      ⟨.nothing, 4, []⟩ [] ⟨parentSession, false⟩ rfl reads (.nil _))
  exact ⟨_, _, runs, rfl, (session_of_runs runs).2.2 (by decide)⟩

end SchoolMeals
