/-
This file shows which requests go unanswered when requests of every kind run side
by side, whatever faults SQLite reports. From a well-kept store no column that is
copied is ever null, however the calls of the requests fall, so the behaviour of
no request becomes undefined. A request that has finished has sent exactly one
reply, with one exception: a registration whose `INSERT` failed has sent none.
-/

import SchoolMeals.Serial

namespace SchoolMeals

open CText Interaction Relational

/-! ### Replies -/

/-- The reply an exchange sends. -/
def replied : Exchange → Option Reply
  | ⟨.sendResponse reply, _⟩ => some reply
  | _ => none

/-- The exchange is an `INSERT` that was handed to SQLite and failed. -/
def failedInsert : Exchange → Bool
  | ⟨.sqliteExec _, done⟩ => !done
  | _ => false

/-- One reply was sent, or none because an `INSERT` failed. -/
def RepliesOnce (done : List Exchange) : Prop :=
  (∃ reply, done.filterMap replied = [reply]) ∨
    (done.filterMap replied = [] ∧ done.any failedInsert = true)

/-! ### What each request sends -/

section Branches

variable {arrival : Arrival} {spared : Bool}

/-- With these calls made already, the program stays defined and replies once. -/
abbrev Arrival.Replies (arrival : Arrival) (spared : Bool) (program : Server Unit)
    (done : List Exchange) : Prop :=
  Ensures (arrival.Answers spared) WellKept RepliesOnce program done

/-- The program makes one call, which is no reply, and returns whatever it is answered. -/
def Arrival.Returns (arrival : Arrival) (spared : Bool) {Result : Type} :
    Server Result → Prop
  | .call request next => (∀ given, replied ⟨request, given⟩ = none) ∧
      ∀ before given after, WellKept before → arrival.Answers spared request before given after →
        ∃ result, next given = .finished result
  | _ => False

theorem replies_sendResponse (status : Nat) (message data : Bytes) {done : List Exchange}
    (unsent : done.filterMap replied = []) :
    arrival.Replies spared (sendResponse status message data) done := by
  intro before answer after _ _
  refine Or.inl ⟨⟨status, message, data⟩, ?_⟩
  rw [List.filterMap_append, unsent]
  rfl

/-- A part that returns leaves the reply to the rest. -/
theorem replies_bind {Result : Type} {program : Server Result} {next : Result → Server Unit}
    {done : List Exchange} (returns : arrival.Returns spared program)
    (unsent : done.filterMap replied = [])
    (rest : ∀ result done, done.filterMap replied = [] →
      arrival.Replies spared (next result) done) :
    arrival.Replies spared (program >>= next) done := by
  cases program with
  | finished result => exact returns.elim
  | undefined => exact returns.elim
  | call request following =>
    intro before given after kept answered
    obtain ⟨result, finishes⟩ := returns.2 before given after kept answered
    show Ensures _ _ _ (following given >>= next) _
    rw [finishes]
    refine rest result _ ?_
    rw [List.filterMap_append, unsent, List.filterMap_cons, returns.1 given]
    rfl

/-- A part that makes no calls has finished when its run has a result. -/
theorem finished_of_run {Result State : Type}
    {possible : (request : Call) → request.Answer → Prop} {program : Server Result}
    (silent : Only possible (fun _ => False) program)
    (handler : (request : Call) → State → request.Answer × State) (state : State)
    (returns : (Program.run handler program state).1.isSome = true) :
    ∃ result, program = .finished result := by
  cases program with
  | finished result => exact ⟨result, rfl⟩
  | undefined => cases returns
  | call request next => exact silent.1.elim

theorem returns_isUserExists (id : Bytes) : arrival.Returns spared (isUserExists id) :=
  ⟨fun _ => rfl, fun _ _ _ _ _ => ⟨_, rfl⟩⟩

theorem returns_verifyUser (id pw : Bytes) : arrival.Returns spared (verifyUser id pw) :=
  ⟨fun _ => rfl, fun _ _ _ _ _ => ⟨_, rfl⟩⟩

theorem returns_isChildRegistered (childId parentId : Bytes) :
    arrival.Returns spared (isChildRegistered childId parentId) :=
  ⟨fun _ => rfl, fun _ _ _ _ _ => ⟨_, rfl⟩⟩

theorem returns_resolveSchoolCode (schoolName : Bytes) :
    arrival.Returns spared (resolveSchoolCode schoolName) :=
  ⟨fun _ => rfl, fun _ _ _ _ _ => ⟨_, rfl⟩⟩

theorem returns_getMealFromNeis (codes : SchoolCodes) (date : Bytes) :
    arrival.Returns spared (getMealFromNeis codes.eduCode codes.schoolCode date) :=
  ⟨fun _ => rfl, fun _ _ _ _ _ => ⟨_, rfl⟩⟩

theorem returns_getMealsPeriodFromNeis (codes : SchoolCodes) (startDate endDate : Bytes) :
    arrival.Returns spared
      (getMealsPeriodFromNeis codes.eduCode codes.schoolCode startDate endDate) :=
  ⟨fun _ => rfl, fun _ _ _ _ _ => ⟨_, rfl⟩⟩

theorem returns_isDone (statement : Statement) :
    arrival.Returns spared (do let result ← sqlite statement; return result.isDone) :=
  ⟨fun _ => rfl, fun _ _ _ _ _ => ⟨_, rfl⟩⟩

/-- A function of `db_handler.c` that makes one call, behind which its run has a result. -/
theorem returns_of_run {Result : Type} {statement : Statement}
    {rest : StepResult → Server Result}
    (silent : ∀ result, Only arrival.Possible (fun _ => False) (rest result))
    (runs : ∀ (around : Surroundings) (world : World), WellKept world.store →
      (Program.run (answer around) (sqlite statement >>= rest) world).1.isSome = true) :
    arrival.Returns spared (sqlite statement >>= rest) := by
  refine ⟨fun _ => rfl, fun before given after kept ⟨fault, _, responded⟩ => ?_⟩
  have ran := runs (arrival.around.meeting fault) ⟨before, 0, []⟩ kept
  rw [show given = (respond arrival.around fault (.sqlite statement) before).1 from
    (Prod.mk.inj responded).1.symm]
  exact finished_of_run (silent _) _ _ ran

/-- In a well-kept store `get_user` finds no null column. -/
theorem returns_getUser (beyond : User) (id : Bytes) :
    arrival.Returns spared (getUser beyond id) := by
  refine returns_of_run (fun result => ?_) fun around world kept => ?_
  · split
    · trivial
    · exact only_fiveColumns _ _
  · show (Program.run (answer around) (getUser beyond id) world).1.isSome = true
    cases found : if world.quiet around then userRow world.store id else none with
    | none => rw [run_getUser_of_none around world found]; rfl
    | some row =>
      have stored : userRow world.store id = some row := by
        split at found
        · exact found
        · cases found
      rw [run_getUser_of_readable around world found (kept id row stored).2]
      rfl

theorem returns_getMeal (date eduOffice schoolName : Bytes) :
    arrival.Returns spared (getMeal date eduOffice schoolName) := by
  refine returns_of_run (fun result => ?_) fun around world kept => ?_
  · split
    · trivial
    · exact only_bind (only_columnText _ 0) fun _ => trivial
  · show (Program.run (answer around) (getMeal date eduOffice schoolName) world).1.isSome = true
    rw [run_getMeal]
    rfl

theorem silent_copyChildIds (array : Nat → Child) (rows : List (List (Option Bytes))) :
    ∀ count, Only arrival.Possible (fun _ => False) (copyChildIds array count rows) := by
  induction rows with
  | nil => exact fun _ => trivial
  | cons row rows inductionHypothesis =>
    intro count
    unfold copyChildIds
    split
    · exact only_bind (only_columnText row 0) fun _ =>
        only_bind (inductionHypothesis (count + 1)) fun _ => trivial
    · exact inductionHypothesis count

theorem returns_getChildrenDb (array : Nat → Child) (parentId : Bytes) :
    arrival.Returns spared (getChildrenDb array parentId) := by
  refine returns_of_run (fun result => ?_) fun around world kept => ?_
  · split
    · trivial
    · exact only_bind (silent_copyChildIds array _ 0) fun _ => trivial
    · trivial
  · show (Program.run (answer around) (getChildrenDb array parentId) world).1.isSome = true
    rw [run_getChildrenDb]
    rfl

theorem replies_mealCodes {eduOffice schoolName : Bytes} {next : Option SchoolCodes → Server Unit}
    {done : List Exchange} (unsent : done.filterMap replied = [])
    (rest : ∀ codes done, done.filterMap replied = [] →
      arrival.Replies spared (next codes) done) :
    arrival.Replies spared (mealCodes eduOffice schoolName >>= next) done := by
  unfold mealCodes
  split
  · exact rest _ done unsent
  · exact replies_bind (returns_resolveSchoolCode schoolName) unsent rest

theorem replies_login (locals : Locals) : ∀ id pw : Option Bytes,
    arrival.Replies spared (login locals id pw) []
  | none, _ | some _, none => replies_sendResponse _ _ _ rfl
  | some id, some pw => by
    refine replies_bind (returns_verifyUser id pw) rfl fun verified done unsent => ?_
    cases verified with
    | false => exact replies_sendResponse _ _ _ unsent
    | true =>
      refine replies_bind (returns_getUser locals.user id) unsent fun found done unsent => ?_
      cases found <;> exact replies_sendResponse _ _ _ unsent

theorem replies_addUser (user : User) {next : Bool → Server Unit} {done : List Exchange}
    (unsent : done.filterMap replied = [])
    (rest : ∀ done, done.filterMap replied = [] → arrival.Replies spared (next true) done)
    (silent : next false = .finished ()) :
    arrival.Replies spared (addUser user >>= next) done := by
  intro before completed after kept answered
  have still : (done ++ [Program.Exchange.mk (Call.sqliteExec (addUserText user))
      completed]).filterMap replied = [] := by
    rw [List.filterMap_append, unsent]
    rfl
  cases completed with
  | true => exact rest _ still
  | false =>
    show Ensures _ _ _ (next false) _
    rw [silent]
    exact Or.inr ⟨still, by simp [failedInsert]⟩

theorem replies_registerGeneral : ∀ id pw eduOffice schoolName : Option Bytes,
    arrival.Replies spared (registerGeneral id pw eduOffice schoolName) []
  | none, _, _, _ | some _, none, _, _ | some _, some _, none, _ | some _, some _, some _, none =>
    replies_sendResponse _ _ _ rfl
  | some id, some pw, some eduOffice, some schoolName => by
    refine replies_bind (returns_isUserExists id) rfl fun taken done unsent => ?_
    cases taken with
    | true => exact replies_sendResponse _ _ _ unsent
    | false =>
      show arrival.Replies spared (handleRegisterGeneral id pw eduOffice schoolName >>= _) done
      rw [handleRegisterGeneral, Program.bind_assoc]
      refine replies_bind (returns_resolveSchoolCode schoolName) unsent fun codes done unsent => ?_
      cases codes with
      | none => exact replies_sendResponse _ _ _ unsent
      | some codes =>
        exact replies_addUser (generalUser id pw codes) unsent
          (fun done unsent => replies_sendResponse _ _ _ unsent) rfl

theorem replies_update : ∀ id pw eduOffice schoolName : Option Bytes,
    arrival.Replies spared (update id pw eduOffice schoolName) []
  | none, _, _, _ | some _, none, _, _ | some _, some _, none, _ | some _, some _, some _, none =>
    replies_sendResponse _ _ _ rfl
  | some id, some pw, some eduOffice, some schoolName => by
    refine replies_bind (returns_resolveSchoolCode schoolName) rfl fun codes done unsent => ?_
    cases codes with
    | none => exact replies_sendResponse _ _ _ unsent
    | some codes =>
      refine replies_bind (returns_getUser User.zero id) unsent fun oldUser done unsent => ?_
      refine replies_bind (returns_isDone _) unsent fun updated done unsent => ?_
      cases updated <;> exact replies_sendResponse _ _ _ unsent

theorem returns_deleteUser (id : Bytes) : arrival.Returns spared (deleteUser id) := by
  refine And.intro (fun _ => rfl) fun before (given : StepResult) after _ _ => ?_
  cases given with
  | rows found => cases found <;> exact ⟨_, rfl⟩
  | _ => exact ⟨_, rfl⟩

theorem replies_delete : ∀ id : Option Bytes, arrival.Replies spared (delete id) []
  | none => replies_sendResponse _ _ _ rfl
  | some id => by
    refine replies_bind (returns_deleteUser id) rfl fun (deleted, _) done unsent => ?_
    cases deleted <;> exact replies_sendResponse _ _ _ unsent

theorem replies_getChildrenOf (locals : Locals) : ∀ id : Option Bytes,
    arrival.Replies spared (getChildrenOf locals id) []
  | none => replies_sendResponse _ _ _ rfl
  | some id => by
    refine replies_bind (returns_getChildrenDb locals.children id) rfl
      fun children done unsent => ?_
    cases children <;> exact replies_sendResponse _ _ _ unsent

theorem replies_addChild : ∀ id childId : Option Bytes,
    arrival.Replies spared (addChild id childId) []
  | none, _ | some _, none => replies_sendResponse _ _ _ rfl
  | some id, some childId => by
    refine replies_bind (returns_isUserExists childId) rfl fun found done unsent => ?_
    cases found with
    | false => exact replies_sendResponse _ _ _ unsent
    | true =>
      show arrival.Replies spared (dbAddChild childId id >>= _) done
      rw [dbAddChild, Program.bind_assoc]
      refine replies_bind (returns_isUserExists childId) unsent fun known done unsent => ?_
      cases known with
      | false => exact replies_sendResponse _ _ _ unsent
      | true =>
        refine replies_bind (returns_isDone _) unsent fun added done unsent => ?_
        cases added <;> exact replies_sendResponse _ _ _ unsent

theorem replies_delChild : ∀ id childId : Option Bytes,
    arrival.Replies spared (delChild id childId) []
  | none, _ | some _, none => replies_sendResponse _ _ _ rfl
  | some id, some childId => by
    refine replies_bind (returns_isChildRegistered childId id) rfl fun linked done unsent => ?_
    cases linked with
    | false => exact replies_sendResponse _ _ _ unsent
    | true =>
      refine replies_bind (returns_isDone _) unsent fun removed done unsent => ?_
      cases removed <;> exact replies_sendResponse _ _ _ unsent

theorem replies_childMeal (locals : Locals) : ∀ id childId date : Option Bytes,
    arrival.Replies spared (childMeal locals id childId date) []
  | none, _, _ | some _, none, _ | some _, some _, none => replies_sendResponse _ _ _ rfl
  | some id, some childId, some date => by
    refine replies_bind (returns_isChildRegistered childId id) rfl fun linked done unsent => ?_
    cases linked with
    | false => exact replies_sendResponse _ _ _ unsent
    | true =>
      refine replies_bind (returns_getUser locals.child childId) unsent
        fun found done unsent => ?_
      cases found with
      | none => exact replies_sendResponse _ _ _ unsent
      | some child =>
        refine replies_bind (returns_getMeal date _ _) unsent fun meal done unsent => ?_
        cases meal <;> exact replies_sendResponse _ _ _ unsent

theorem replies_childMultiMeal : ∀ id childId period : Option Bytes,
    arrival.Replies spared (childMultiMeal id childId period) []
  | none, _, _ | some _, none, _ | some _, some _, none => replies_sendResponse _ _ _ rfl
  | some id, some childId, some period => by
    refine replies_bind (returns_isChildRegistered childId id) rfl fun linked done unsent => ?_
    cases linked with
    | false => exact replies_sendResponse _ _ _ unsent
    | true =>
      rw [if_neg (by simp)]
      split <;> exact replies_sendResponse _ _ _ unsent

theorem replies_getMealOf : ∀ eduOffice schoolName date : Option Bytes,
    arrival.Replies spared (getMealOf eduOffice schoolName date) []
  | none, _, _ | some _, none, _ | some _, some _, none => replies_sendResponse _ _ _ rfl
  | some eduOffice, some schoolName, some date => by
    refine replies_mealCodes rfl fun codes done unsent => ?_
    cases codes with
    | none => exact replies_sendResponse _ _ _ unsent
    | some codes =>
      refine replies_bind (returns_getMealFromNeis codes date) unsent fun meal done unsent => ?_
      cases meal <;> exact replies_sendResponse _ _ _ unsent

theorem replies_getMultiMeal : ∀ eduOffice schoolName period : Option Bytes,
    arrival.Replies spared (getMultiMeal eduOffice schoolName period) []
  | none, _, _ | some _, none, _ | some _, some _, none => replies_sendResponse _ _ _ rfl
  | some eduOffice, some schoolName, some period => by
    simp only [getMultiMeal]
    split
    · exact replies_sendResponse _ _ _ rfl
    · refine replies_mealCodes rfl fun codes done unsent => ?_
      cases codes with
      | none => exact replies_sendResponse _ _ _ unsent
      | some codes =>
        refine replies_bind (returns_getMealsPeriodFromNeis codes _ _) unsent
          fun meals done unsent => ?_
        cases meals <;> exact replies_sendResponse _ _ _ unsent

theorem replies_dispatch (locals : Locals) (request : Request) :
    arrival.Replies spared (dispatch locals request) [] := by
  unfold dispatch
  refine ensures_ite (fun _ => replies_login locals _ _) fun _ => ?_
  refine ensures_ite (fun _ => replies_registerGeneral _ _ _ _) fun _ => ?_
  refine ensures_ite (fun _ => replies_update _ _ _ _) fun _ => ?_
  refine ensures_ite (fun _ => replies_delete _) fun _ => ?_
  refine ensures_ite (fun _ => replies_getChildrenOf locals _) fun _ => ?_
  refine ensures_ite (fun _ => replies_addChild _ _) fun _ => ?_
  refine ensures_ite (fun _ => replies_delChild _ _) fun _ => ?_
  refine ensures_ite (fun _ => replies_childMeal locals _ _ _) fun _ => ?_
  refine ensures_ite (fun _ => replies_childMultiMeal _ _ _) fun _ => ?_
  refine ensures_ite (fun _ => replies_getMealOf _ _ _) fun _ => ?_
  exact ensures_ite (fun _ => replies_getMultiMeal _ _ _) fun _ => replies_sendResponse _ _ _ rfl

theorem replies_handleClient (locals : Locals) (received : Bytes) :
    arrival.Replies spared (handleClient locals received) [] := by
  unfold handleClient
  cases parseRequest received with
  | none => exact replies_sendResponse _ _ _ rfl
  | some request => exact replies_dispatch locals request

end Branches

/-! ### Requests side by side -/

/-- The calls of the request loop keep a store well kept. -/
theorem wellKept_of_answered {arrival : Arrival} {spared : Bool} {users : Bytes → Prop}
    {request : Call} (concerns : Concerns users request) {before after : Store}
    {given : request.Answer} (answered : arrival.Answers spared request before given after)
    (kept : WellKept before) : WellKept after := by
  cases concerns with
  | query _ queries => exact answered_query queries answered ▸ kept
  | insertUser user fits quoteFree short =>
    obtain ⟨fault, _, responded⟩ := answered
    rcases respond_insert fits quoteFree responded with ⟨_, _, rfl⟩ | ⟨_, rfl⟩
    · exact wellKept_withUser kept short
    · exact kept
  | updateUser user =>
    rcases answered_statement answered with ⟨_, rfl⟩ | ⟨_, _, rfl⟩
    · exact wellKept_withUpdate kept user
    · exact kept
  | deleteUser id =>
    rcases answered_statement answered with ⟨_, rfl⟩ | ⟨_, _, rfl⟩
    · exact wellKept_withoutUser kept id
    · exact kept
  | insertLink childId parentId =>
    rcases answered_statement answered with ⟨_, rfl⟩ | ⟨_, _, rfl⟩
    · exact wellKept_withLink kept childId parentId
    · exact kept
  | deleteLink childId parentId =>
    rcases answered_statement answered with ⟨_, rfl⟩ | ⟨_, _, rfl⟩
    · exact wellKept_withoutLink kept childId parentId
    · exact kept

section Runs

variable {Index : Type} [DecidableEq Index] (arrivals : Index → Arrival)

/-- From a well-kept store no request comes to undefined behaviour, whatever the others do and
whatever faults SQLite reports, and a request that has finished has replied once, unless it is a
registration whose `INSERT` failed. -/
theorem repliesOnce_of_runs (quoteFree : ∀ index, (arrivals index).QuoteFree)
    (spared : Index → Bool) {store : Store} (kept : WellKept store)
    {events : List (Event Index Call Call.Answer)}
    {last : Family Index Call Call.Answer Unit Store}
    (runs : Runs (fun index => (arrivals index).Answers (spared index)) (requests arrivals store)
      events last) :
    WellKept last.shared ∧ ∀ index, last.programs index ≠ .undefined ∧
      (last.programs index = .finished () → RepliesOnce (eventsOf index events)) := by
  have given : ∀ index request before answer after,
      (arrivals index).Answers (spared index) request before answer after →
        (arrivals index).Possible request answer :=
    fun index request before answer after ⟨_, _, responded⟩ => possible_of_respond responded
  obtain ⟨still, each⟩ := runs.meets given
    (fun index request concerns before answer after answered holds =>
      wellKept_of_answered concerns answered holds) kept
    (fun index => concerns_handleClient (fun _ _ => trivial) (quoteFree index))
    (fun index => replies_handleClient (arrivals index).locals (arrivals index).received)
  exact ⟨still, fun index => ⟨(each index).1, (each index).2 ()⟩⟩

end Runs

theorem repliesOnce_faultyContest : WellKept faultyContest.2.shared ∧
    ∀ index, faultyContest.2.programs index ≠ .undefined ∧
      (faultyContest.2.programs index = .finished () →
        RepliesOnce (eventsOf index faultyContest.1)) := by
  refine repliesOnce_of_runs rivals quoteFree_rivals Option.isSome wellKept_initDb
    (runs_schedule _ (fun index request store => ?_) _ _)
  exact ⟨if index.isSome then none else some .step, fun spared => if_pos spared, rfl⟩

end SchoolMeals
