/-
This file runs every branch of the dispatcher once and for all. What a request
leaves behind is a store and the replies it sent; for each command an outcome
says what they are as a plain function of the operands, the store and the
surroundings, and a lemma shows that the branch comes to exactly that. The
tests of the outcomes are those of the stores and of the surroundings; no
statement and no call is left in them.
-/

import SchoolMeals.Effects

namespace SchoolMeals

open CText Interaction

/-- What a request leaves behind. -/
structure Outcome where
  store : Store
  replies : List Reply

def World.outcome (world : World) : Outcome := ⟨world.store, world.sent⟩

/-- What a world is left with, read off its outcome. -/
theorem World.of_outcome {world : World} {store : Store} {replies : List Reply}
    (outcome : world.outcome = ⟨store, replies⟩) : world.store = store ∧ world.sent = replies :=
  ⟨congrArg Outcome.store outcome, congrArg Outcome.replies outcome⟩

/-- A reply that reports an error. -/
def failure (message : Bytes) : Reply := ⟨respError, message, []⟩

/-- A reply that reports success. -/
def success (message data : Bytes) : Reply := ⟨respSuccess, message, data⟩

section Outcomes

variable (around : Surroundings) (store : Store)

/-- The outcome of a program that starts a request. -/
def outcomeOf (program : Server Unit) : Outcome :=
  (Program.run (answer around) program (World.start store)).2.outcome

/-- An error that leaves the store as it was. -/
def refusal (message : Bytes) : Outcome := ⟨store, [failure message]⟩

/-- A test of a row that a fault can hide. -/
theorem quiet_and_any (quiet : Bool) (row : Option Row) (test : Row → Bool) :
    (quiet && row.any test) = (if quiet then row else none).any test := by
  cases quiet <;> rfl

/-! ### `LOGIN` -/

/-- The data of a successful `LOGIN`. -/
def loginData (user : User) : Bytes :=
  snprintf 256 (user.eduOffice ++ utf8 "//" ++ user.schoolName ++ utf8 "//" ++ user.role)

/-- For a row that a registration wrote, the columns go through the arrays of the server. -/
theorem loginData_rowOf (beyond user : User) :
    loginData (copiedUser beyond (rowOf user)) =
      snprintf 256 (strncpy user.eduOffice (maxEduOfficeLen - 1) beyond.eduOffice ++ cmdDelimiter ++
        strncpy user.schoolName (maxSchoolNameLen - 1) beyond.schoolName ++ cmdDelimiter ++
        strncpy user.role (maxRoleLen - 1) beyond.role) := rfl

/-- Columns that leave room for their terminators are joined as they are. -/
theorem loginData_of_short (beyond : User) {user : User} (edu : user.eduOffice.length ≤ 48)
    (school : user.schoolName.length ≤ 48) (role : user.role.length ≤ 7) :
    loginData (copiedUser beyond (rowOf user)) =
      user.eduOffice ++ cmdDelimiter ++ user.schoolName ++ cmdDelimiter ++ user.role := by
  have eduShort : user.eduOffice.length < maxEduOfficeLen - 1 := Nat.lt_succ_of_le edu
  have schoolShort : user.schoolName.length < maxSchoolNameLen - 1 := Nat.lt_succ_of_le school
  have roleShort : user.role.length < maxRoleLen - 1 := Nat.lt_of_le_of_lt role (by decide)
  rw [loginData_rowOf, strncpy_of_short _ _ _ eduShort, strncpy_of_short _ _ _ schoolShort,
    strncpy_of_short _ _ _ roleShort, snprintf_of_fits]
  simp only [List.length_append, length_cmdDelimiter]
  omega

theorem length_loginData_le (user : User) : (loginData user).length ≤ 255 :=
  List.length_take_le 255 _

def loginOutcome (locals : Locals) (id pw : Bytes) : Outcome :=
  if around.quiet 0 && (userRow store id).any (· .pw = some pw) then
    match if around.quiet 1 then userRow store id else none with
    | none => refusal store respDbError
    | some row =>
      if isReadable row then
        ⟨store, [success respLoginOk (loginData (copiedUser locals.user row))]⟩
      else ⟨store, []⟩
  else refusal store errInvalidLogin

theorem outcomeOf_login (locals : Locals) (id pw : Bytes) :
    outcomeOf around store (login locals (some id) (some pw)) =
      loginOutcome around store locals id pw := by
  have checked : Program.run (answer around) (verifyUser id pw) (World.start store) =
      (some (around.quiet 0 && (userRow store id).any fun row => row .pw = some pw),
        (World.start store).step store) := run_verifyUser around (World.start store) id pw
  rw [outcomeOf, login, Program.run_bind_of_some _ _ checked, loginOutcome]
  cases around.quiet 0 && (userRow store id).any fun row => row .pw = some pw with
  | false => rfl
  | true =>
    rw [if_pos rfl, if_pos rfl]
    cases found : if around.quiet 1 then userRow store id else none with
    | none =>
      rw [Program.run_bind_of_some _ _
        (run_getUser_of_none around ((World.start store).step store) found)]
      rfl
    | some row =>
      cases readable : isReadable row with
      | true =>
        rw [Program.run_bind_of_some _ _
          (run_getUser_of_readable around ((World.start store).step store) found readable)]
        simp only [readable, if_true]
        rfl
      | false =>
        rw [Program.run_bind_of_none _ _
          (run_getUser_of_unreadable around ((World.start store).step store) found readable)]
        simp only [readable]
        rfl

/-! ### `REGISTER_GENERAL` -/

/-- What `sqlite3_exec` makes of the text for this record, at the third call of the request. -/
def inserted (user : User) : Bool × Store :=
  respond around (around.sqliteFault 2) (.sqliteExec (addUserText user)) store

def registerOutcome (id pw schoolName : Bytes) : Outcome :=
  if around.quiet 0 && (userRow store id).isSome then refusal store errIdDuplicate
  else
    match around.schoolCodes schoolName with
    | none => refusal store schoolNotFound
    | some codes =>
      let user := generalUser id pw codes
      ⟨(inserted around store user).2,
        if (inserted around store user).1 then [success respRegisterOk []] else []⟩

theorem outcomeOf_registerGeneral (id pw eduOffice schoolName : Bytes) :
    outcomeOf around store
        (registerGeneral (some id) (some pw) (some eduOffice) (some schoolName)) =
      registerOutcome around store id pw schoolName := by
  have checked : Program.run (answer around) (isUserExists id) (World.start store) =
      (some (around.quiet 0 && (userRow store id).isSome), (World.start store).step store) :=
    run_isUserExists around (World.start store) id
  rw [outcomeOf, registerGeneral, Program.run_bind_of_some _ _ checked, registerOutcome]
  cases around.quiet 0 && (userRow store id).isSome with
  | true => rfl
  | false =>
    have looked := run_resolveSchoolCode around ((World.start store).step store) schoolName
    rw [if_neg Bool.false_ne_true, if_neg Bool.false_ne_true, Program.run_bind,
      handleRegisterGeneral, Program.run_bind_of_some _ _ looked]
    cases around.schoolCodes schoolName with
    | none => rfl
    | some codes =>
      have ran : Program.run (answer around) (addUser (generalUser id pw codes))
          (((World.start store).step store).step store) =
          (some (inserted around store (generalUser id pw codes)).1,
            (((World.start store).step store).step store).step
              (inserted around store (generalUser id pw codes)).2) := rfl
      simp only [World.step_store, ran]
      cases (inserted around store (generalUser id pw codes)).1 <;> rfl

/-! ### `UPDATE` and `DELETE` -/

def updateOutcome (id pw schoolName : Bytes) : Outcome :=
  match around.schoolCodes schoolName with
  | none => refusal store schoolNotFound
  | some codes =>
    if around.quiet 1 && (userRow store id).any (!isReadable ·) then ⟨store, []⟩
    else if around.quiet 2 then
      ⟨withUpdate store (generalUser id pw codes), [success respUpdateOk []]⟩
    else refusal store respDbError

/-- The end of the `UPDATE` branch: the old record only fills fields that the statement does not
set. -/
theorem outcome_updateUser (id pw : Bytes) (codes : SchoolCodes) (oldUser : User) (world : World)
    (calls : world.calls = 2) (unsent : world.sent = []) :
    (Program.run (answer around) (do
      if ← updateUser (updatedUser id pw codes oldUser) then
        sendResponse respSuccess respUpdateOk []
      else
        sendResponse respError respDbError []) world).2.outcome =
      if around.quiet 2 then
        ⟨withUpdate world.store (generalUser id pw codes), [success respUpdateOk []]⟩
      else refusal world.store respDbError := by
  have quiet : world.quiet around = around.quiet 2 := by rw [World.quiet, calls]
  rw [Program.run_bind_of_some _ _ (run_updateUser around world _), quiet]
  cases around.quiet 2 with
  | true =>
    show Outcome.mk _ (world.sent ++ _) = _
    rw [unsent]
    rfl
  | false =>
    show Outcome.mk _ (world.sent ++ _) = _
    rw [unsent]
    rfl

theorem outcomeOf_update (id pw eduOffice schoolName : Bytes) :
    outcomeOf around store (update (some id) (some pw) (some eduOffice) (some schoolName)) =
      updateOutcome around store id pw schoolName := by
  have looked : Program.run (answer around) (resolveSchoolCode schoolName) (World.start store) =
      (some (around.schoolCodes schoolName), (World.start store).step store) :=
    run_resolveSchoolCode around (World.start store) schoolName
  rw [outcomeOf, update, Program.run_bind_of_some _ _ looked, updateOutcome]
  cases around.schoolCodes schoolName with
  | none => rfl
  | some codes =>
    show _ = if (around.quiet 1 && (userRow store id).any (!isReadable ·)) = true then _ else _
    cases found : if around.quiet 1 then userRow store id else none with
    | none =>
      rw [Program.run_bind_of_some _ _
        (run_getUser_of_none around ((World.start store).step store) found), quiet_and_any, found]
      exact outcome_updateUser around id pw codes _ _ rfl rfl
    | some row =>
      rw [quiet_and_any, found, Option.any_some]
      cases readable : isReadable row with
      | true =>
        rw [Program.run_bind_of_some _ _
          (run_getUser_of_readable around ((World.start store).step store) found readable)]
        exact outcome_updateUser around id pw codes _ _ rfl rfl
      | false =>
        rw [Program.run_bind_of_none _ _
          (run_getUser_of_unreadable around ((World.start store).step store) found readable)]
        rfl

def deleteOutcome (id : Bytes) : Outcome :=
  if around.quiet 0 && !isReferenced store id then
    ⟨withoutUser store id, [success respDeleteOk []]⟩
  else refusal store respDbError

theorem outcomeOf_delete (id : Bytes) :
    outcomeOf around store (delete (some id)) = deleteOutcome around store id := by
  obtain ⟨response, run⟩ := run_deleteUser around (World.start store) id
  have ran : Program.run (answer around) (deleteUser id) (World.start store) =
      (some (around.quiet 0 && !isReferenced store id, response), (World.start store).step
        (if around.quiet 0 then withoutUser store id else store)) := run
  rw [outcomeOf, delete, Program.run_bind_of_some _ _ ran, deleteOutcome]
  cases referenced : isReferenced store id with
  | true =>
    rw [withoutUser_of_referenced referenced]
    cases around.quiet 0 <;> rfl
  | false => cases around.quiet 0 <;> rfl

/-! ### Children -/

/-- The listing always fails. -/
theorem outcomeOf_getChildrenOf (locals : Locals) (id : Bytes) :
    outcomeOf around store (getChildrenOf locals (some id)) = refusal store respDbError := by
  rw [outcomeOf, getChildrenOf, Program.run_bind_of_some _ _ (run_getChildrenDb around _ _ id)]
  rfl

def addChildOutcome (id childId : Bytes) : Outcome :=
  if !(around.quiet 0 && (userRow store childId).isSome) then refusal store errChildUserNotFound
  else if around.quiet 1 && around.quiet 2 &&
      ((userRow store id).isSome && !isLinked store childId id) then
    ⟨withLink store childId id, [success respAddChildOk []]⟩
  else refusal store respDbError

theorem outcomeOf_addChild (id childId : Bytes) :
    outcomeOf around store (addChild (some id) (some childId)) =
      addChildOutcome around store id childId := by
  have checked : Program.run (answer around) (isUserExists childId) (World.start store) =
      (some (around.quiet 0 && (userRow store childId).isSome), (World.start store).step store) :=
    run_isUserExists around (World.start store) childId
  rw [outcomeOf, addChild, Program.run_bind_of_some _ _ checked, addChildOutcome]
  cases known : around.quiet 0 && (userRow store childId).isSome with
  | false => rfl
  | true =>
    have child : (userRow store childId).isSome = true := (Bool.and_eq_true_iff.mp known).2
    have ran : Program.run (answer around) (dbAddChild childId id)
        ((World.start store).step store) =
        if around.quiet 1 && (userRow store childId).isSome then
          (some (around.quiet 2 && ((userRow store id).isSome && !isLinked store childId id)),
            (((World.start store).step store).step store).step
              (if around.quiet 2 then withLink store childId id else store))
        else (some false, ((World.start store).step store).step store) :=
      run_dbAddChild around ((World.start store).step store) childId id
    rw [if_neg (by decide), if_neg (by decide), Program.run_bind, ran, child, Bool.and_true]
    cases around.quiet 1 with
    | false => rfl
    | true =>
      cases around.quiet 2 with
      | false => rfl
      | true =>
        cases new : (userRow store id).isSome && !isLinked store childId id with
        | true => rfl
        | false =>
          have refused : withLink store childId id = store :=
            withLink_of_refused fun accepted => by simp [accepted.2.1, accepted.2.2] at new
          rw [refused]
          rfl

def delChildOutcome (id childId : Bytes) : Outcome :=
  if !(around.quiet 0 && isLinked store childId id) then refusal store errInvalidChildId
  else if around.quiet 1 then ⟨withoutLink store childId id, [success respDelChildOk []]⟩
  else refusal store respDbError

theorem outcomeOf_delChild (id childId : Bytes) :
    outcomeOf around store (delChild (some id) (some childId)) =
      delChildOutcome around store id childId := by
  have checked : Program.run (answer around) (isChildRegistered childId id) (World.start store) =
      (some (around.quiet 0 && isLinked store childId id), (World.start store).step store) :=
    run_isChildRegistered around (World.start store) childId id
  rw [outcomeOf, delChild, Program.run_bind_of_some _ _ checked, delChildOutcome]
  cases around.quiet 0 && isLinked store childId id with
  | false => rfl
  | true =>
    have ran : Program.run (answer around) (dbDeleteChild childId id)
        ((World.start store).step store) = (some (around.quiet 1),
          ((World.start store).step store).step
            (if around.quiet 1 then withoutLink store childId id else store)) :=
      run_dbDeleteChild around ((World.start store).step store) childId id
    rw [if_neg (by decide), if_neg (by decide), Program.run_bind_of_some _ _ ran]
    cases around.quiet 1 <;> rfl

/-! ### Meals -/

/-- The child's row has a null column where `CHILD_MEAL` copies it. -/
def childUnreadable (id childId : Bytes) : Bool :=
  around.quiet 0 && isLinked store childId id &&
    (around.quiet 1 && (userRow store childId).any (!isReadable ·))

/-- What a meal query for a child is answered with. -/
def childMealReplies (locals : Locals) (id childId date : Bytes) : List Reply :=
  if !(around.quiet 0 && isLinked store childId id) then [failure errInvalidChildId]
  else
    match if around.quiet 1 then userRow store childId else none with
    | none => [failure errChildUserNotFound]
    | some row =>
      if isReadable row then
        let child := copiedUser locals.child row
        match if around.quiet 2 then (cachedMeal store date child.eduOffice child.schoolName).map
          (strncpy · (maxMealLen - 1) []) else none with
        | none => [failure errChildMealNotFound]
        | some meal => [success respGetChildMealOk meal]
      else []

/-- It changes nothing. -/
theorem outcomeOf_childMeal (locals : Locals) (id childId date : Bytes) :
    outcomeOf around store (childMeal locals (some id) (some childId) (some date)) =
      ⟨store, childMealReplies around store locals id childId date⟩ := by
  have checked : Program.run (answer around) (isChildRegistered childId id) (World.start store) =
      (some (around.quiet 0 && isLinked store childId id), (World.start store).step store) :=
    run_isChildRegistered around (World.start store) childId id
  rw [outcomeOf, childMeal, Program.run_bind_of_some _ _ checked, childMealReplies]
  cases around.quiet 0 && isLinked store childId id with
  | false => rfl
  | true =>
    rw [if_neg (by decide), if_neg (by decide)]
    cases found : if around.quiet 1 then userRow store childId else none with
    | none =>
      rw [Program.run_bind_of_some _ _
        (run_getUser_of_none around ((World.start store).step store) found)]
      rfl
    | some row =>
      cases readable : isReadable row with
      | true =>
        obtain ⟨meal, cached⟩ : ∃ meal, (if around.quiet 2 then (cachedMeal store date
          (copiedUser locals.child row).eduOffice (copiedUser locals.child row).schoolName).map
          (strncpy · (maxMealLen - 1) []) else none) = meal := ⟨_, rfl⟩
        have ran : Program.run (answer around) (getMeal date (copiedUser locals.child row).eduOffice
            (copiedUser locals.child row).schoolName)
            (((World.start store).step store).step store) =
            (some meal, (((World.start store).step store).step store).step store) :=
          cached ▸ run_getMeal around (((World.start store).step store).step store) date _ _
        rw [Program.run_bind_of_some _ _
          (run_getUser_of_readable around ((World.start store).step store) found readable)]
        show (Program.run (answer around) (getMeal date _ _ >>= _) _).2.outcome = _
        rw [World.step_store, Program.run_bind_of_some _ _ ran]
        simp only [readable, if_true, cached]
        cases meal <;> rfl
      | false =>
        rw [Program.run_bind_of_none _ _
          (run_getUser_of_unreadable around ((World.start store).step store) found readable)]
        simp only [readable]
        rfl

/-- It is answered once, unless the child is unreadable. -/
theorem childMealReplies_once (locals : Locals) (id childId date : Bytes) :
    ∃ reply, childMealReplies around store locals id childId date =
      if childUnreadable around store id childId then [] else [reply] := by
  unfold childMealReplies childUnreadable
  cases around.quiet 0 && isLinked store childId id with
  | false => exact ⟨failure errInvalidChildId, rfl⟩
  | true =>
    rw [if_neg (by decide), Bool.true_and, quiet_and_any]
    cases if around.quiet 1 then userRow store childId else none with
    | none => exact ⟨failure errChildUserNotFound, rfl⟩
    | some row =>
      by_cases readable : isReadable row = true
      · simp only [readable, Option.any_some, if_true, Bool.not_true]
        split
        · exact ⟨failure errChildMealNotFound, rfl⟩
        · exact ⟨_, rfl⟩
      · refine ⟨failure errChildUserNotFound, ?_⟩
        simp [readable]

theorem outcomeOf_childMultiMeal (id childId period : Bytes) :
    ∃ reply, outcomeOf around store (childMultiMeal (some id) (some childId) (some period)) =
      ⟨store, [reply]⟩ := by
  have checked : Program.run (answer around) (isChildRegistered childId id) (World.start store) =
      (some (around.quiet 0 && isLinked store childId id), (World.start store).step store) :=
    run_isChildRegistered around (World.start store) childId id
  rw [outcomeOf, childMultiMeal, Program.run_bind_of_some _ _ checked]
  cases around.quiet 0 && isLinked store childId id with
  | false => exact ⟨failure errInvalidChildId, rfl⟩
  | true =>
    cases splitPeriod period with
    | none => exact ⟨failure errInvalidDateFormat, rfl⟩
    | some dates => exact ⟨success respGetChildMultiMealOk [], rfl⟩

/-- The codes of a meal query. -/
def codesUsed (eduOffice schoolName : Bytes) : Option SchoolCodes :=
  if schoolName.head?.any isDigit then some ⟨strncpy eduOffice 9 [], strncpy schoolName 19 []⟩
  else around.schoolCodes schoolName

theorem run_mealCodes (world : World) (eduOffice schoolName : Bytes) :
    ∃ calls, Program.run (answer around) (mealCodes eduOffice schoolName) world =
      (some (codesUsed around eduOffice schoolName), ⟨world.store, calls, world.sent⟩) := by
  unfold mealCodes codesUsed
  split
  · exact ⟨world.calls, rfl⟩
  · exact ⟨world.calls + 1, run_resolveSchoolCode around world schoolName⟩

/-- What a meal query is answered with. -/
def mealReply (eduOffice schoolName date : Bytes) : Reply :=
  match codesUsed around eduOffice schoolName with
  | none => failure schoolNotFound
  | some codes =>
    match around.meal codes.eduCode codes.schoolCode date with
    | none => failure errMealNotFound
    | some meal => success mealFound meal

theorem outcomeOf_getMealOf (eduOffice schoolName date : Bytes) :
    outcomeOf around store (getMealOf (some eduOffice) (some schoolName) (some date)) =
      ⟨store, [mealReply around eduOffice schoolName date]⟩ := by
  obtain ⟨calls, ran⟩ := run_mealCodes around (World.start store) eduOffice schoolName
  rw [outcomeOf, getMealOf, Program.run_bind_of_some _ _ ran, mealReply]
  cases codesUsed around eduOffice schoolName with
  | none => rfl
  | some codes =>
    show (Program.run (answer around) (getMealFromNeis _ _ date >>= _) _).2.outcome = _
    rw [Program.run_bind_of_some _ _ (run_getMealFromNeis around _ codes.eduCode codes.schoolCode
      date)]
    cases used : around.meal codes.eduCode codes.schoolCode date <;> simp only [used] <;> rfl

/-- What a query for the meals of a period comes to. -/
def multiMealOutcome (eduOffice schoolName period : Bytes) : Outcome :=
  match splitPeriod period with
  | none => refusal store errInvalidDateFormat
  | some (startDate, endDate) =>
    match codesUsed around eduOffice schoolName with
    | none => refusal store schoolNotFound
    | some codes =>
      match around.meals codes.eduCode codes.schoolCode startDate endDate with
      | none => refusal store errMealNotFound
      | some meals => ⟨store, [success mealsFound meals]⟩

theorem outcomeOf_getMultiMeal (eduOffice schoolName period : Bytes) :
    outcomeOf around store (getMultiMeal (some eduOffice) (some schoolName) (some period)) =
      multiMealOutcome around store eduOffice schoolName period := by
  rw [outcomeOf, getMultiMeal, multiMealOutcome]
  cases splitPeriod period with
  | none => rfl
  | some dates =>
    obtain ⟨calls, ran⟩ := run_mealCodes around (World.start store) eduOffice schoolName
    show (Program.run (answer around) (mealCodes _ _ >>= _) _).2.outcome = _
    rw [Program.run_bind_of_some _ _ ran]
    cases codesUsed around eduOffice schoolName with
    | none => rfl
    | some codes =>
      show (Program.run (answer around)
        (getMealsPeriodFromNeis _ _ dates.1 dates.2 >>= _) _).2.outcome = _
      rw [Program.run_bind_of_some _ _ (run_getMealsPeriodFromNeis around _ codes.eduCode
        codes.schoolCode dates.1 dates.2)]
      cases used : around.meals codes.eduCode codes.schoolCode dates.1 dates.2 <;>
        simp only [used] <;> rfl

/-- It changes nothing and is answered once. -/
theorem multiMealOutcome_replies (eduOffice schoolName period : Bytes) :
    ∃ reply, multiMealOutcome around store eduOffice schoolName period = ⟨store, [reply]⟩ := by
  unfold multiMealOutcome
  cases splitPeriod period with
  | none => exact ⟨_, rfl⟩
  | some dates =>
    cases codesUsed around eduOffice schoolName with
    | none => exact ⟨_, rfl⟩
    | some codes =>
      cases used : around.meals codes.eduCode codes.schoolCode dates.1 dates.2 with
      | none => exact ⟨failure errMealNotFound, by simp only [used]; rfl⟩
      | some meals => exact ⟨success mealsFound meals, by simp only [used]⟩

end Outcomes

end SchoolMeals
