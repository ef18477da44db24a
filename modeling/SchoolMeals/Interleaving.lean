/-
This file runs registrations and deletions side by side, one call at a time and
in any order. The check of a registration and its `INSERT` are separate calls
with a school lookup between them, so several registrations of one identifier can
pass the check. What keeps them apart is the primary key: between two `INSERT`
statements for one identifier that both complete lies a completed `DELETE`. Until
then the table holds the row of the first.
-/

import SchoolMeals.Changes

namespace SchoolMeals

open CText Interaction Relational

abbrev Exchange := Program.Exchange Call Call.Answer

/-! ### Calls and their answers -/

/-- The text handed to `sqlite3_exec`, and whether it completed. -/
def handed : Exchange → Option (Bytes × Bool)
  | ⟨.sqliteExec text, done⟩ => some (text, done)
  | _ => none

theorem eq_of_handed {exchange : Exchange} {text : Bytes} {done : Bool}
    (given : handed exchange = some (text, done)) : exchange = ⟨.sqliteExec text, done⟩ := by
  unfold handed at given
  split at given
  · obtain ⟨rfl, rfl⟩ := Prod.mk.inj (Option.some.inj given)
    rfl
  · cases given

/-- The user whose `DELETE` completed. -/
def deleted : Exchange → Option Bytes
  | ⟨.sqlite (.delete .users [(.id, id)]), result⟩ => if result.isDone then some id else none
  | _ => none

/-- The call is a reply that reports success. -/
def reportsSuccess : Exchange → Bool
  | ⟨.sendResponse reply, _⟩ => reply.status = respSuccess
  | _ => false

/-! ### What one call does to a row -/

/-- The calls of registrations and deletions. The records inserted have no quotes. -/
inductive Permitted : Call → Prop
  | check (id : Bytes) : Permitted (.sqlite (.select [] .users [(.id, id)]))
  | lookup (schoolName : Bytes) : Permitted (.resolveSchoolCode schoolName)
  | insert (user : User) (fits : user.Fits) (quoteFree : user.QuoteFree) :
      Permitted (.sqliteExec (addUserText user))
  | delete (id : Bytes) : Permitted (.sqlite (.delete .users [(.id, id)]))
  | reply (reply : Reply) : Permitted (.sendResponse reply)

section Respond

variable {around : Surroundings} {fault : Option Fault} {before after : Store}

theorem respond_select {columns : List Column} {filter : List (Column × Bytes)}
    (prepares : (Statement.select columns Table.users filter).prepares schema = true)
    {given : StepResult}
    (responded : respond around fault (.sqlite (.select columns .users filter)) before =
      (given, after)) : after = before := by
  cases fault with
  | none => exact (Prod.mk.inj responded).2.symm.trans (firstRow_select _ _ _ prepares before).2
  | some kind => cases kind <;> exact (Prod.mk.inj responded).2.symm

/-- An `INSERT` completes for a new identifier and leaves its row, or changes nothing. -/
theorem respond_insert {user : User} (fits : user.Fits) (quoteFree : user.QuoteFree) {done : Bool}
    (responded : respond around fault (.sqliteExec (addUserText user)) before = (done, after)) :
    done = true ∧ userRow before user.id = none ∧ after = withUser before user ∨
      done = false ∧ after = before := by
  cases fault with
  | some kind =>
    obtain ⟨rfl, rfl⟩ := Prod.mk.inj responded
    exact Or.inr ⟨rfl, rfl⟩
  | none =>
    have ran : execText around before (addUserText user) = (done, after) := responded
    rw [execText_addUser around fits quoteFree] at ran
    obtain ⟨rfl, rfl⟩ := Prod.mk.inj ran
    cases found : userRow before user.id with
    | none => exact Or.inl ⟨rfl, rfl, rfl⟩
    | some row => exact Or.inr ⟨rfl, withUser_of_taken (by simp [found])⟩

/-- A `DELETE` completes for an unreferenced user, or changes nothing. -/
theorem respond_delete {id : Bytes} {given : StepResult}
    (responded : respond around fault (.sqlite (.delete .users [(.id, id)])) before =
      (given, after)) :
    given = .done ∧ isReferenced before id = false ∧ after = withoutUser before id ∨
      after = before := by
  cases fault with
  | some kind => cases kind <;> exact Or.inr (Prod.mk.inj responded).2.symm
  | none =>
    have ran : given = (before.execute (.delete .users [(.id, id)])).1 :=
      (Prod.mk.inj responded).1.symm
    have left : after = withoutUser before id := (Prod.mk.inj responded).2.symm
    rw [ran, execute_deleteUser, left]
    cases referenced : isReferenced before id with
    | false => exact Or.inl ⟨rfl, rfl, rfl⟩
    | true => exact Or.inr (withoutUser_of_referenced referenced)

/-- Only a completed `DELETE` of its user takes a row away or changes it. -/
theorem respond_keeps {request : Call} {given : request.Answer} (permitted : Permitted request)
    (responded : respond around fault request before = (given, after)) {id : Bytes} {row : Row}
    (stored : userRow before id = some row) (kept : deleted ⟨request, given⟩ ≠ some id) :
    userRow after id = some row := by
  cases permitted with
  | check other =>
    rw [respond_select rfl responded]
    exact stored
  | lookup schoolName =>
    obtain ⟨_, rfl⟩ := Prod.mk.inj responded
    exact stored
  | reply reply =>
    obtain ⟨_, rfl⟩ := Prod.mk.inj responded
    exact stored
  | insert user fits quoteFree =>
    rcases respond_insert fits quoteFree responded with ⟨_, fresh, rfl⟩ | ⟨_, rfl⟩
    · have different : id ≠ user.id := by
        rintro rfl
        cases fresh.symm.trans stored
      rw [userRow_withUser fresh, if_neg different]
      exact stored
    · exact stored
  | delete other =>
    rcases respond_delete responded with ⟨done, unreferenced, rfl⟩ | rfl
    · have different : id ≠ other := by
        rintro rfl
        exact kept (by rw [done]; rfl)
      rw [userRow_withoutUser unreferenced, if_neg different]
      exact stored
    · exact stored

end Respond

/-! ### What one request does -/

/-- What a registration can have done so far. -/
inductive Registering (id pw schoolName : Bytes) : List Exchange → Prop
  | arrived : Registering id pw schoolName []
  | checked (found : StepResult) : Registering id pw schoolName
      [⟨.sqlite (.select [] .users [(.id, id)]), found⟩]
  | duplicate (found : StepResult) : Registering id pw schoolName
      [⟨.sqlite (.select [] .users [(.id, id)]), found⟩,
        ⟨.sendResponse (failure errIdDuplicate), ()⟩]
  | lookedUp (found : StepResult) (codes : Option SchoolCodes) : Registering id pw schoolName
      [⟨.sqlite (.select [] .users [(.id, id)]), found⟩, ⟨.resolveSchoolCode schoolName, codes⟩]
  | unknown (found : StepResult) : Registering id pw schoolName
      [⟨.sqlite (.select [] .users [(.id, id)]), found⟩, ⟨.resolveSchoolCode schoolName, none⟩,
        ⟨.sendResponse (failure schoolNotFound), ()⟩]
  | inserted (found : StepResult) (codes : SchoolCodes) (done : Bool) :
      Registering id pw schoolName
      [⟨.sqlite (.select [] .users [(.id, id)]), found⟩,
        ⟨.resolveSchoolCode schoolName, some codes⟩,
        ⟨.sqliteExec (addUserText (generalUser id pw codes)), done⟩]
  | answered (found : StepResult) (codes : SchoolCodes) : Registering id pw schoolName
      [⟨.sqlite (.select [] .users [(.id, id)]), found⟩,
        ⟨.resolveSchoolCode schoolName, some codes⟩,
        ⟨.sqliteExec (addUserText (generalUser id pw codes)), true⟩,
        ⟨.sendResponse (success respRegisterOk []), ()⟩]

/-- What a deletion can have done so far. -/
inductive Deleting (id : Bytes) : List Exchange → Prop
  | arrived : Deleting id []
  | deleted (result : StepResult) : Deleting id [⟨.sqlite (.delete .users [(.id, id)]), result⟩]
  | answered (result : StepResult) : Deleting id
      [⟨.sqlite (.delete .users [(.id, id)]), result⟩,
        ⟨.sendResponse (if result.isDone then success respDeleteOk [] else failure respDbError),
          ()⟩]

/-- What a request without its operands can have done so far. -/
inductive Refusing : List Exchange → Prop
  | arrived : Refusing []
  | answered : Refusing [⟨.sendResponse (failure respInvalidRequest), ()⟩]

section Paths

variable {path : List Exchange} {last : Server Unit}

theorem refusing_of_path (walked : Program.Path invalidRequest path last) : Refusing path := by
  rcases Program.path_call walked with rfl | ⟨_, rest, rfl, tail⟩
  · exact .arrived
  · rw [Program.path_finished tail]
    exact .answered

/-- A reply ends a request. -/
theorem rest_of_reply {reply : Reply}
    (walked : Program.Path (.call (.sendResponse reply) .finished : Server Unit) path last) :
    path = [] ∨ path = [⟨.sendResponse reply, ()⟩] := by
  rcases Program.path_call walked with rfl | ⟨_, rest, rfl, tail⟩
  · exact Or.inl rfl
  · rw [Program.path_finished tail]
    exact Or.inr rfl

theorem deleting_of_path {id : Bytes} (walked : Program.Path (delete (some id)) path last) :
    Deleting id path := by
  rcases Program.path_call walked with rfl | ⟨result, rest, rfl, tail⟩
  · exact .arrived
  have replies : Program.Path (.call (.sendResponse
      (if result.isDone then success respDeleteOk [] else failure respDbError)) .finished :
      Server Unit) rest last := by
    cases result with
    | unprepared => exact tail
    | failed => exact tail
    | rows found => cases found <;> exact tail
    | done => exact tail
  rcases rest_of_reply replies with rfl | rfl
  · exact .deleted result
  · exact .answered result

theorem registering_of_path {id pw eduOffice schoolName : Bytes}
    (walked : Program.Path (registerGeneral (some id) (some pw) (some eduOffice)
      (some schoolName)) path last) : Registering id pw schoolName path := by
  rcases Program.path_call walked with rfl | ⟨found, rest, rfl, tail⟩
  · exact .arrived
  have branches : Program.Path (if found.firstRow.isSome = true then
      sendResponse respError errIdDuplicate []
      else handleRegisterGeneral id pw eduOffice schoolName >>= fun done =>
        if done = true then sendResponse respSuccess respRegisterOk [] else pure ()) rest last :=
    tail
  split at branches
  · rcases rest_of_reply branches with rfl | rfl
    · exact .checked found
    · exact .duplicate found
  rcases Program.path_call branches with rfl | ⟨codes, rest, rfl, looked⟩
  · exact .checked found
  cases codes with
  | none =>
    rcases Program.path_call looked with rfl | ⟨_, rest, rfl, replied⟩
    · exact .lookedUp found none
    · rw [Program.path_finished replied]
      exact .unknown found
  | some codes =>
    rcases Program.path_call looked with rfl | ⟨done, rest, rfl, inserted⟩
    · exact .lookedUp found (some codes)
    cases done with
    | false =>
      rw [Program.path_finished inserted]
      exact .inserted found codes false
    | true =>
      rcases rest_of_reply inserted with rfl | rfl
      · exact .inserted found codes true
      · exact .answered found codes

end Paths

/-- The arrival is a registration, whose operands pass the checks and whose codes have no quotes,
or a deletion. -/
structure Contends (arrival : Arrival) : Prop where
  command : ∃ request, parseRequest arrival.received = some request ∧
    (request.command = cmdRegisterGeneral ∨ request.command = cmdDelete)
  valid : ∀ id pw codes, arrival.demand = some (.register id pw codes) →
    isValidId id = true ∧ isValidPassword pw = true ∧
      SqlText.quote ∉ codes.eduCode ∧ SqlText.quote ∉ codes.schoolCode

theorem course_of_registerGeneral (schoolCodes : Bytes → Option SchoolCodes)
    {path : List Exchange} {last : Server Unit} : ∀ {id pw eduOffice schoolName : Option Bytes},
    Program.Path (registerGeneral id pw eduOffice schoolName) path last →
    (∃ idText pwText name, demandRecord schoolCodes .register id pw eduOffice schoolName =
        (schoolCodes name).map (.register idText pwText) ∧
      Registering idText pwText name path) ∨ Refusing path
  | none, _, _, _ | some _, none, _, _ | some _, some _, none, _ | some _, some _, some _, none =>
    fun walked => Or.inr (refusing_of_path walked)
  | some id, some pw, some _, some schoolName => fun walked =>
    Or.inl ⟨id, pw, schoolName, rfl, registering_of_path walked⟩

theorem course_of_delete {path : List Exchange} {last : Server Unit} : ∀ {id : Option Bytes},
    Program.Path (delete id) path last →
    (∃ idText, id.map Change.delete = some (.delete idText) ∧ Deleting idText path) ∨
      Refusing path
  | none => fun walked => Or.inr (refusing_of_path walked)
  | some id => fun walked => Or.inl ⟨id, rfl, deleting_of_path walked⟩

/-- A registration or deletion is somewhere in its course. -/
theorem course_of_path {arrival : Arrival} (contends : Contends arrival) {path : List Exchange}
    {last : Server Unit}
    (walked : Program.Path (handleClient arrival.locals arrival.received) path last) :
    (∃ id pw schoolName,
      arrival.demand = (arrival.around.schoolCodes schoolName).map (.register id pw) ∧
        Registering id pw schoolName path) ∨
      (∃ id, arrival.demand = some (.delete id) ∧ Deleting id path) ∨ Refusing path := by
  obtain ⟨⟨command, operands⟩, parsed, command⟩ := contends.command
  rw [handleClient, parsed] at walked
  rw [Arrival.demand, parsed]
  rcases command with isRegister | isDelete
  · obtain rfl : command = cmdRegisterGeneral := isRegister
    rcases course_of_registerGeneral arrival.around.schoolCodes walked with registers | refuses
    · exact Or.inl registers
    · exact Or.inr (Or.inr refuses)
  · obtain rfl : command = cmdDelete := isDelete
    exact Or.inr (course_of_delete walked)

theorem permitted_of_registering {id pw schoolName : Bytes} {path : List Exchange}
    (course : Registering id pw schoolName path)
    (quoteFree : ∀ codes, ⟨.resolveSchoolCode schoolName, some codes⟩ ∈ path →
      (generalUser id pw codes).QuoteFree) :
    ∀ exchange ∈ path, Permitted exchange.request := by
  have insert : ∀ codes, ⟨.resolveSchoolCode schoolName, some codes⟩ ∈ path →
      Permitted (.sqliteExec (addUserText (generalUser id pw codes))) := fun codes resolved =>
    .insert _ (fits_generalUser id pw codes) (quoteFree codes resolved)
  cases course with
  | inserted found codes done | answered found codes =>
    simp [Permitted.check, Permitted.lookup, Permitted.reply, insert codes]
  | arrived | checked | duplicate | lookedUp | unknown =>
    simp [Permitted.check, Permitted.lookup, Permitted.reply]

theorem permitted_of_deleting {id : Bytes} {path : List Exchange} (course : Deleting id path) :
    ∀ exchange ∈ path, Permitted exchange.request := by
  cases course <;> simp [Permitted.delete, Permitted.reply]

theorem permitted_of_refusing {path : List Exchange} (course : Refusing path) :
    ∀ exchange ∈ path, Permitted exchange.request := by
  cases course <;> simp [Permitted.reply]

/-- A registration hands over at most one text, that of its record with the codes it was answered,
and the text completed if the registration reports success. -/
theorem handed_of_registering {id pw schoolName : Bytes} {path : List Exchange}
    (course : Registering id pw schoolName path) :
    path.filterMap handed = [] ∨
      ∃ codes done, ⟨.resolveSchoolCode schoolName, some codes⟩ ∈ path ∧
        path.filterMap handed = [(addUserText (generalUser id pw codes), done)] ∧
        (path.any reportsSuccess = true → done = true) := by
  cases course with
  | inserted found codes done =>
    exact Or.inr ⟨codes, done, by simp, rfl, by simp [reportsSuccess]⟩
  | answered found codes => exact Or.inr ⟨codes, true, by simp, rfl, fun _ => rfl⟩
  | arrived | checked | duplicate | lookedUp | unknown => exact Or.inl rfl

/-- A deletion that reports success has completed its `DELETE`. -/
theorem deleted_of_deleting {id : Bytes} {path : List Exchange} (course : Deleting id path)
    (success : path.any reportsSuccess = true) :
    ∃ exchange ∈ path, deleted exchange = some id := by
  cases course with
  | arrived => cases success
  | deleted result => cases success
  | answered result =>
    refine ⟨_, List.mem_cons_self, ?_⟩
    cases done : result.isDone with
    | true => simp [deleted, done]
    | false => simp [reportsSuccess, done, failure, respError, respSuccess] at success

theorem handed_of_deleting {id : Bytes} {path : List Exchange} (course : Deleting id path) :
    path.filterMap handed = [] := by
  cases course <;> rfl

theorem handed_of_refusing {path : List Exchange} (course : Refusing path) :
    path.filterMap handed = [] := by
  cases course <;> rfl

theorem silent_of_refusing {path : List Exchange} (course : Refusing path) :
    path.any reportsSuccess = false := by
  cases course <;> rfl

/-! ### Side by side -/

section Clients

variable {Index : Type} [DecidableEq Index] (arrivals : Index → Arrival)

/-- One call of one of the requests. It has its effect at once, and may meet a fault. -/
def answers (index : Index) (request : Call) (before : Store) (given : request.Answer)
    (after : Store) : Prop :=
  ∃ fault, respond (arrivals index).around fault request before = (given, after)

/-- The requests before their first calls. -/
def requests (store : Store) : Family Index Call Call.Answer Unit Store :=
  ⟨fun index => handleClient (arrivals index).locals (arrivals index).received, store⟩

/-- A request of the run is answered with success. -/
def Answered (events : List (Event Index Call Call.Answer)) (index : Index) : Prop :=
  (eventsOf index events).any reportsSuccess = true

/-- What an interleaving keeps, for one identifier. -/
structure Exclusive (start : Family Index Call Call.Answer Unit Store)
    (events : List (Event Index Call Call.Answer)) (id : Bytes) : Prop where
  /-- A deletion that is answered with success has completed its `DELETE`. -/
  completes : ∀ index, (arrivals index).demand = some (.delete id) → Answered events index →
    ∃ event ∈ events, event.index = index ∧ deleted event.toExchange = some id
  /-- Where no deletion completes, at most one registration inserts and is answered with success. -/
  atMostOne : ∀ first stretch rest, events = first ++ stretch ++ rest →
    (∀ event ∈ stretch, deleted event.toExchange ≠ some id) →
    ∀ one other pw otherPw codes otherCodes,
      (arrivals one).demand = some (.register id pw codes) →
      (arrivals other).demand = some (.register id otherPw otherCodes) →
      Answered events one → Answered events other →
      (∃ event ∈ stretch, event.index = one ∧ (handed event.toExchange).isSome) →
      (∃ event ∈ stretch, event.index = other ∧ (handed event.toExchange).isSome) → one = other
  /-- From its insertion to the next completed deletion the table holds one row of the identifier,
  with the password and the codes of that registration; the arrays the codes come from are far
  shorter than the cut. -/
  holdsRow : ∀ first insert stretch rest, events = first ++ insert :: (stretch ++ rest) →
    (∀ event ∈ stretch, deleted event.toExchange ≠ some id) →
    ∀ pw codes, (arrivals insert.index).demand = some (.register id pw codes) →
      (handed insert.toExchange).isSome → Answered events insert.index →
      ∀ middle, Runs (answers arrivals) start (first ++ insert :: stretch) middle →
        ∃ row, (middle.shared.tables .users).filter (fun row => row .id = some id) = [row] ∧
          row .pw = some pw ∧ row .eduOffice = some (codes.eduCode.take 49) ∧
          row .schoolName = some (codes.schoolCode.take 49)

section Run

variable {arrivals} {store : Store} {events : List (Event Index Call Call.Answer)}
  {last : Family Index Call Call.Answer Unit Store}
  (runs : Runs (answers arrivals) (requests arrivals store) events last)
  (contends : ∀ index, Contends (arrivals index))

include runs

theorem resolved_of_runs {index : Index} {schoolName : Bytes} {codes : Option SchoolCodes}
    (asked : ⟨.resolveSchoolCode schoolName, codes⟩ ∈ eventsOf index events) :
    (arrivals index).around.schoolCodes schoolName = codes := by
  obtain ⟨before, after, fault, responded⟩ := runs.answered (event_of_mem_eventsOf asked)
  exact (Prod.mk.inj responded).1

include contends

theorem permitted_of_runs {event : Event Index Call Call.Answer} (member : event ∈ events) :
    Permitted event.request := by
  rcases course_of_path (contends event.index) (runs.path event.index) with
    ⟨id, pw, schoolName, demand, course⟩ | ⟨id, _, course⟩ | course
  · refine permitted_of_registering course (fun codes asked => ?_) _ (mem_eventsOf member)
    rw [resolved_of_runs runs asked] at demand
    obtain ⟨validId, validPw, codesFree⟩ := (contends event.index).valid id pw codes demand
    exact quoteFree_of_valid validId validPw codesFree
  · exact permitted_of_deleting course _ (mem_eventsOf member)
  · exact permitted_of_refusing course _ (mem_eventsOf member)

/-- The insertion of a registration that is answered with success is that of the record it asked
for, and it completed. -/
theorem insert_of_runs {event : Event Index Call Call.Answer} (member : event ∈ events)
    (insert : (handed event.toExchange).isSome) (answered : Answered events event.index)
    {id pw : Bytes} {codes : SchoolCodes}
    (demand : (arrivals event.index).demand = some (.register id pw codes)) :
    event.toExchange = ⟨.sqliteExec (addUserText (generalUser id pw codes)), true⟩ := by
  obtain ⟨⟨text, done⟩, given⟩ := Option.isSome_iff_exists.mp insert
  have found : (text, done) ∈ (eventsOf event.index events).filterMap handed :=
    List.mem_filterMap.mpr ⟨_, mem_eventsOf member, given⟩
  rcases course_of_path (contends event.index) (runs.path event.index) with
    ⟨courseId, coursePw, schoolName, asks, course⟩ | ⟨courseId, _, course⟩ | course
  · rcases handed_of_registering course with none | ⟨courseCodes, _, asked, one, completes⟩
    · rw [none] at found
      cases found
    · rw [resolved_of_runs runs asked, demand] at asks
      cases asks
      rw [one] at found
      obtain ⟨rfl, rfl⟩ := Prod.mk.inj (List.mem_singleton.mp found)
      rw [eq_of_handed given, completes answered]
  · rw [handed_of_deleting course] at found
    cases found
  · rw [handed_of_refusing course] at found
    cases found

theorem delete_of_runs {index : Index} {id : Bytes}
    (demand : (arrivals index).demand = some (.delete id)) (answered : Answered events index) :
    ∃ exchange ∈ eventsOf index events, deleted exchange = some id := by
  rcases course_of_path (contends index) (runs.path index) with
    ⟨courseId, coursePw, schoolName, asks, _⟩ | ⟨courseId, asks, course⟩ | course
  · rw [demand] at asks
    obtain ⟨codes, _, impossible⟩ := Option.map_eq_some_iff.mp asks.symm
    cases impossible
  · cases demand.symm.trans asks
    exact deleted_of_deleting course answered
  · rw [Answered, silent_of_refusing course] at answered
    cases answered

/-- It finds the identifier new and leaves the row of the registration. -/
theorem rows_of_insert {event : Event Index Call Call.Answer} (member : event ∈ events)
    (insert : (handed event.toExchange).isSome) (answered : Answered events event.index)
    {id pw : Bytes} {codes : SchoolCodes}
    (demand : (arrivals event.index).demand = some (.register id pw codes))
    {before after : Family Index Call Call.Answer Unit Store}
    (step : Step (answers arrivals) before event after) :
    userRow before.shared id = none ∧ userRow after.shared id = some (rowOf
      ⟨id, pw, [], roleGeneral, codes.eduCode.take 49, codes.schoolCode.take 49⟩) := by
  obtain ⟨validId, validPw, codesFree⟩ := (contends event.index).valid id pw codes demand
  have completed := insert_of_runs runs contends member insert answered demand
  rw [← generalUser_of_valid validId validPw codes]
  have named : (generalUser id pw codes).id = id := by
    rw [generalUser_of_valid validId validPw codes]
  cases step with
  | call index request next given left pending made =>
    cases completed
    obtain ⟨fault, responded⟩ := made
    rcases respond_insert (fits_generalUser id pw codes)
      (quoteFree_of_valid validId validPw codesFree) responded with
      ⟨_, fresh, rfl⟩ | ⟨impossible, _⟩
    · rw [userRow_withUser fresh, if_pos named.symm]
      rw [named] at fresh
      exact ⟨fresh, rfl⟩
    · cases impossible

/-- A row stands while no `DELETE` of its user completes. -/
theorem row_stands {first following : Family Index Call Call.Answer Unit Store}
    {stretch : List (Event Index Call Call.Answer)}
    (part : Runs (answers arrivals) first stretch following) (within : stretch ⊆ events)
    {id : Bytes} (kept : ∀ event ∈ stretch, deleted event.toExchange ≠ some id) {row : Row}
    (stored : userRow first.shared id = some row) : userRow following.shared id = some row := by
  refine part.invariant (fun store => userRow store id = some row) stored ?_
  rintro event member before after ⟨fault, responded⟩ stored
  exact respond_keeps (permitted_of_runs runs contends (within member)) responded stored
    (kept event member)

/-- Two insertions for one identifier that are both answered with success do not follow each
other without a completed `DELETE` between them. -/
theorem not_kept_between {first between rest : List (Event Index Call Call.Answer)}
    {one other : Event Index Call Call.Answer}
    (split : events = first ++ one :: (between ++ other :: rest)) {id pw otherPw : Bytes}
    {codes otherCodes : SchoolCodes}
    (demand : (arrivals one.index).demand = some (.register id pw codes))
    (otherDemand : (arrivals other.index).demand = some (.register id otherPw otherCodes))
    (answered : Answered events one.index) (otherAnswered : Answered events other.index)
    (insert : (handed one.toExchange).isSome) (otherInsert : (handed other.toExchange).isSome) :
    ∃ event ∈ between, deleted event.toExchange = some id := by
  by_contra none
  have kept : ∀ event ∈ between, deleted event.toExchange ≠ some id :=
    fun event member removed => none ⟨event, member, removed⟩
  have cut := runs
  rw [split] at cut
  obtain ⟨before, after, _, step, tail⟩ := cut.split
  obtain ⟨otherBefore, otherAfter, middle, otherStep, _⟩ := tail.split
  have stored := (rows_of_insert runs contends (by simp [split]) insert answered demand step).2
  have stands := row_stands runs contends middle (by intro event; simp_all) kept stored
  have fresh := (rows_of_insert runs contends (by simp [split]) otherInsert otherAnswered
    otherDemand otherStep).1
  cases fresh.symm.trans stands

end Run

/-- The rows of a stored user are the one row. -/
theorem rows_of_userRow {store : Store} {id : Bytes} {row : Row}
    (stored : userRow store id = some row) :
    (store.tables .users).filter (fun row => row .id = some id) = [row] := by
  obtain ⟨member, key⟩ := (userRow_eq_some_iff store id row).mp stored
  have unique := store.holds.unique .users
  rw [Relational.Schema.keysOf, List.filter_map] at unique
  have sublist : ((store.tables .users).filter fun row => row .id = some id).Sublist
      ((store.tables .users).filter
        ((fun key : List (Option Bytes) => key.all Option.isSome) ∘ schema.keyOf .users)) := by
    refine List.monotone_filter_right _ fun other named => ?_
    show [other .id].all Option.isSome = true
    rw [of_decide_eq_true named]
    rfl
  have nodup := ((sublist.map (schema.keyOf .users)).nodup unique).of_map
  have same : ∀ other ∈ (store.tables .users).filter fun row => row .id = some id,
      other = row := by
    intro other otherMember
    obtain ⟨otherStored, otherKey⟩ := List.mem_filter.mp otherMember
    exact users_unique store otherStored member (of_decide_eq_true otherKey) key
  have present : row ∈ (store.tables .users).filter fun row => row .id = some id :=
    List.mem_filter.mpr ⟨member, decide_eq_true key⟩
  rw [List.eq_replicate_of_mem same] at nodup present ⊢
  have one := List.nodup_replicate.mp nodup
  have some_ := (List.mem_replicate.mp present).1
  rw [show List.length _ = 1 by omega]
  rfl

/-- However registrations and deletions interleave, the primary key keeps the registrations of one
identifier apart. -/
theorem exclusive_of_runs (contends : ∀ index, Contends (arrivals index)) {store : Store}
    {events : List (Event Index Call Call.Answer)}
    {last : Family Index Call Call.Answer Unit Store}
    (runs : Runs (answers arrivals) (requests arrivals store) events last) (id : Bytes) :
    Exclusive arrivals (requests arrivals store) events id := by
  refine ⟨?_, ?_, ?_⟩
  · intro index demand answered
    obtain ⟨exchange, member, removed⟩ :=
      delete_of_runs runs contends demand answered
    exact ⟨_, event_of_mem_eventsOf member, rfl, removed⟩
  · rintro first stretch rest split kept _ _ pw otherPw codes otherCodes demand otherDemand
      answered otherAnswered ⟨one, member, rfl, insert⟩ ⟨other, otherMember, rfl, otherInsert⟩
    obtain ⟨earlier, later, rfl⟩ := List.append_of_mem member
    rcases List.mem_append.mp otherMember with before | after
    · obtain ⟨head, between, rfl⟩ := List.append_of_mem before
      have cut : events = (first ++ head) ++ other :: (between ++ one :: (later ++ rest)) := by
        simp [split]
      obtain ⟨event, inside, removed⟩ := not_kept_between runs contends cut otherDemand demand
        otherAnswered answered otherInsert insert
      exact absurd removed (kept event (by simp [inside]))
    · rcases List.mem_cons.mp after with rfl | after
      · rfl
      · obtain ⟨between, tail, rfl⟩ := List.append_of_mem after
        have cut : events = (first ++ earlier) ++ one :: (between ++ other :: (tail ++ rest)) := by
          simp [split]
        obtain ⟨event, inside, removed⟩ := not_kept_between runs contends cut demand otherDemand
          answered otherAnswered insert otherInsert
        exact absurd removed (kept event (by simp [inside]))
  · intro first insert stretch rest split kept pw codes demand inserts answered middle reached
    obtain ⟨before, after, _, step, tail⟩ := reached.split
    have stored := (rows_of_insert runs contends (by simp [split]) inserts answered demand step).2
    have within : stretch ⊆ events := by
      intro event member
      simp [split, member]
    exact ⟨_, rows_of_userRow (row_stands runs contends tail within kept stored), rfl, rfl, rfl⟩

end Clients

/-! ### Two rivals -/

/-- Two registrations of one identifier, and a deletion. -/
def rivals : Option Bool → Arrival
  | some true => sampleRegistration
  | some false => .calm (requestText cmdRegisterGeneral
      [utf8 "user1", utf8 "5678", utf8 "Seoul", utf8 "Sample School"])
  | none => .calm (requestText cmdDelete [utf8 "user1"])

theorem contends_rivals (index : Option Bool) : Contends (rivals index) := by
  have registration : ∀ (first : Bool), ∃ asked, (rivals (some first)).demand =
      some (.register (utf8 "user1") asked ⟨utf8 "B10", utf8 "7010569"⟩) ∧
      isValidPassword asked = true
    | true => ⟨utf8 "1234", by decide, by decide⟩
    | false => ⟨utf8 "5678", by decide, by decide⟩
  cases index with
  | none =>
    refine ⟨⟨⟨cmdDelete, { Operands.null with id := some (utf8 "user1") }⟩, by decide,
      Or.inr rfl⟩, fun id pw codes asks => ?_⟩
    have demand : (rivals none).demand = some (.delete (utf8 "user1")) := by decide
    cases demand.symm.trans asks
  | some first =>
    obtain ⟨asked, demand, validPw⟩ := registration first
    obtain ⟨request, parsed, asks⟩ := Arrival.asks demand
    refine ⟨⟨request, parsed, Or.inl asks.1⟩, fun id pw codes same => ?_⟩
    cases demand.symm.trans same
    exact ⟨by decide, validPw, by decide, by decide⟩

/-- Both rivals check and look up the school before either inserts; the deletion comes last. -/
def contest : List (Event (Option Bool) Call Call.Answer) :=
  (schedule (fun index => respond (rivals index).around none)
    [some true, some false, some true, some false, some true, some false, some true, none]
    (requests rivals initDb)).1

/-- The first rival to insert is answered with success, and the other is not. -/
theorem exclusive_contest : (Answered contest (some true) ∧ ¬ Answered contest (some false)) ∧
    Exclusive rivals (requests rivals initDb) contest (utf8 "user1") := by
  refine ⟨⟨?_, ?_⟩, ?_⟩
  · show (eventsOf (some true) contest).any reportsSuccess = true
    decide
  · show ¬ (eventsOf (some false) contest).any reportsSuccess = true
    decide
  · exact exclusive_of_runs rivals contends_rivals
      (runs_schedule _ (fun _ _ _ => ⟨none, rfl⟩) _ _) (utf8 "user1")

end SchoolMeals
