/-
This file runs requests of every kind side by side, one call at a time and in any
order, while SQLite may report faults to some of them. Each request checks before
it changes anything, and other requests can change the store in between. It still
has one call at which it takes effect: a statement that makes its whole change,
or the check, lookup or statement at which it is lost. Every run is therefore
explained by an order of the requests in which each makes its change at once or
not at all, and without faults the store is the one the request loop leaves when
it serves them in that order, one after the other.

A `DEL_CHILD` is the exception in what is reported. Two of them can find the link
before either removes it, and both report success.
-/

import SchoolMeals.Interleaving
import SchoolMeals.Statements
import SchoolMeals.Library.Atomicity

namespace SchoolMeals

open CText Interaction Relational

/-! ### Well-kept stores -/

/-- Every stored identifier fits its array, and no column that `get_user` copies is null. -/
def WellKept (store : Store) : Prop :=
  ∀ id row, userRow store id = some row → id.length ≤ maxIdLen - 1 ∧ isReadable row = true

theorem wellKept_initDb : WellKept initDb := fun _ _ stored => nomatch stored

theorem WellKept.of_users {before after : Store} (kept : WellKept before)
    (same : after.tables .users = before.tables .users) : WellKept after :=
  fun id row stored => kept id row ((userRow_of_users same id).symm.trans stored)

/-- The store can make the change. Removing a link that is not there removes nothing. -/
def Change.Ready (store : Store) : Change → Prop
  | .unlink .. => True
  | change => change.Possible store

theorem Change.Possible.ready {store : Store} {change : Change}
    (possible : change.Possible store) : change.Ready store := by
  cases change with
  | unlink => exact trivial
  | _ => exact possible

section Kept

variable {store : Store} (kept : WellKept store)

include kept

theorem wellKept_withUser {user : User} (short : user.id.length ≤ maxIdLen - 1) :
    WellKept (withUser store user) := by
  cases found : userRow store user.id with
  | some row =>
    rw [withUser_of_taken (by simp [found])]
    exact kept
  | none =>
    intro id row stored
    rw [userRow_withUser found] at stored
    split at stored
    · rename_i same
      obtain rfl := Option.some.inj stored
      exact ⟨same ▸ short, rfl⟩
    · exact kept id row stored

theorem wellKept_withUpdate (user : User) : WellKept (withUpdate store user) := by
  intro id row stored
  rw [userRow_withUpdate] at stored
  obtain ⟨old, found, rfl⟩ := Option.map_eq_some_iff.mp stored
  obtain ⟨fits, readable⟩ := kept id old found
  refine ⟨fits, ?_⟩
  split
  · rfl
  · exact readable

theorem wellKept_withoutUser (id : Bytes) : WellKept (withoutUser store id) := by
  cases referenced : isReferenced store id with
  | true =>
    rw [withoutUser_of_referenced referenced]
    exact kept
  | false =>
    intro other row stored
    rw [userRow_withoutUser referenced] at stored
    split at stored
    · cases stored
    · exact kept other row stored

theorem wellKept_withLink (childId parentId : Bytes) : WellKept (withLink store childId parentId) :=
  kept.of_users (Store.execute_tables store _ (by simp [Statement.target]))

theorem wellKept_withoutLink (childId parentId : Bytes) :
    WellKept (withoutLink store childId parentId) :=
  kept.of_users (Store.execute_tables store _ (by simp [Statement.target]))

theorem wellKept_apply (change : Change) : WellKept (change.apply store) := by
  cases change with
  | register id pw codes =>
    refine wellKept_withUser kept ?_
    rw [generalUser_eq]
    exact List.length_take_le _ _
  | update id pw codes => exact wellKept_withUpdate kept _
  | delete id => exact wellKept_withoutUser kept id
  | link childId parentId => exact wellKept_withLink kept childId parentId
  | unlink childId parentId => exact wellKept_withoutLink kept childId parentId

end Kept

/-! ### One request among others -/

/-- The arrival with a SQLite that reports no faults. -/
def Arrival.faultless (arrival : Arrival) : Arrival :=
  ⟨arrival.received, arrival.locals, { arrival.around with sqliteFault := fun _ => none }⟩

/-- A call is answered, with a fault unless the request is spared. -/
def Arrival.Answers (arrival : Arrival) (spared : Bool) (request : Call) (before : Store)
    (given : request.Answer) (after : Store) : Prop :=
  ∃ fault, (spared = true → fault = none) ∧
    respond arrival.around fault request before = (given, after)

/-- The reply reports that the change was made. -/
def Arrival.reports (arrival : Arrival) (exchange : Exchange) : Bool :=
  arrival.demand.isSome && reportsSuccess exchange

/-- The change removes a link. -/
def Change.isUnlink : Change → Bool
  | .unlink .. => true
  | _ => false

/-- The request makes the change it asks for, which the store is ready for, or makes none. A
request that is spared makes its change whenever it would alone. -/
inductive TakesEffect (arrival : Arrival) (spared : Bool) (before : Store) : Bool → Store → Prop
  | made (change : Change) (demand : arrival.demand = some change) (ready : change.Ready before)
      (accepted : spared = true →
        change.isUnlink = true ∨ change.Accepted arrival.faultless.around before) :
      TakesEffect arrival spared before true (change.apply before)
  | refused (unaccepted : spared = true → ∀ change, arrival.demand = some change →
        ¬ change.Accepted arrival.faultless.around before) :
      TakesEffect arrival spared before false before

theorem wellKept_of_takesEffect {arrival : Arrival} {spared success : Bool} {before after : Store}
    (effect : TakesEffect arrival spared before success after) (kept : WellKept before) :
    WellKept after := by
  cases effect with
  | made change => exact wellKept_apply kept change
  | refused => exact kept

/-- The request takes effect at one of the calls the program makes. -/
abbrev Arrival.Atomic (arrival : Arrival) (spared : Bool) (program : Server Unit) : Prop :=
  Interaction.Atomic (arrival.Answers spared) arrival.reports WellKept
    (TakesEffect arrival spared) program

/-- The program makes no change, and it reports success just when that is due. -/
abbrev Arrival.Settled (arrival : Arrival) (spared : Bool) (program : Server Unit) (due : Bool) :
    Prop :=
  Interaction.Settled (arrival.Answers spared) arrival.reports WellKept program due

section Calls

variable {arrival : Arrival} {spared : Bool} {before after : Store}

/-- What one call of the handler does, it does for every number of the call. -/
def Surroundings.meeting (around : Surroundings) (fault : Option Fault) : Surroundings :=
  { around with sqliteFault := fun _ => fault }

theorem answered_isUserExists {id : Bytes} {given : StepResult}
    (answered : arrival.Answers spared (.sqlite (.select [] .users [(.id, id)])) before given
      after) : after = before ∧ ∃ quiet : Bool, (spared = true → quiet = true) ∧
        given.firstRow.isSome = (quiet && (userRow before id).isSome) := by
  obtain ⟨fault, spares, responded⟩ := answered
  have run := run_isUserExists (arrival.around.meeting fault) ⟨before, 0, []⟩ id
  have both : given.firstRow.isSome = (fault.isNone && (userRow before id).isSome) ∧
      after = before := by
    obtain ⟨found, world⟩ := Prod.mk.inj run
    rw [← (Prod.mk.inj responded).1, ← (Prod.mk.inj responded).2]
    exact ⟨Option.some.inj found, congrArg World.store world⟩
  exact ⟨both.2, fault.isNone, fun spare => by rw [spares spare]; rfl, both.1⟩

theorem answered_isChildRegistered {childId parentId : Bytes} {given : StepResult}
    (answered : arrival.Answers spared (.sqlite (.select [] .children
      [(.childId, childId), (.parentId, parentId)])) before given after) :
    after = before ∧ ∃ quiet : Bool, (spared = true → quiet = true) ∧
      given.firstRow.isSome = (quiet && isLinked before childId parentId) := by
  obtain ⟨fault, spares, responded⟩ := answered
  have run := run_isChildRegistered (arrival.around.meeting fault) ⟨before, 0, []⟩ childId parentId
  have both : given.firstRow.isSome = (fault.isNone && isLinked before childId parentId) ∧
      after = before := by
    obtain ⟨found, world⟩ := Prod.mk.inj run
    rw [← (Prod.mk.inj responded).1, ← (Prod.mk.inj responded).2]
    exact ⟨Option.some.inj found, congrArg World.store world⟩
  exact ⟨both.2, fault.isNone, fun spare => by rw [spares spare]; rfl, both.1⟩

/-- A query leaves the store as it was. -/
theorem answered_select {columns : List Column} {table : Table} {filter : List (Column × Bytes)}
    {given : StepResult}
    (answered : arrival.Answers spared (.sqlite (.select columns table filter)) before given
      after) : after = before := by
  obtain ⟨fault, _, responded⟩ := answered
  rw [← (Prod.mk.inj responded).2]
  cases fault with
  | none =>
    show (before.execute (.select columns table filter)).2 = before
    unfold Store.execute
    split <;> rfl
  | some kind => cases kind <;> rfl

/-- A statement that only reports whether it completed does so as SQLite does, or not at all. -/
theorem answered_statement {statement : Statement} {given : StepResult}
    (answered : arrival.Answers spared (.sqlite statement) before given after) :
    (given = (before.execute statement).1 ∧ after = (before.execute statement).2) ∨
      (spared = false ∧ given.isDone = false ∧ after = before) := by
  obtain ⟨fault, spares, responded⟩ := answered
  obtain ⟨rfl, rfl⟩ := Prod.mk.inj responded
  cases fault with
  | none => exact Or.inl ⟨rfl, rfl⟩
  | some kind =>
    have unspared : spared = false := Bool.eq_false_iff.mpr fun spare => nomatch spares spare
    cases kind with
    | prepare => exact Or.inr ⟨unspared, rfl, rfl⟩
    | step =>
      refine Or.inr ⟨unspared, ?_, rfl⟩
      show (if statement.prepares schema then Result.failed else Result.unprepared).isDone = false
      split <;> rfl

theorem answered_lookup {schoolName : Bytes} {codes : Option SchoolCodes}
    (answered : arrival.Answers spared (.resolveSchoolCode schoolName) before codes after) :
    codes = arrival.around.schoolCodes schoolName ∧ after = before := by
  obtain ⟨fault, _, responded⟩ := answered
  exact ⟨(Prod.mk.inj responded).1.symm, (Prod.mk.inj responded).2.symm⟩

end Calls

/-! ### The branches that change the store -/

section Branches

variable {arrival : Arrival} {spared : Bool}

theorem settled_sendResponse (status : Nat) (message data : Bytes) {due : Bool}
    (paid : due = (arrival.demand.isSome && decide (status = respSuccess))) :
    arrival.Settled spared (sendResponse status message data) due := by
  intro before answer after _ answered
  obtain ⟨fault, _, responded⟩ := answered
  refine ⟨(Prod.mk.inj responded).2.symm, ?_⟩
  show if (arrival.demand.isSome && decide (status = respSuccess)) = true then _ else due = false
  rw [← paid]
  cases due with
  | true => exact ⟨rfl, rfl⟩
  | false => rfl

theorem settled_failure (message : Bytes) :
    arrival.Settled spared (sendResponse respError message []) false :=
  settled_sendResponse respError message [] (by cases arrival.demand.isSome <;> rfl)

theorem settled_success {change : Change} (asked : arrival.demand = some change)
    (message data : Bytes) :
    arrival.Settled spared (sendResponse respSuccess message data) true :=
  settled_sendResponse respSuccess message data (by rw [asked]; rfl)

theorem unreported {exchange : Exchange} (silent : reportsSuccess exchange = false) :
    arrival.reports exchange = false := by
  rw [Arrival.reports, silent, Bool.and_false]

/-- A request that asks for no change replies with an error. -/
theorem atomic_failure (message : Bytes) (undemanded : arrival.demand = none) :
    arrival.Atomic spared (sendResponse respError message []) := by
  intro before answer after _ answered
  obtain ⟨fault, _, responded⟩ := answered
  obtain ⟨rfl, rfl⟩ := Prod.mk.inj responded
  refine ⟨unreported rfl, Or.inr ⟨false, .refused fun _ change asked => ?_, rfl⟩⟩
  cases undemanded.symm.trans asked

/-- The request is lost at this call. -/
theorem refused_of {change : Change} (asked : arrival.demand = some change) {before : Store}
    (unaccepted : spared = true → ¬ change.Accepted arrival.faultless.around before) :
    TakesEffect arrival spared before false before := by
  refine .refused fun spare other otherAsked => ?_
  cases asked.symm.trans otherAsked
  exact unaccepted spare

theorem refused_unspared (unspared : spared = false) (before : Store) :
    TakesEffect arrival spared before false before :=
  .refused fun spare => Bool.noConfusion (unspared.symm.trans spare)

/-- The call before left the store as it was. What is left of the request takes effect later, or
the request took effect there. -/
def Arrival.Lands (arrival : Arrival) (spared : Bool) (before : Store) (program : Server Unit) :
    Prop :=
  arrival.Atomic spared program ∨
    ∃ success, TakesEffect arrival spared before success before ∧
      arrival.Settled spared program success

theorem lands_failure {before : Store} (effect : TakesEffect arrival spared before false before)
    (message : Bytes) : arrival.Lands spared before (sendResponse respError message []) :=
  Or.inr ⟨false, effect, settled_failure message⟩

theorem atomic_isUserExists {id : Bytes} {next : Bool → Server Unit}
    (lands : ∀ before, WellKept before → ∀ quiet : Bool, (spared = true → quiet = true) →
      arrival.Lands spared before (next (quiet && (userRow before id).isSome))) :
    arrival.Atomic spared (isUserExists id >>= next) := by
  intro before given after kept answered
  obtain ⟨rfl, quiet, always, found⟩ := answered_isUserExists answered
  have landed := lands after kept quiet always
  rw [← found] at landed
  exact ⟨unreported rfl, landed.imp (fun later => ⟨rfl, later⟩) fun effect => effect⟩

theorem atomic_isChildRegistered {childId parentId : Bytes} {next : Bool → Server Unit}
    (lands : ∀ before, WellKept before → ∀ quiet : Bool, (spared = true → quiet = true) →
      arrival.Lands spared before (next (quiet && isLinked before childId parentId))) :
    arrival.Atomic spared (isChildRegistered childId parentId >>= next) := by
  intro before given after kept answered
  obtain ⟨rfl, quiet, always, found⟩ := answered_isChildRegistered answered
  have landed := lands after kept quiet always
  rw [← found] at landed
  exact ⟨unreported rfl, landed.imp (fun later => ⟨rfl, later⟩) fun effect => effect⟩

theorem atomic_resolveSchoolCode {schoolName : Bytes}
    {next : Option SchoolCodes → Server Unit}
    (lands : ∀ before, WellKept before →
      arrival.Lands spared before (next (arrival.around.schoolCodes schoolName))) :
    arrival.Atomic spared (resolveSchoolCode schoolName >>= next) := by
  intro before codes after kept answered
  obtain ⟨rfl, rfl⟩ := answered_lookup answered
  exact ⟨unreported rfl, (lands after kept).imp (fun later => ⟨rfl, later⟩) fun effect => effect⟩

/-- What is left after `get_user` does not depend on when it is called: a null column leaves
nothing. -/
theorem atomic_getUser {beyond : User} {id : Bytes} {next : Option User → Server Unit}
    (later : ∀ found, arrival.Atomic spared (next found)) :
    arrival.Atomic spared (getUser beyond id >>= next) := by
  intro before given after kept answered
  refine ⟨unreported rfl, Or.inl ⟨answered_select answered, ?_⟩⟩
  refine @atomic_bind_of_silent _ _ _ _ _ _ _ _ _ arrival.Possible _ _ ?_ later
  show Only _ _ (Program.finished given >>= _)
  refine only_bind trivial fun result => ?_
  split
  · trivial
  · exact only_fiveColumns _ _

/-- A statement that completes makes its change, and the request knows it. -/
theorem atomic_isDone {statement : Statement} {next : Bool → Server Unit}
    (completes : ∀ before, WellKept before → ∃ success,
      TakesEffect arrival spared before success (before.execute statement).2 ∧
        arrival.Settled spared (next (before.execute statement).1.isDone) success)
    (fails : arrival.Settled spared (next false) false) :
    arrival.Atomic spared ((do let result ← sqlite statement; return result.isDone) >>= next) := by
  intro before given after kept answered
  refine ⟨unreported rfl, Or.inr ?_⟩
  rcases answered_statement answered with ⟨rfl, rfl⟩ | ⟨unspared, undone, rfl⟩
  · exact completes before kept
  · refine ⟨false, refused_unspared unspared _, ?_⟩
    show arrival.Settled spared (next given.isDone) false
    rw [undone]
    exact fails

theorem atomic_addUser {user : User} (fits : user.Fits) (quoteFree : user.QuoteFree)
    {next : Bool → Server Unit}
    (completes : ∀ before, WellKept before → ∃ success,
      TakesEffect arrival spared before success (withUser before user) ∧
        arrival.Settled spared (next (userRow before user.id).isNone) success)
    (fails : arrival.Settled spared (next false) false) :
    arrival.Atomic spared (addUser user >>= next) := by
  intro before done after kept answered
  refine ⟨unreported rfl, Or.inr ?_⟩
  obtain ⟨fault, spares, responded⟩ := answered
  cases fault with
  | some kind =>
    obtain ⟨rfl, rfl⟩ := Prod.mk.inj responded
    exact ⟨false, .refused fun spare => (nomatch spares spare), fails⟩
  | none =>
    have ran : execText arrival.around before (addUserText user) = (done, after) := responded
    rw [execText_addUser arrival.around fits quoteFree] at ran
    obtain ⟨rfl, rfl⟩ := Prod.mk.inj ran
    exact completes before kept

/-- A stored identifier is not cut, so where the cut one is new the whole one is. -/
theorem userRow_of_cut {store : Store} (kept : WellKept store) {id pw : Bytes}
    (codes : SchoolCodes) (fresh : userRow store (generalUser id pw codes).id = none) :
    userRow store id = none := by
  rw [generalUser_eq] at fresh
  by_contra stored
  obtain ⟨row, found⟩ := Option.ne_none_iff_exists'.mp stored
  have whole : id.take 19 = id := List.take_of_length_le (kept id row found).1
  rw [show (User.mk (id.take 19) (pw.take 19) [] roleGeneral (codes.eduCode.take 49)
    (codes.schoolCode.take 49)).id = id from whole, found] at fresh
  cases fresh

theorem atomic_registerGeneral : ∀ {id pw eduOffice schoolName : Option Bytes},
    arrival.demand = demandRecord arrival.around.schoolCodes .register id pw eduOffice schoolName →
    (∀ idText ∈ id, ∀ pwText ∈ pw, ∀ name ∈ schoolName, ∀ codes ∈ arrival.around.schoolCodes name,
      (generalUser idText pwText codes).QuoteFree) →
    arrival.Atomic spared (registerGeneral id pw eduOffice schoolName)
  | none, _, _, _, demand, _ | some _, none, _, _, demand, _ | some _, some _, none, _, demand, _
  | some _, some _, some _, none, demand, _ => atomic_failure respInvalidRequest demand
  | some id, some pw, some eduOffice, some schoolName, demand, quoteFree => by
    refine atomic_isUserExists fun before _ quiet always => ?_
    cases taken : quiet && (userRow before id).isSome with
    | true =>
      refine lands_failure (.refused fun spare change asked accepted => ?_) errIdDuplicate
      obtain ⟨codes, _, rfl⟩ := Option.map_eq_some_iff.mp (demand.symm.trans asked)
      have absent : (userRow before id).isSome = false := accepted.1
      rw [absent, Bool.and_false] at taken
      cases taken
    | false =>
      refine Or.inl (atomic_resolveSchoolCode fun before _ => ?_)
      cases resolved : arrival.around.schoolCodes schoolName with
      | none =>
        refine lands_failure (.refused fun spare change asked => ?_) schoolNotFound
        rw [demand, demandRecord, resolved] at asked
        cases asked
      | some codes =>
        have asks : arrival.demand = some (.register id pw codes) := by
          rw [demand, demandRecord, resolved]
          rfl
        refine Or.inl (atomic_addUser (fits_generalUser id pw codes)
          (quoteFree id rfl pw rfl schoolName rfl codes resolved) (fun before kept => ?_) rfl)
        cases found : userRow before (generalUser id pw codes).id with
        | none =>
          refine ⟨true, .made (.register id pw codes) asks found fun _ => Or.inr ⟨?_, rfl, found⟩,
            settled_success asks _ _⟩
          rw [userRow_of_cut kept codes found]
          rfl
        | some row =>
          refine ⟨false, ?_, rfl⟩
          rw [withUser_of_taken (by simp [found])]
          refine refused_of asks fun _ accepted => ?_
          cases found.symm.trans accepted.2.2

theorem atomic_update : ∀ {id pw eduOffice schoolName : Option Bytes},
    arrival.demand = demandRecord arrival.around.schoolCodes .update id pw eduOffice schoolName →
    arrival.Atomic spared (update id pw eduOffice schoolName)
  | none, _, _, _, demand | some _, none, _, _, demand | some _, some _, none, _, demand
  | some _, some _, some _, none, demand => atomic_failure respInvalidRequest demand
  | some id, some pw, some eduOffice, some schoolName, demand => by
    refine atomic_resolveSchoolCode fun before _ => ?_
    cases resolved : arrival.around.schoolCodes schoolName with
    | none =>
      refine lands_failure (.refused fun spare change asked => ?_) schoolNotFound
      rw [demand, demandRecord, resolved] at asked
      cases asked
    | some codes =>
      have asks : arrival.demand = some (.update id pw codes) := by
        rw [demand, demandRecord, resolved]
        rfl
      refine Or.inl (atomic_getUser fun oldUser => atomic_isDone (fun before kept => ?_)
        (settled_failure _))
      have done := @execute_updateUser before (updatedUser id pw codes (oldUser.getD User.zero))
      refine ⟨true, .made (.update id pw codes) asks trivial fun _ => Or.inr ⟨?_, rfl⟩, ?_⟩
      · show (userRow before id).any (!isReadable ·) = false
        cases found : userRow before id with
        | none => rfl
        | some row =>
          rw [Option.any_some, (kept id row found).2]
          rfl
      · show arrival.Settled spared (if (before.execute (.update .users
            (updatedColumns (updatedUser id pw codes (oldUser.getD User.zero))) _)).1.isDone = true
          then sendResponse respSuccess respUpdateOk [] else _) true
        rw [if_pos done]
        exact settled_success asks _ _

theorem atomic_delete : ∀ {id : Option Bytes}, arrival.demand = id.map .delete →
    arrival.Atomic spared (delete id)
  | none, demand => atomic_failure respInvalidRequest demand
  | some id, demand => by
    intro before given after kept answered
    refine ⟨unreported rfl, Or.inr ?_⟩
    rcases answered_statement answered with ⟨rfl, rfl⟩ | ⟨unspared, undone, rfl⟩
    · rw [execute_deleteUser]
      cases referenced : isReferenced before id with
      | false =>
        exact ⟨true, .made (.delete id) demand referenced fun _ => Or.inr ⟨rfl, referenced⟩,
          settled_success demand _ _⟩
      | true =>
        have same : withoutUser before id = before := withoutUser_of_referenced referenced
        refine ⟨false, ?_, settled_failure _⟩
        rw [← withoutUser, same]
        exact refused_of demand fun _ accepted =>
          Bool.noConfusion (referenced.symm.trans accepted.2)
    · refine ⟨false, refused_unspared unspared _, ?_⟩
      cases given with
      | done => cases undone
      | unprepared => exact settled_failure _
      | failed => exact settled_failure _
      | rows found =>
        cases found with
        | nil => cases undone
        | cons => exact settled_failure _

theorem atomic_addChild : ∀ {id childId : Option Bytes},
    arrival.demand = demandLink .link id childId → arrival.Atomic spared (addChild id childId)
  | none, _, demand | some _, none, demand => atomic_failure respInvalidRequest demand
  | some id, some childId, demand => by
    -- the child is checked twice, and the addition is lost where a check does not find it
    have lost : ∀ (before : Store) (quiet : Bool), (spared = true → quiet = true) →
        (quiet && (userRow before childId).isSome) = false →
        TakesEffect arrival spared before false before := by
      intro before quiet always missing
      refine refused_of demand fun spare accepted => ?_
      rw [always spare, accepted.2.2.2.1] at missing
      cases missing
    refine atomic_isUserExists fun before _ quiet always => ?_
    cases known : quiet && (userRow before childId).isSome with
    | false => exact lands_failure (lost before quiet always known) errChildUserNotFound
    | true =>
      refine Or.inl ?_
      show arrival.Atomic spared (dbAddChild childId id >>= _)
      rw [dbAddChild, Program.bind_assoc]
      refine atomic_isUserExists fun before _ quiet always => ?_
      cases present : quiet && (userRow before childId).isSome with
      | false => exact lands_failure (lost before quiet always present) respDbError
      | true =>
        refine Or.inl (atomic_isDone (fun before _ => ?_) (settled_failure _))
        rw [execute_insertLink]
        by_cases possible : (userRow before childId).isSome ∧ (userRow before id).isSome ∧
            isLinked before childId id = false
        · refine ⟨true, .made (.link childId id) demand possible fun _ =>
            Or.inr ⟨rfl, rfl, rfl, possible⟩, ?_⟩
          rw [possible.1, possible.2.1, possible.2.2]
          exact settled_success demand _ _
        · refine ⟨false, ?_, ?_⟩
          · rw [← withLink, withLink_of_refused possible]
            exact refused_of demand fun _ accepted => possible accepted.2.2.2
          · rw [show ((userRow before childId).isSome && (userRow before id).isSome &&
              !isLinked before childId id) = false by simpa [and_assoc] using possible]
            exact settled_failure _

theorem atomic_delChild : ∀ {id childId : Option Bytes},
    arrival.demand = demandLink .unlink id childId → arrival.Atomic spared (delChild id childId)
  | none, _, demand | some _, none, demand => atomic_failure respInvalidRequest demand
  | some id, some childId, demand => by
    refine atomic_isChildRegistered fun before _ quiet always => ?_
    cases linked : quiet && isLinked before childId id with
    | false =>
      refine lands_failure (refused_of demand fun spare accepted => ?_) errInvalidChildId
      rw [always spare, accepted.2.2] at linked
      cases linked
    | true =>
      refine Or.inl (atomic_isDone (fun before _ => ?_) (settled_failure _))
      rw [execute_deleteLink]
      exact ⟨true, .made (.unlink childId id) demand trivial fun _ => Or.inl rfl,
        settled_success demand _ _⟩

/-! ### The dispatcher -/

theorem pending_mealCodes {eduOffice schoolName : Bytes}
    {next : Option SchoolCodes → Server Unit} (each : ∀ codes, Pending (next codes)) :
    Pending (mealCodes eduOffice schoolName >>= next) := by
  unfold mealCodes
  split
  · exact each _
  · trivial

theorem pending_dispatch (locals : Locals) (request : Request)
    (reads : request.command ∉ changing) : Pending (dispatch locals request) := by
  obtain ⟨command, id, pw, eduOffice, schoolName, date, childId, period⟩ := request
  simp only [changing, List.mem_cons, List.not_mem_nil, or_false, not_or] at reads
  obtain ⟨noRegister, noUpdate, noDelete, noAddChild, noDelChild⟩ := reads
  unfold dispatch
  simp only [noRegister, noUpdate, noDelete, noAddChild, noDelChild, if_false]
  refine pending_ite ?_ (pending_ite ?_ (pending_ite ?_ (pending_ite ?_ (pending_ite ?_
    (pending_ite ?_ trivial)))))
  · cases id <;> cases pw <;> trivial
  · cases id <;> trivial
  · cases id <;> cases childId <;> cases date <;> trivial
  · cases id <;> cases childId <;> cases period <;> trivial
  · cases eduOffice with
    | none => trivial
    | some eduOffice =>
      cases schoolName with
      | none => trivial
      | some schoolName =>
        cases date with
        | none => trivial
        | some date => exact pending_mealCodes fun codes => by cases codes <;> trivial
  · cases eduOffice with
    | none => trivial
    | some eduOffice =>
      cases schoolName with
      | none => trivial
      | some schoolName =>
        cases period with
        | none => trivial
        | some period =>
          simp only [getMultiMeal]
          split
          · trivial
          · exact pending_mealCodes fun codes => by cases codes <;> trivial

/-- A query keeps the store. -/
theorem answered_query {users : Bytes → Prop} {request : Call} (queries : Queries users request)
    {before after : Store} {given : request.Answer}
    (answered : arrival.Answers spared request before given after) : after = before := by
  cases queries with
  | row | password | children | link | meal => exact answered_select answered
  | resolveSchoolCode | getMealFromNeis | getMealsPeriodFromNeis | sendResponse =>
    obtain ⟨fault, _, responded⟩ := answered
    exact (Prod.mk.inj responded).2.symm

theorem atomic_dispatch {request : Request}
    (demand : arrival.demand = request.demand arrival.around.schoolCodes)
    (quoteFree : request.QuoteFree arrival.around.schoolCodes) :
    arrival.Atomic spared (dispatch arrival.locals request) := by
  by_cases changes : request.command ∈ changing
  · obtain ⟨command, operands⟩ := request
    simp only [changing, List.mem_cons, List.not_mem_nil, or_false] at changes
    rcases changes with rfl | rfl | rfl | rfl | rfl
    · exact atomic_registerGeneral demand (quoteFree rfl)
    · exact atomic_update demand
    · exact atomic_delete demand
    · exact atomic_addChild demand
    · exact atomic_delChild demand
  · have undemanded : arrival.demand = none := demand.trans (demand_of_reads _ request changes)
    refine atomic_of_only (fun request before answer after answered => ?_)
      (fun request queries before answer after => answered_query queries) (fun exchange => ?_)
      (queries_dispatch changes (fun _ _ => trivial) fun _ _ => trivial)
      (pending_dispatch arrival.locals request changes) fun before => ?_
    · obtain ⟨fault, _, responded⟩ := answered
      exact possible_of_respond responded
    · rw [Arrival.reports, undemanded]
      rfl
    · refine .refused fun _ change asked => ?_
      cases undemanded.symm.trans asked

end Branches

/-- Every request takes effect at one of its calls. -/
theorem atomic_handleClient {arrival : Arrival} (spared : Bool) (quoteFree : arrival.QuoteFree) :
    arrival.Atomic spared (handleClient arrival.locals arrival.received) := by
  unfold handleClient
  cases parsed : parseRequest arrival.received with
  | none => exact atomic_failure respInvalidRequest (by rw [Arrival.demand, parsed]; rfl)
  | some request =>
    refine atomic_dispatch ?_ (quoteFree request parsed)
    rw [Arrival.demand, parsed]
    rfl

/-! ### One request alone -/

/-- Removing a link that is not there leaves the store as it was. -/
theorem withoutLink_of_unlinked {store : Store} {childId parentId : Bytes}
    (unlinked : isLinked store childId parentId = false) :
    withoutLink store childId parentId = store := by
  refine Store.ext ?_
  rw [withoutLink_tables, deleteRows]
  refine Function.update_eq_self_iff.mpr (List.filter_eq_self.mpr fun row member => ?_)
  have other := List.any_eq_false.mp unlinked row member
  simpa [passes, imp_iff_not_or] using other

/-- Served alone and without faults, a request makes its change just when it is accepted. -/
theorem succeeds_faultless_iff {arrival : Arrival} (quoteFree : arrival.QuoteFree)
    {change : Change} (asked : arrival.demand = some change) (store : Store) :
    (serve arrival.faultless store).Succeeds ↔
      change.Accepted arrival.faultless.around store := by
  obtain ⟨request, parsed, demand⟩ := Option.bind_eq_some_iff.mp asked
  have changes : request.command ∈ changing := by
    by_contra reads
    cases demand.symm.trans (demand_of_reads _ request reads)
  have settles := serve_settles arrival.faultless store quoteFree parsed changes
  have same : arrival.faultless.demand = some change := asked
  refine ((serve arrival.faultless store).succeeds_iff.trans settles.succeeds_iff).trans ?_
  rw [same]
  exact ⟨fun ⟨_, equal, accepted⟩ => Option.some.inj equal ▸ accepted,
    fun accepted => ⟨change, rfl, accepted⟩⟩

/-- The effect of a request that is spared is what the request loop does when it serves it alone,
and the reports agree but for the removal of a link. -/
theorem serve_of_takesEffect {arrival : Arrival} (quoteFree : arrival.QuoteFree)
    {before after : Store} {success : Bool}
    (effect : TakesEffect arrival true before success after) :
    after = (serve arrival.faultless before).store ∧
      ∀ change, arrival.demand = some change → change.isUnlink = false →
        (success = true ↔ (serve arrival.faultless before).Succeeds) := by
  have alone := serve_store arrival.faultless before quoteFree
  have demand : arrival.faultless.demand = arrival.demand := rfl
  cases effect with
  | refused unaccepted =>
    have fails : ∀ change, arrival.demand = some change →
        ¬ (serve arrival.faultless before).Succeeds := fun change asked succeeds =>
      unaccepted rfl change asked ((succeeds_faultless_iff quoteFree asked before).mp succeeds)
    refine ⟨?_, fun change asked _ => ⟨(nomatch ·), fun succeeds => absurd succeeds
      (fails change asked)⟩⟩
    have unchanged : arrival.faultless.changed before = none := by
      unfold Arrival.changed
      split
      · rename_i succeeds
        cases asked : arrival.demand with
        | none => exact asked
        | some change => exact absurd succeeds (fails change asked)
      · rfl
    rw [unchanged] at alone
    exact alone.symm
  | made change asked ready accepted =>
    have whole := succeeds_faultless_iff quoteFree asked before
    by_cases succeeds : (serve arrival.faultless before).Succeeds
    · have made : arrival.faultless.changed before = some change :=
        (if_pos succeeds).trans (demand.trans asked)
      rw [made] at alone
      exact ⟨alone.2.symm, fun _ _ _ => ⟨fun _ => succeeds, fun _ => rfl⟩⟩
    · have unlinks : change.isUnlink = true :=
        (accepted rfl).resolve_right fun accepted => succeeds (whole.mpr accepted)
      refine ⟨?_, fun other otherAsked isOther => ?_⟩
      · have unchanged : arrival.faultless.changed before = none := if_neg succeeds
        rw [unchanged] at alone
        cases change with
        | unlink childId parentId =>
          rw [alone]
          refine withoutLink_of_unlinked (Bool.eq_false_iff.mpr fun linked => succeeds ?_)
          exact whole.mpr ⟨rfl, rfl, linked⟩
        | _ => cases unlinks
      · cases asked.symm.trans otherAsked
        exact Bool.noConfusion (unlinks.symm.trans isOther)

/-! ### Requests side by side -/

section Runs

variable {Index : Type} [DecidableEq Index] (arrivals : Index → Arrival)

/-- An order of the requests explains the run. In its turn each makes the change it asks for, in a
store that is ready for it, or none; it was answered with success just when it made its change. A
request that is spared makes its change whenever it would when served alone. -/
theorem explained_of_runs (quoteFree : ∀ index, (arrivals index).QuoteFree) (spared : Index → Bool)
    {store : Store} (kept : WellKept store) {events : List (Event Index Call Call.Answer)}
    {last : Family Index Call Call.Answer Unit Store}
    (runs : Runs (fun index => (arrivals index).Answers (spared index)) (requests arrivals store)
      events last) :
    ∃ order, Explains (fun index => (arrivals index).reports)
      (fun index => TakesEffect (arrivals index) (spared index)) (requests arrivals store) last
      events order :=
  runs.explains kept (fun _ _ _ _ => wellKept_of_takesEffect)
    fun index => atomic_handleClient (spared index) (quoteFree index)

/-- The store the request loop leaves when it serves these requests one after the other, without
faults. -/
def servedInTurn (store : Store) (order : List Index) : Store :=
  order.foldl (fun store index => (serve (arrivals index).faultless store).store) store

/-- Serving the requests in this order, one after the other, does what the run did. -/
structure ServesAs (start last : Family Index Call Call.Answer Unit Store)
    (events : List (Event Index Call Call.Answer)) (order : List Index) : Prop where
  once : order.Nodup
  /-- A request that was answered before another one began comes first. -/
  follows : order.Sublist (events.map (·.index))
  complete : ∀ index, last.programs index = .finished () → index ∈ order
  store : last.shared = servedInTurn arrivals start.shared order
  /-- A change other than the removal of a link is answered with success just when it is so in its
  turn. -/
  answered : ∀ first index second, order = first ++ index :: second →
    last.programs index = .finished () →
      ∀ change, (arrivals index).demand = some change → change.isUnlink = false →
        (Answered events index ↔
          (serve (arrivals index).faultless (servedInTurn arrivals start.shared first)).Succeeds)

/-- Without faults every run of requests is serializable. -/
theorem servesAs_of_runs (quoteFree : ∀ index, (arrivals index).QuoteFree)
    {store : Store} (kept : WellKept store) {events : List (Event Index Call Call.Answer)}
    {last : Family Index Call Call.Answer Unit Store}
    (runs : Runs (fun index => (arrivals index).Answers true) (requests arrivals store)
      events last) :
    ∃ order, ServesAs arrivals (requests arrivals store) last events order := by
  obtain ⟨order, explains⟩ : ∃ order, Explains (fun index => (arrivals index).reports)
      (fun index => TakesEffect (arrivals index) true) (requests arrivals store) last events
      order :=
    runs.explains kept (fun _ _ _ _ => wellKept_of_takesEffect)
      fun index => atomic_handleClient true (quoteFree index)
  have folds : ∀ {first following : Store} {part : List (Index × Bool)},
      InTurn (fun index => TakesEffect (arrivals index) true) first part following →
        WellKept first → following = servedInTurn arrivals first (part.map Prod.fst) :=
    fun inTurn holds =>
    inTurn.eq_foldl holds (fun _ _ _ _ => wellKept_of_takesEffect) _
      fun index _ _ _ effect _ => (serve_of_takesEffect (quoteFree index) effect).1
  refine ⟨order.map Prod.fst, explains.once, explains.follows,
    fun index finished => explains.complete index () finished, folds explains.inTurn kept, ?_⟩
  intro first index second split finished change asked other
  obtain ⟨firstPart, rest, rfl, rfl, tail⟩ := List.map_eq_append_iff.mp split
  obtain ⟨⟨index, success⟩, secondPart, rfl, rfl, rfl⟩ := List.map_eq_cons_iff.mp tail
  obtain ⟨before, after, earlier, effect, _⟩ := explains.inTurn.split
  have reported := explains.reported index success (by simp) () finished
  have reports : (arrivals index).reports = reportsSuccess := by
    funext exchange
    rw [Arrival.reports, asked]
    rfl
  rw [Answered, ← reports, reported, ← folds earlier kept]
  exact (serve_of_takesEffect (quoteFree index) effect).2 change asked other

end Runs

/-! ### The rivals again -/

theorem quoteFree_rivals (index : Option Bool) : (rivals index).QuoteFree := by
  cases index with
  | none =>
    intro request found isRegister
    have parsed : parseRequest (rivals none).received =
        some ⟨cmdDelete, { Operands.null with id := some (utf8 "user1") }⟩ := by decide
    obtain rfl := Option.some.inj (parsed.symm.trans found)
    exact absurd isRegister (by decide)
  | some first =>
    cases first with
    | true => exact quoteFree_sampleRegistration
    | false =>
      intro request found _ id hasId pw hasPw schoolName _ codes resolved
      have parsed : parseRequest (rivals (some false)).received =
          some ⟨cmdRegisterGeneral, { Operands.null with
            id := some (utf8 "user1"), pw := some (utf8 "5678"), eduOffice := some (utf8 "Seoul"),
            schoolName := some (utf8 "Sample School") }⟩ := by decide
      obtain rfl := Option.some.inj (parsed.symm.trans found)
      obtain rfl := Option.some.inj hasId
      obtain rfl := Option.some.inj hasPw
      obtain rfl := Option.some.inj resolved
      decide

/-- The turns of the contest, with a fault at every call of the deletion. -/
def faultyContest : List (Event (Option Bool) Call Call.Answer) ×
    Family (Option Bool) Call Call.Answer Unit Store :=
  schedule (fun index => respond (rivals index).around (if index.isSome then none else some .step))
    [some true, some false, some true, none, some false, none, some true, some false, some true]
    (requests rivals initDb)

theorem explained_faultyContest : ∃ order, Explains (fun index => (rivals index).reports)
    (fun index => TakesEffect (rivals index) index.isSome) (requests rivals initDb)
    faultyContest.2 faultyContest.1 order := by
  refine explained_of_runs rivals quoteFree_rivals Option.isSome wellKept_initDb
    (runs_schedule _ (fun index request store => ?_) _ _)
  exact ⟨if index.isSome then none else some .step, fun spared => if_pos spared, rfl⟩

theorem servesAs_contest : ∃ order, ServesAs rivals (requests rivals initDb)
    (schedule (fun index => respond (rivals index).around none)
      [some true, some false, some true, some false, some true, some false, some true, none]
      (requests rivals initDb)).2 contest order :=
  servesAs_of_runs rivals quoteFree_rivals wellKept_initDb
    (runs_schedule _ (fun _ _ _ => ⟨none, fun _ => rfl, rfl⟩) _ _)

end SchoolMeals
