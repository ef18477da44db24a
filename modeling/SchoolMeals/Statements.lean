/-
This file lists the calls of the request loop: every branch of the dispatcher
makes only calls of a few kinds, and the users they name are those the request
names. The school codes a registration or an update writes are those the lookup
gave. Most commands only read.
-/

import SchoolMeals.Changes
import SchoolMeals.Library.Footprint

namespace SchoolMeals

open CText Interaction Relational

/-! ### Calls and the users they name -/

/-- The calls that read. The users they name are all of this kind. -/
inductive Queries (users : Bytes → Prop) : Call → Prop
  | row (columns : List Column) (id : Bytes) (named : users id) :
      Queries users (.sqlite (.select columns .users [(.id, id)]))
  | password (id pw : Bytes) (named : users id) :
      Queries users (.sqlite (.select [] .users [(.id, id), (.pw, pw)]))
  | children (parentId : Bytes) :
      Queries users (.sqlite (.select [.id] .children [(.parentId, parentId)]))
  | link (childId parentId : Bytes) (child : users childId) (parent : users parentId) :
      Queries users (.sqlite (.select [] .children [(.childId, childId), (.parentId, parentId)]))
  | meal (filter : List (Column × Bytes)) : Queries users (.sqlite (.select [.meal] .meals filter))
  | resolveSchoolCode (schoolName : Bytes) : Queries users (.resolveSchoolCode schoolName)
  | getMealFromNeis (eduOffice schoolCode date : Bytes) :
      Queries users (.getMealFromNeis eduOffice schoolCode date)
  | getMealsPeriodFromNeis (eduOffice schoolCode startDate endDate : Bytes) :
      Queries users (.getMealsPeriodFromNeis eduOffice schoolCode startDate endDate)
  | sendResponse (reply : Reply) : Queries users (.sendResponse reply)

/-- The calls of the request loop, with those that change the store. -/
inductive Concerns (users : Bytes → Prop) : Call → Prop
  | query (request : Call) (queries : Queries users request) : Concerns users request
  | insertUser (user : User) (fits : user.Fits) (quoteFree : user.QuoteFree)
      (short : user.id.length ≤ maxIdLen - 1) (named : users user.id) :
      Concerns users (.sqliteExec (addUserText user))
  | updateUser (user : User) (named : users user.id) :
      Concerns users (.sqlite (.update .users (updatedColumns user) [(.id, user.id)]))
  | deleteUser (id : Bytes) (named : users id) :
      Concerns users (.sqlite (.delete .users [(.id, id)]))
  | insertLink (childId parentId : Bytes) (child : users childId) (parent : users parentId) :
      Concerns users (.sqlite (.insert .children [(.childId, childId), (.parentId, parentId)]))
  | deleteLink (childId parentId : Bytes) (child : users childId) (parent : users parentId) :
      Concerns users (.sqlite (.delete .children [(.childId, childId), (.parentId, parentId)]))

/-- The answers this arrival can get: the lookup of its school is the one of its surroundings. -/
def Arrival.Possible (arrival : Arrival) : (request : Call) → request.Answer → Prop
  | .resolveSchoolCode schoolName, codes => codes = arrival.around.schoolCodes schoolName
  | _, _ => True

theorem possible_of_respond {arrival : Arrival} {fault : Option Fault} {request : Call}
    {before after : Store} {given : request.Answer}
    (responded : respond arrival.around fault request before = (given, after)) :
    arrival.Possible request given := by
  cases request with
  | resolveSchoolCode schoolName => exact (Prod.mk.inj responded).1.symm
  | _ => trivial

/-- The users a request names. A registration and an update name the row they write, whose
identifier is cut. -/
def Operands.users (operands : Operands) : List Bytes :=
  operands.id.toList ++ operands.id.toList.map (·.take 19) ++ operands.childId.toList

section Branches

variable {arrival : Arrival} {users : Bytes → Prop}

/-- The program reads only, and about these users only. -/
abbrev Arrival.Queries (arrival : Arrival) (users : Bytes → Prop) {Result : Type}
    (program : Server Result) : Prop :=
  Only arrival.Possible (SchoolMeals.Queries users) program

/-- The program concerns these users only. -/
abbrev Arrival.Concerns (arrival : Arrival) (users : Bytes → Prop) {Result : Type}
    (program : Server Result) : Prop :=
  Only arrival.Possible (SchoolMeals.Concerns users) program

theorem only_columnText {possible : (request : Call) → request.Answer → Prop}
    {allowed : Call → Prop} (row : List (Option Bytes)) (index : Nat) :
    Only possible allowed (columnText row index) := by
  unfold columnText
  split <;> trivial

/-- Copying the five columns `get_user` asks for makes no calls. -/
theorem only_fiveColumns {possible : (request : Call) → request.Answer → Prop}
    {allowed : Call → Prop} (row : List (Option Bytes)) {Result : Type}
    (copy : Bytes → Bytes → Bytes → Bytes → Bytes → Result) :
    Only possible allowed (do
      let id ← columnText row 0
      let pw ← columnText row 1
      let role ← columnText row 2
      let eduOffice ← columnText row 3
      let schoolName ← columnText row 4
      return copy id pw role eduOffice schoolName) :=
  only_bind (only_columnText row 0) fun _ => only_bind (only_columnText row 1) fun _ =>
    only_bind (only_columnText row 2) fun _ => only_bind (only_columnText row 3) fun _ =>
      only_bind (only_columnText row 4) fun _ => trivial

theorem queries_sendResponse (status : Nat) (message data : Bytes) :
    arrival.Queries users (sendResponse status message data) :=
  only_call (.sendResponse _) fun _ _ => trivial

theorem queries_isUserExists {id : Bytes} (named : users id) :
    arrival.Queries users (isUserExists id) :=
  only_call (.row [] id named) fun _ _ => trivial

theorem queries_verifyUser {id : Bytes} (named : users id) (pw : Bytes) :
    arrival.Queries users (verifyUser id pw) :=
  only_call (.password id pw named) fun _ _ => trivial

theorem queries_getUser (beyond : User) {id : Bytes} (named : users id) :
    arrival.Queries users (getUser beyond id) := by
  refine only_bind (only_call (.row _ id named) fun _ _ => trivial) fun result => ?_
  split
  · trivial
  · exact only_fiveColumns _ _

theorem queries_getMeal (date eduOffice schoolName : Bytes) :
    arrival.Queries users (getMeal date eduOffice schoolName) := by
  refine only_bind (only_call (.meal _) fun _ _ => trivial) fun result => ?_
  split
  · trivial
  · exact only_bind (only_columnText _ 0) fun _ => trivial

theorem queries_isChildRegistered {childId parentId : Bytes} (child : users childId)
    (parent : users parentId) : arrival.Queries users (isChildRegistered childId parentId) :=
  only_call (.link childId parentId child parent) fun _ _ => trivial

theorem queries_copyChildIds (array : Nat → Child) (rows : List (List (Option Bytes))) :
    ∀ count, arrival.Queries users (copyChildIds array count rows) := by
  induction rows with
  | nil => exact fun _ => trivial
  | cons row rows inductionHypothesis =>
    intro count
    unfold copyChildIds
    split
    · exact only_bind (only_columnText row 0) fun _ =>
        only_bind (inductionHypothesis (count + 1)) fun _ => trivial
    · exact inductionHypothesis count

theorem queries_getChildrenDb (array : Nat → Child) (parentId : Bytes) :
    arrival.Queries users (getChildrenDb array parentId) := by
  refine only_bind (only_call (.children parentId) fun _ _ => trivial) fun result => ?_
  split
  · trivial
  · exact only_bind (queries_copyChildIds array _ 0) fun _ => trivial
  · trivial

theorem queries_login (locals : Locals) : ∀ {id pw : Option Bytes},
    (∀ name ∈ id, users name) → arrival.Queries users (login locals id pw)
  | none, _, _ | some _, none, _ => queries_sendResponse _ _ _
  | some id, some pw, named => by
    refine only_bind (queries_verifyUser (named id rfl) pw) fun verified => ?_
    split
    · refine only_bind (queries_getUser locals.user (named id rfl)) fun found => ?_
      split <;> exact queries_sendResponse _ _ _
    · exact queries_sendResponse _ _ _

theorem queries_getChildrenOf (locals : Locals) : ∀ {id : Option Bytes},
    arrival.Queries users (getChildrenOf locals id)
  | none => queries_sendResponse _ _ _
  | some id => by
    refine only_bind (queries_getChildrenDb locals.children id) fun children => ?_
    split <;> exact queries_sendResponse _ _ _

theorem queries_childMeal (locals : Locals) : ∀ {id childId date : Option Bytes},
    (∀ name ∈ id, users name) → (∀ name ∈ childId, users name) →
    arrival.Queries users (childMeal locals id childId date)
  | none, _, _, _, _ | some _, none, _, _, _ | some _, some _, none, _, _ =>
    queries_sendResponse _ _ _
  | some id, some childId, some date, parent, child => by
    refine only_bind (queries_isChildRegistered (child childId rfl) (parent id rfl))
      fun linked => ?_
    split
    · exact queries_sendResponse _ _ _
    refine only_bind (queries_getUser locals.child (child childId rfl)) fun found => ?_
    split
    · refine only_bind (queries_getMeal date _ _) fun meal => ?_
      split <;> exact queries_sendResponse _ _ _
    · exact queries_sendResponse _ _ _

theorem queries_childMultiMeal : ∀ {id childId period : Option Bytes},
    (∀ name ∈ id, users name) → (∀ name ∈ childId, users name) →
    arrival.Queries users (childMultiMeal id childId period)
  | none, _, _, _, _ | some _, none, _, _, _ | some _, some _, none, _, _ =>
    queries_sendResponse _ _ _
  | some id, some childId, some period, parent, child => by
    refine only_bind (queries_isChildRegistered (child childId rfl) (parent id rfl))
      fun linked => ?_
    split
    · exact queries_sendResponse _ _ _
    · split <;> exact queries_sendResponse _ _ _

theorem queries_mealCodes (eduOffice schoolName : Bytes) :
    arrival.Queries users (mealCodes eduOffice schoolName) := by
  unfold mealCodes
  split
  · trivial
  · exact only_call (.resolveSchoolCode schoolName) fun _ _ => trivial

theorem queries_getMealOf : ∀ {eduOffice schoolName date : Option Bytes},
    arrival.Queries users (getMealOf eduOffice schoolName date)
  | none, _, _ | some _, none, _ | some _, some _, none => queries_sendResponse _ _ _
  | some eduOffice, some schoolName, some date => by
    refine only_bind (queries_mealCodes eduOffice schoolName) fun codes => ?_
    split
    · exact queries_sendResponse _ _ _
    · refine only_call (.getMealFromNeis _ _ date) fun meal _ => ?_
      cases meal <;> exact queries_sendResponse _ _ _

theorem queries_getMultiMeal : ∀ {eduOffice schoolName period : Option Bytes},
    arrival.Queries users (getMultiMeal eduOffice schoolName period)
  | none, _, _ | some _, none, _ | some _, some _, none => queries_sendResponse _ _ _
  | some eduOffice, some schoolName, some period => by
    simp only [getMultiMeal]
    split
    · exact queries_sendResponse _ _ _
    · refine only_bind (queries_mealCodes eduOffice schoolName) fun codes => ?_
      split
      · exact queries_sendResponse _ _ _
      · refine only_call (.getMealsPeriodFromNeis _ _ _ _) fun meals _ => ?_
        cases meals <;> exact queries_sendResponse _ _ _

/-- A command that changes nothing reads only. -/
theorem queries_dispatch {request : Request} (reads : request.command ∉ changing)
    (id : ∀ name ∈ request.operands.id, users name)
    (child : ∀ name ∈ request.operands.childId, users name) :
    arrival.Queries users (dispatch arrival.locals request) := by
  simp only [changing, List.mem_cons, List.not_mem_nil, or_false, not_or] at reads
  obtain ⟨noRegister, noUpdate, noDelete, noAddChild, noDelChild⟩ := reads
  unfold dispatch
  refine only_ite (fun _ => queries_login arrival.locals id) fun _ => ?_
  refine only_ite (fun isRegister => absurd isRegister noRegister) fun _ => ?_
  refine only_ite (fun isUpdate => absurd isUpdate noUpdate) fun _ => ?_
  refine only_ite (fun isDelete => absurd isDelete noDelete) fun _ => ?_
  refine only_ite (fun _ => queries_getChildrenOf arrival.locals) fun _ => ?_
  refine only_ite (fun isAddChild => absurd isAddChild noAddChild) fun _ => ?_
  refine only_ite (fun isDelChild => absurd isDelChild noDelChild) fun _ => ?_
  refine only_ite (fun _ => queries_childMeal arrival.locals id child) fun _ => ?_
  refine only_ite (fun _ => queries_childMultiMeal id child) fun _ => ?_
  refine only_ite (fun _ => queries_getMealOf) fun _ => ?_
  exact only_ite (fun _ => queries_getMultiMeal) fun _ => queries_sendResponse _ _ _

theorem concerns_of_queries {Result : Type} {program : Server Result}
    (queries : arrival.Queries users program) : arrival.Concerns users program :=
  queries.mono .query

theorem concerns_sendResponse (status : Nat) (message data : Bytes) :
    arrival.Concerns users (sendResponse status message data) :=
  concerns_of_queries (queries_sendResponse status message data)

theorem concerns_registerGeneral : ∀ {id pw eduOffice schoolName : Option Bytes},
    (∀ name ∈ id, users name ∧ users (name.take 19)) →
    (∀ idText ∈ id, ∀ pwText ∈ pw, ∀ name ∈ schoolName, ∀ codes ∈ arrival.around.schoolCodes name,
      (generalUser idText pwText codes).QuoteFree) →
    arrival.Concerns users (registerGeneral id pw eduOffice schoolName)
  | none, _, _, _, _, _ | some _, none, _, _, _, _ | some _, some _, none, _, _, _
  | some _, some _, some _, none, _, _ => concerns_sendResponse _ _ _
  | some id, some pw, some eduOffice, some schoolName, named, quoteFree => by
    refine only_bind (concerns_of_queries (queries_isUserExists (named id rfl).1)) fun taken => ?_
    split
    · exact concerns_sendResponse _ _ _
    refine only_call (.query _ (.resolveSchoolCode schoolName)) fun codes resolved => ?_
    cases codes with
    | none => exact only_call (.query _ (.sendResponse _)) fun _ _ => trivial
    | some codes =>
      have written : users (generalUser id pw codes).id := by
        rw [generalUser_eq]
        exact (named id rfl).2
      have short : (generalUser id pw codes).id.length ≤ maxIdLen - 1 := by
        rw [generalUser_eq]
        exact List.length_take_le _ _
      have pasted := quoteFree id rfl pw rfl schoolName rfl codes resolved.symm
      refine only_call (.insertUser (generalUser id pw codes) (fits_generalUser id pw codes) pasted
        short written) fun done _ => ?_
      cases done with
      | false => trivial
      | true => exact concerns_sendResponse _ _ _

theorem concerns_update : ∀ {id pw eduOffice schoolName : Option Bytes},
    (∀ name ∈ id, users name ∧ users (name.take 19)) →
    arrival.Concerns users (update id pw eduOffice schoolName)
  | none, _, _, _, _ | some _, none, _, _, _ | some _, some _, none, _, _
  | some _, some _, some _, none, _ => concerns_sendResponse _ _ _
  | some id, some pw, some eduOffice, some schoolName, named => by
    refine only_call (.query _ (.resolveSchoolCode schoolName)) fun codes _ => ?_
    cases codes with
    | none => exact concerns_sendResponse _ _ _
    | some codes =>
      show Only _ _ (getUser User.zero id >>= _)
      refine only_bind (concerns_of_queries (queries_getUser User.zero (named id rfl).1))
        fun oldUser => ?_
      have written : users (updatedUser id pw codes (oldUser.getD User.zero)).id := by
        rw [updatedUser, strncpy_zeroed]
        exact (named id rfl).2
      refine only_call (.updateUser (updatedUser id pw codes (oldUser.getD User.zero)) written)
        fun result _ => ?_
      show Only _ _ (if result.isDone then _ else _)
      split <;> exact concerns_sendResponse _ _ _

theorem concerns_deleteUser {id : Bytes} (named : users id) :
    arrival.Concerns users (deleteUser id) := by
  refine only_call (.deleteUser id named) fun (result : StepResult) _ => ?_
  show Only _ _ (if result = .unprepared then _ else if result.isDone then _ else _)
  split
  · trivial
  · split <;> trivial

theorem concerns_delete : ∀ {id : Option Bytes}, (∀ name ∈ id, users name) →
    arrival.Concerns users (delete id)
  | none, _ => concerns_sendResponse _ _ _
  | some id, named => by
    refine only_bind (concerns_deleteUser (named id rfl)) fun (deleted, _) => ?_
    show Only _ _ (if deleted then _ else _)
    split <;> exact concerns_sendResponse _ _ _

theorem concerns_addChild : ∀ {id childId : Option Bytes}, (∀ name ∈ id, users name) →
    (∀ name ∈ childId, users name) → arrival.Concerns users (addChild id childId)
  | none, _, _, _ | some _, none, _, _ => concerns_sendResponse _ _ _
  | some id, some childId, parent, child => by
    have checks : arrival.Concerns users (isUserExists childId) :=
      concerns_of_queries (queries_isUserExists (child childId rfl))
    refine only_bind checks fun found => ?_
    split
    · exact concerns_sendResponse _ _ _
    refine only_bind (only_bind checks fun again => ?_) fun added => ?_
    · split
      · exact only_call (.insertLink childId id (child childId rfl) (parent id rfl))
          fun _ _ => trivial
      · trivial
    · split <;> exact concerns_sendResponse _ _ _

theorem concerns_delChild : ∀ {id childId : Option Bytes}, (∀ name ∈ id, users name) →
    (∀ name ∈ childId, users name) → arrival.Concerns users (delChild id childId)
  | none, _, _, _ | some _, none, _, _ => concerns_sendResponse _ _ _
  | some id, some childId, parent, child => by
    refine only_bind (concerns_of_queries (queries_isChildRegistered (child childId rfl)
      (parent id rfl))) fun linked => ?_
    split
    · exact concerns_sendResponse _ _ _
    refine only_call (.deleteLink childId id (child childId rfl) (parent id rfl))
      fun result _ => ?_
    show Only _ _ (if result.isDone then _ else _)
    split <;> exact concerns_sendResponse _ _ _

/-- A request concerns the users it names. -/
theorem concerns_dispatch {request : Request} (named : ∀ name ∈ request.operands.users, users name)
    (quoteFree : request.QuoteFree arrival.around.schoolCodes) :
    arrival.Concerns users (dispatch arrival.locals request) := by
  have id : ∀ name ∈ request.operands.id, users name := fun name given =>
    named name (List.mem_append_left _ (List.mem_append_left _ (Option.mem_toList.mpr given)))
  have cut : ∀ name ∈ request.operands.id, users name ∧ users (name.take 19) := fun name given =>
    ⟨id name given, named _ (List.mem_append_left _ (List.mem_append_right _
      (List.mem_map_of_mem (Option.mem_toList.mpr given))))⟩
  have child : ∀ name ∈ request.operands.childId, users name := fun name given =>
    named name (List.mem_append_right _ (Option.mem_toList.mpr given))
  by_cases changes : request.command ∈ changing
  · obtain ⟨command, operands⟩ := request
    simp only [changing, List.mem_cons, List.not_mem_nil, or_false] at changes
    rcases changes with rfl | rfl | rfl | rfl | rfl
    · exact concerns_registerGeneral cut (quoteFree rfl)
    · exact concerns_update cut
    · exact concerns_delete id
    · exact concerns_addChild id child
    · exact concerns_delChild id child
  · exact concerns_of_queries (queries_dispatch changes id child)

end Branches

/-- The users an arrival names. -/
def Arrival.users (arrival : Arrival) : List Bytes :=
  ((parseRequest arrival.received).map fun request => request.operands.users).getD []

theorem concerns_handleClient {arrival : Arrival} {users : Bytes → Prop}
    (named : ∀ name ∈ arrival.users, users name) (quoteFree : arrival.QuoteFree) :
    arrival.Concerns users (handleClient arrival.locals arrival.received) := by
  unfold handleClient
  cases parsed : parseRequest arrival.received with
  | none => exact concerns_sendResponse _ _ _
  | some request =>
    refine concerns_dispatch (fun name member => named name ?_) (quoteFree request parsed)
    rw [Arrival.users, parsed]
    exact member

end SchoolMeals
