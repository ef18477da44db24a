/-
This file is the abstract view of a request: what it asks to change, when the
store can make that change, and what the store is then. A request asks for at
most one change. The main result is that the request loop makes the change or
refuses it: it either replies with success, and then the change was possible and
the store is exactly what the change leaves, or it does not, and then the store
is untouched. This holds for every request but a registration with a quote, which
can run statements of its own.
-/

import SchoolMeals.Outcomes
import SchoolMeals.Parsing

namespace SchoolMeals

open CText Interaction

/-! ### Changes -/

/-- The changes a request can ask for, with the operands they depend on. -/
inductive Change where
  | register (id pw : Bytes) (codes : SchoolCodes)
  | update (id pw : Bytes) (codes : SchoolCodes)
  | delete (id : Bytes)
  | link (childId parentId : Bytes)
  | unlink (childId parentId : Bytes)
  deriving DecidableEq

/-- The store can make the change. -/
def Change.Possible (store : Store) : Change → Prop
  | register id pw codes => userRow store (generalUser id pw codes).id = none
  | update .. => True
  | delete id => isReferenced store id = false
  | link childId parentId => (userRow store childId).isSome ∧ (userRow store parentId).isSome ∧
      isLinked store childId parentId = false
  | unlink childId parentId => isLinked store childId parentId = true

/-- A request for the change is answered with success: no fault and no null column is in its way,
its checks pass and the store can make the change. -/
def Change.Accepted (around : Surroundings) (store : Store) : Change → Prop
  | register id pw codes => (around.quiet 0 && (userRow store id).isSome) = false ∧
      around.quiet 2 = true ∧ userRow store (generalUser id pw codes).id = none
  | update id _ _ => (around.quiet 1 && (userRow store id).any (!isReadable ·)) = false ∧
      around.quiet 2 = true
  | delete id => around.quiet 0 = true ∧ isReferenced store id = false
  | link childId parentId => around.quiet 0 = true ∧ around.quiet 1 = true ∧
      around.quiet 2 = true ∧ (userRow store childId).isSome ∧ (userRow store parentId).isSome ∧
      isLinked store childId parentId = false
  | unlink childId parentId => around.quiet 0 = true ∧ around.quiet 1 = true ∧
      isLinked store childId parentId = true

theorem Change.Accepted.possible {around : Surroundings} {store : Store} {change : Change}
    (accepted : change.Accepted around store) : change.Possible store := by
  cases change with
  | register => exact accepted.2.2
  | update => exact trivial
  | delete => exact accepted.2
  | link => exact accepted.2.2.2
  | unlink => exact accepted.2.2

/-- The store once the change is made. -/
def Change.apply (store : Store) : Change → Store
  | register id pw codes => withUser store (generalUser id pw codes)
  | update id pw codes => withUpdate store (generalUser id pw codes)
  | delete id => withoutUser store id
  | link childId parentId => withLink store childId parentId
  | unlink childId parentId => withoutLink store childId parentId

section Demands

variable (schoolCodes : Bytes → Option SchoolCodes)

/-- The record two commands write, once the school is found. -/
def demandRecord (change : Bytes → Bytes → SchoolCodes → Change) :
    Option Bytes → Option Bytes → Option Bytes → Option Bytes → Option Change
  | some id, some pw, some _, some schoolName => (schoolCodes schoolName).map (change id pw)
  | _, _, _, _ => none

def demandLink (change : Bytes → Bytes → Change) : Option Bytes → Option Bytes → Option Change
  | some id, some childId => some (change childId id)
  | _, _ => none

/-- The change a request asks for, given what its school resolves to. -/
def Request.demand (request : Request) : Option Change :=
  let operands := request.operands
  if request.command = cmdRegisterGeneral then
    demandRecord schoolCodes .register operands.id operands.pw operands.eduOffice
      operands.schoolName
  else if request.command = cmdUpdate then
    demandRecord schoolCodes .update operands.id operands.pw operands.eduOffice
      operands.schoolName
  else if request.command = cmdDelete then operands.id.map .delete
  else if request.command = cmdAddChild then demandLink .link operands.id operands.childId
  else if request.command = cmdDelChild then demandLink .unlink operands.id operands.childId
  else none

/-- A record is asked for with all its operands. -/
theorem operands_of_demandRecord {change : Bytes → Bytes → SchoolCodes → Change} {asked : Change} :
    ∀ {id pw eduOffice schoolName : Option Bytes},
      demandRecord schoolCodes change id pw eduOffice schoolName = some asked →
        ∃ idText pwText name codes, id = some idText ∧ pw = some pwText ∧
          schoolName = some name ∧ schoolCodes name = some codes ∧
          asked = change idText pwText codes
  | none, _, _, _ | some _, none, _, _ | some _, some _, none, _ | some _, some _, some _, none =>
    (nomatch ·)
  | some id, some pw, some _, some schoolName => by
    intro demand
    obtain ⟨codes, resolved, same⟩ := Option.map_eq_some_iff.mp demand
    exact ⟨id, pw, schoolName, codes, rfl, rfl, rfl, resolved, same.symm⟩

theorem operands_of_demandLink {change : Bytes → Bytes → Change} {asked : Change} :
    ∀ {id childId : Option Bytes}, demandLink change id childId = some asked →
      ∃ idText childText, id = some idText ∧ childId = some childText ∧
        asked = change childText idText
  | none, _ | some _, none => (nomatch ·)
  | some id, some childId => fun demand => ⟨id, childId, rfl, rfl, (Option.some.inj demand).symm⟩

/-- The request asks for the change: its command and operands are those of the change. -/
def Request.Asks (request : Request) : Change → Prop
  | .register id pw codes => request.command = cmdRegisterGeneral ∧
      request.operands.id = some id ∧ request.operands.pw = some pw ∧
      ∃ name, request.operands.schoolName = some name ∧ schoolCodes name = some codes
  | .update id pw codes => request.command = cmdUpdate ∧
      request.operands.id = some id ∧ request.operands.pw = some pw ∧
      ∃ name, request.operands.schoolName = some name ∧ schoolCodes name = some codes
  | .delete id => request.command = cmdDelete ∧ request.operands.id = some id
  | .link childId parentId => request.command = cmdAddChild ∧
      request.operands.id = some parentId ∧ request.operands.childId = some childId
  | .unlink childId parentId => request.command = cmdDelChild ∧
      request.operands.id = some parentId ∧ request.operands.childId = some childId

theorem asks_of_demand {request : Request} {change : Change}
    (asked : request.demand schoolCodes = some change) : request.Asks schoolCodes change := by
  unfold Request.demand at asked
  split at asked
  · rename_i isRegister
    obtain ⟨id, pw, name, codes, hasId, hasPw, hasSchool, resolved, rfl⟩ :=
      operands_of_demandRecord schoolCodes asked
    exact ⟨isRegister, hasId, hasPw, name, hasSchool, resolved⟩
  split at asked
  · rename_i isUpdate
    obtain ⟨id, pw, name, codes, hasId, hasPw, hasSchool, resolved, rfl⟩ :=
      operands_of_demandRecord schoolCodes asked
    exact ⟨isUpdate, hasId, hasPw, name, hasSchool, resolved⟩
  split at asked
  · rename_i isDelete
    obtain ⟨id, hasId, rfl⟩ := Option.map_eq_some_iff.mp asked
    exact ⟨isDelete, hasId⟩
  split at asked
  · rename_i isAddChild
    obtain ⟨id, childId, hasId, hasChild, rfl⟩ := operands_of_demandLink asked
    exact ⟨isAddChild, hasId, hasChild⟩
  split at asked
  · rename_i isDelChild
    obtain ⟨id, childId, hasId, hasChild, rfl⟩ := operands_of_demandLink asked
    exact ⟨isDelChild, hasId, hasChild⟩
  · cases asked

end Demands

/-- The commands that may change the store. -/
def changing : List Bytes := [cmdRegisterGeneral, cmdUpdate, cmdDelete, cmdAddChild, cmdDelChild]

def Outcome.Succeeds (outcome : Outcome) : Prop :=
  ∃ reply ∈ outcome.replies, reply.status = respSuccess

theorem World.succeeds_iff (world : World) : world.Succeeds ↔ world.outcome.Succeeds := Iff.rfl

/-! ### The record of a registration -/

theorem generalUser_eq (id pw : Bytes) (codes : SchoolCodes) :
    generalUser id pw codes =
      ⟨id.take 19, pw.take 19, [], roleGeneral, codes.eduCode.take 49,
        codes.schoolCode.take 49⟩ := by
  have role : roleGeneral.take (maxRoleLen - 1) = roleGeneral := by decide
  simp only [generalUser, strncpy_zeroed, role]
  rfl

theorem fits_generalUser (id pw : Bytes) (codes : SchoolCodes) :
    (generalUser id pw codes).Fits := by
  have role : roleGeneral.length = 7 := by decide
  rw [generalUser_eq, User.Fits]
  simp only [List.length_take, role]
  omega

/-- The record contains a quote only if one of the four cut fields does. -/
theorem quoteFree_generalUser_iff (id pw : Bytes) (codes : SchoolCodes) :
    (generalUser id pw codes).QuoteFree ↔
      SqlText.quote ∉ id.take 19 ∧ SqlText.quote ∉ pw.take 19 ∧
        SqlText.quote ∉ codes.eduCode.take 49 ∧ SqlText.quote ∉ codes.schoolCode.take 49 := by
  have role : SqlText.quote ∉ roleGeneral := by decide
  rw [generalUser_eq, User.QuoteFree]
  simp [role]

theorem quoteFree_generalUser {id pw : Bytes} {codes : SchoolCodes}
    (idFree : SqlText.quote ∉ id) (pwFree : SqlText.quote ∉ pw)
    (codesFree : SqlText.quote ∉ codes.eduCode ∧ SqlText.quote ∉ codes.schoolCode) :
    (generalUser id pw codes).QuoteFree :=
  (quoteFree_generalUser_iff id pw codes).mpr
    ⟨fun member => idFree (List.mem_of_mem_take member),
      fun member => pwFree (List.mem_of_mem_take member),
      fun member => codesFree.1 (List.mem_of_mem_take member),
      fun member => codesFree.2 (List.mem_of_mem_take member)⟩

/-- A valid registration is inserted as it was asked for; only the codes are cut. -/
theorem generalUser_of_valid {id pw : Bytes} (validId : isValidId id = true)
    (validPw : isValidPassword pw = true) (codes : SchoolCodes) :
    generalUser id pw codes =
      ⟨id, pw, [], roleGeneral, codes.eduCode.take 49, codes.schoolCode.take 49⟩ := by
  have idLength := ((isValidId_iff id).mp validId).2.1
  have pwLength := ((isValidPassword_iff pw).mp validPw).1
  rw [generalUser_eq, List.take_of_length_le (by omega : id.length ≤ 19),
    List.take_of_length_le (by omega : pw.length ≤ 19)]

theorem quoteFree_of_valid {id pw : Bytes} (validId : isValidId id = true)
    (validPw : isValidPassword pw = true) {codes : SchoolCodes}
    (codesFree : SqlText.quote ∉ codes.eduCode ∧ SqlText.quote ∉ codes.schoolCode) :
    (generalUser id pw codes).QuoteFree :=
  quoteFree_generalUser (plain_of_isValidId validId SqlText.quote rfl)
    (plain_of_isValidPassword validPw SqlText.quote rfl) codesFree

/-- Nothing a registration pastes into its statement contains a quote. -/
def Request.QuoteFree (schoolCodes : Bytes → Option SchoolCodes) (request : Request) : Prop :=
  request.command = cmdRegisterGeneral →
    ∀ id ∈ request.operands.id, ∀ pw ∈ request.operands.pw,
      ∀ schoolName ∈ request.operands.schoolName, ∀ codes ∈ schoolCodes schoolName,
        (generalUser id pw codes).QuoteFree

section Made

variable (around : Surroundings) (store : Store)

/-- Without quotes the insertion is SQLite's. -/
theorem inserted_of_quoteFree {user : User} (fits : user.Fits) (quoteFree : user.QuoteFree) :
    inserted around store user = (around.quiet 2 && (userRow store user.id).isNone,
      if around.quiet 2 then withUser store user else store) := by
  have run := run_addUser around ⟨store, 2, []⟩ fits quoteFree
  rw [addUser, run_sqliteExec] at run
  exact Prod.ext (Option.some.inj (Prod.mk.inj run).1)
    (congrArg World.store (Prod.mk.inj run).2)

/-! ### Made or refused -/

/-- The outcome makes the change that was asked for, when it is accepted, and otherwise refuses
and leaves the store alone. -/
inductive Settles (change : Option Change) (outcome : Outcome) : Prop
  | refused (unaccepted : ∀ asked ∈ change, ¬ asked.Accepted around store)
      (same : outcome.store = store) (error : ¬ outcome.Succeeds)
  | made (asked : Change) (demand : change = some asked) (accepted : asked.Accepted around store)
      (after : outcome.store = asked.apply store) (succeeds : outcome.Succeeds)

theorem Settles.succeeds_iff {around : Surroundings} {store : Store} {change : Option Change}
    {outcome : Outcome} (settles : Settles around store change outcome) :
    outcome.Succeeds ↔ ∃ asked, change = some asked ∧ asked.Accepted around store := by
  cases settles with
  | refused unaccepted same error =>
    exact ⟨fun succeeds => absurd succeeds error,
      fun ⟨asked, demand, accepted⟩ => absurd accepted (unaccepted asked demand)⟩
  | made asked demand accepted after succeeds =>
    exact ⟨fun _ => ⟨asked, demand, accepted⟩, fun _ => succeeds⟩

variable {store}

theorem not_succeeds_refusal (after : Store) (message : Bytes) :
    ¬ (refusal after message).Succeeds := by
  rintro ⟨reply, member, status⟩
  rw [List.mem_singleton.mp member] at status
  cases status

theorem succeeds_success (after : Store) (message data : Bytes) :
    (Outcome.mk after [success message data]).Succeeds :=
  ⟨_, List.mem_singleton.mpr rfl, rfl⟩

/-- An error reply settles a change that is not accepted. -/
theorem settles_refusal {change : Option Change} (message : Bytes)
    (unaccepted : ∀ asked ∈ change, ¬ asked.Accepted around store) :
    Settles around store change (refusal store message) :=
  .refused unaccepted rfl (not_succeeds_refusal store message)

/-- So does silence. -/
theorem settles_unanswered {change : Option Change}
    (unaccepted : ∀ asked ∈ change, ¬ asked.Accepted around store) :
    Settles around store change ⟨store, []⟩ :=
  .refused unaccepted rfl fun succeeds => List.not_mem_nil succeeds.choose_spec.1

theorem settles_none (message : Bytes) : Settles around store none (refusal store message) :=
  settles_refusal around message fun _ impossible => by cases impossible

theorem unaccepted_some {change : Change} (unaccepted : ¬ change.Accepted around store) :
    ∀ asked ∈ some change, ¬ asked.Accepted around store := by
  intro asked member
  obtain rfl := Option.some.inj member
  exact unaccepted

/-- A registration inserts the record, or refuses. -/
theorem settles_registerGeneral : ∀ id pw eduOffice schoolName : Option Bytes,
    (∀ idText ∈ id, ∀ pwText ∈ pw, ∀ name ∈ schoolName, ∀ codes ∈ around.schoolCodes name,
      (generalUser idText pwText codes).QuoteFree) →
    Settles around store (demandRecord around.schoolCodes .register id pw eduOffice schoolName)
      (outcomeOf around store (registerGeneral id pw eduOffice schoolName))
  | none, _, _, _ | some _, none, _, _ | some _, some _, none, _ | some _, some _, some _, none =>
    fun _ => settles_none around respInvalidRequest
  | some id, some pw, some eduOffice, some schoolName => by
    intro pasted
    rw [outcomeOf_registerGeneral, registerOutcome, demandRecord]
    cases resolved : around.schoolCodes schoolName with
    | none =>
      split
      · exact settles_none around errIdDuplicate
      · exact settles_none around schoolNotFound
    | some codes =>
      have quoteFree := pasted id rfl pw rfl schoolName rfl codes resolved
      cases taken : around.quiet 0 && (userRow store id).isSome with
      | true =>
        exact settles_refusal around errIdDuplicate <| unaccepted_some around fun accepted =>
          Bool.false_ne_true (accepted.1.symm.trans taken)
      | false =>
        rw [if_neg Bool.false_ne_true]
        show Settles around store _ ⟨(inserted around store (generalUser id pw codes)).2, _⟩
        rw [inserted_of_quoteFree around store (fits_generalUser id pw codes) quoteFree]
        cases quiet : around.quiet 2 with
        | false =>
          exact settles_unanswered around <| unaccepted_some around fun accepted =>
            Bool.false_ne_true (quiet.symm.trans accepted.2.1)
        | true =>
          cases found : userRow store (generalUser id pw codes).id with
          | none =>
            exact .made (.register id pw codes) rfl ⟨taken, quiet, found⟩ rfl
              (succeeds_success _ _ _)
          | some row =>
            have same : withUser store (generalUser id pw codes) = store :=
              withUser_of_taken (by simp [found])
            rw [if_pos rfl, same]
            refine settles_unanswered around (unaccepted_some around fun accepted => ?_)
            cases found.symm.trans accepted.2.2

/-- An update overwrites the row, or refuses. -/
theorem settles_update : ∀ id pw eduOffice schoolName : Option Bytes,
    Settles around store (demandRecord around.schoolCodes .update id pw eduOffice schoolName)
      (outcomeOf around store (update id pw eduOffice schoolName))
  | none, _, _, _ | some _, none, _, _ | some _, some _, none, _ | some _, some _, some _, none =>
    settles_none around respInvalidRequest
  | some id, some pw, some eduOffice, some schoolName => by
    rw [outcomeOf_update, updateOutcome, demandRecord]
    cases around.schoolCodes schoolName with
    | none => exact settles_none around schoolNotFound
    | some codes =>
      show Settles around store (some (.update id pw codes)) (if _ then _ else if _ then _ else _)
      cases unreadable : around.quiet 1 && (userRow store id).any (!isReadable ·) with
      | true =>
        exact settles_unanswered around <| unaccepted_some around fun accepted =>
          Bool.false_ne_true (accepted.1.symm.trans unreadable)
      | false =>
        cases quiet : around.quiet 2 with
        | true =>
          exact .made (.update id pw codes) rfl ⟨unreadable, quiet⟩ rfl (succeeds_success _ _ _)
        | false =>
          exact settles_refusal around respDbError <| unaccepted_some around fun accepted =>
            Bool.false_ne_true (quiet.symm.trans accepted.2)

theorem settles_delete : ∀ id : Option Bytes,
    Settles around store (id.map .delete) (outcomeOf around store (delete id))
  | none => settles_none around respInvalidRequest
  | some id => by
    rw [outcomeOf_delete, deleteOutcome]
    by_cases allowed : around.quiet 0 = true ∧ isReferenced store id = false
    · rw [if_pos (by simp [allowed.1, allowed.2])]
      exact .made (.delete id) rfl allowed rfl (succeeds_success _ _ _)
    · rw [if_neg (by simpa using allowed)]
      exact settles_refusal around respDbError (unaccepted_some around allowed)

theorem settles_addChild : ∀ id childId : Option Bytes,
    Settles around store (demandLink .link id childId)
      (outcomeOf around store (addChild id childId))
  | none, _ | some _, none => settles_none around respInvalidRequest
  | some id, some childId => by
    rw [outcomeOf_addChild, addChildOutcome]
    by_cases known : around.quiet 0 = true ∧ (userRow store childId).isSome = true
    · rw [if_neg (by simp [known.1, known.2])]
      by_cases allowed : around.quiet 1 = true ∧ around.quiet 2 = true ∧
          (userRow store id).isSome = true ∧ isLinked store childId id = false
      · rw [if_pos (by simp [allowed.1, allowed.2.1, allowed.2.2.1, allowed.2.2.2])]
        exact .made (.link childId id) rfl
          ⟨known.1, allowed.1, allowed.2.1, known.2, allowed.2.2.1, allowed.2.2.2⟩ rfl
          (succeeds_success _ _ _)
      · rw [if_neg (by simpa [and_assoc] using allowed)]
        exact settles_refusal around respDbError <| unaccepted_some around fun accepted =>
          allowed ⟨accepted.2.1, accepted.2.2.1, accepted.2.2.2.2.1, accepted.2.2.2.2.2⟩
    · rw [if_pos (by simpa [imp_iff_not_or] using known)]
      exact settles_refusal around errChildUserNotFound <| unaccepted_some around fun accepted =>
        known ⟨accepted.1, accepted.2.2.2.1⟩

theorem settles_delChild : ∀ id childId : Option Bytes,
    Settles around store (demandLink .unlink id childId)
      (outcomeOf around store (delChild id childId))
  | none, _ | some _, none => settles_none around respInvalidRequest
  | some id, some childId => by
    rw [outcomeOf_delChild, delChildOutcome]
    by_cases linked : around.quiet 0 = true ∧ isLinked store childId id = true
    · rw [if_neg (by simp [linked.1, linked.2])]
      cases quiet : around.quiet 1 with
      | true =>
        exact .made (.unlink childId id) rfl ⟨linked.1, quiet, linked.2⟩ rfl
          (succeeds_success _ _ _)
      | false =>
        exact settles_refusal around respDbError <| unaccepted_some around fun accepted =>
          Bool.false_ne_true (quiet.symm.trans accepted.2.1)
    · rw [if_pos (by simpa [imp_iff_not_or] using linked)]
      exact settles_refusal around errInvalidChildId <| unaccepted_some around fun accepted =>
        linked ⟨accepted.1, accepted.2.2⟩

/-! ### Commands that only read -/

/-- The program leaves the store as it was. -/
def Reads (store : Store) (program : Server Unit) : Prop :=
  (outcomeOf around store program).store = store

theorem reads_invalidRequest : Reads around store invalidRequest := rfl

theorem reads_of_replies {program : Server Unit} {replies : Reply → List Reply}
    (outcome : ∃ reply, outcomeOf around store program = ⟨store, replies reply⟩) :
    Reads around store program := by
  obtain ⟨reply, same⟩ := outcome
  rw [Reads, same]

theorem reads_login (locals : Locals) : ∀ id pw : Option Bytes,
    Reads around store (login locals id pw)
  | none, _ | some _, none => reads_invalidRequest around
  | some id, some pw => by
    rw [Reads, outcomeOf_login, loginOutcome]
    split
    · split
      · rfl
      · split <;> rfl
    · rfl

theorem reads_getChildrenOf (locals : Locals) : ∀ id : Option Bytes,
    Reads around store (getChildrenOf locals id)
  | none => reads_invalidRequest around
  | some id => by
    rw [Reads, outcomeOf_getChildrenOf]
    rfl

theorem reads_childMeal (locals : Locals) : ∀ id childId date : Option Bytes,
    Reads around store (childMeal locals id childId date)
  | none, _, _ | some _, none, _ | some _, some _, none => reads_invalidRequest around
  | some id, some childId, some date => by
    rw [Reads, outcomeOf_childMeal]

theorem reads_childMultiMeal : ∀ id childId period : Option Bytes,
    Reads around store (childMultiMeal id childId period)
  | none, _, _ | some _, none, _ | some _, some _, none => reads_invalidRequest around
  | some id, some childId, some period =>
    reads_of_replies around (outcomeOf_childMultiMeal around store id childId period)

theorem reads_getMealOf : ∀ eduOffice schoolName date : Option Bytes,
    Reads around store (getMealOf eduOffice schoolName date)
  | none, _, _ | some _, none, _ | some _, some _, none => reads_invalidRequest around
  | some eduOffice, some schoolName, some date => by
    rw [Reads, outcomeOf_getMealOf]

theorem reads_getMultiMeal : ∀ eduOffice schoolName period : Option Bytes,
    Reads around store (getMultiMeal eduOffice schoolName period)
  | none, _, _ | some _, none, _ | some _, some _, none => reads_invalidRequest around
  | some eduOffice, some schoolName, some period =>
    reads_of_replies around (outcomeOf_getMultiMeal around store eduOffice schoolName period ▸
      multiMealOutcome_replies around store eduOffice schoolName period)

/-! ### The dispatcher -/

/-- A changing command makes the change it asks for or refuses. -/
theorem settles_dispatch (locals : Locals) (request : Request)
    (quoteFree : request.QuoteFree around.schoolCodes) (changes : request.command ∈ changing) :
    Settles around store (request.demand around.schoolCodes)
      (outcomeOf around store (dispatch locals request)) := by
  obtain ⟨command, operands⟩ := request
  simp only [changing, List.mem_cons, List.not_mem_nil, or_false] at changes
  rcases changes with rfl | rfl | rfl | rfl | rfl
  · exact settles_registerGeneral around operands.id operands.pw operands.eduOffice
      operands.schoolName (quoteFree rfl)
  · exact settles_update around operands.id operands.pw operands.eduOffice operands.schoolName
  · exact settles_delete around operands.id
  · exact settles_addChild around operands.id operands.childId
  · exact settles_delChild around operands.id operands.childId

/-- Every other command leaves the store as it was. -/
theorem reads_dispatch (locals : Locals) (request : Request)
    (reads : request.command ∉ changing) : Reads around store (dispatch locals request) := by
  obtain ⟨command, operands⟩ := request
  simp only [changing, List.mem_cons, List.not_mem_nil, or_false, not_or] at reads
  obtain ⟨noRegister, noUpdate, noDelete, noAddChild, noDelChild⟩ := reads
  unfold dispatch
  simp only [noRegister, noUpdate, noDelete, noAddChild, noDelChild, if_false]
  split
  · exact reads_login around locals operands.id operands.pw
  split
  · exact reads_getChildrenOf around locals operands.id
  split
  · exact reads_childMeal around locals operands.id operands.childId operands.date
  split
  · exact reads_childMultiMeal around operands.id operands.childId operands.period
  split
  · exact reads_getMealOf around operands.eduOffice operands.schoolName operands.date
  split
  · exact reads_getMultiMeal around operands.eduOffice operands.schoolName operands.period
  · rfl

theorem demand_of_reads (schoolCodes : Bytes → Option SchoolCodes) (request : Request)
    (reads : request.command ∉ changing) : request.demand schoolCodes = none := by
  simp only [changing, List.mem_cons, List.not_mem_nil, or_false, not_or] at reads
  simp [Request.demand, reads]

end Made

/-! ### One request -/

/-- The change an arrival asks for. -/
def Arrival.demand (arrival : Arrival) : Option Change :=
  (parseRequest arrival.received).bind (·.demand arrival.around.schoolCodes)

theorem Arrival.asks {arrival : Arrival} {change : Change}
    (asked : arrival.demand = some change) :
    ∃ request, parseRequest arrival.received = some request ∧
      request.Asks arrival.around.schoolCodes change := by
  obtain ⟨request, parsed, demand⟩ := Option.bind_eq_some_iff.mp asked
  exact ⟨request, parsed, asks_of_demand _ demand⟩

/-- The arrival is no registration with a quote. -/
def Arrival.QuoteFree (arrival : Arrival) : Prop :=
  ∀ request ∈ parseRequest arrival.received, request.QuoteFree arrival.around.schoolCodes

/-- A registration without quotes. -/
def sampleRegistration : Arrival :=
  .calm (requestText cmdRegisterGeneral
    [utf8 "user1", utf8 "1234", utf8 "Seoul", utf8 "Sample School"])

theorem parsed_sampleRegistration : parseRequest sampleRegistration.received =
    some ⟨cmdRegisterGeneral, { Operands.null with
      id := some (utf8 "user1"), pw := some (utf8 "1234"), eduOffice := some (utf8 "Seoul"),
      schoolName := some (utf8 "Sample School") }⟩ := by decide

theorem quoteFree_sampleRegistration : sampleRegistration.QuoteFree := by
  intro request found _ id hasId pw hasPw schoolName _ codes resolved
  obtain rfl := Option.some.inj (parsed_sampleRegistration.symm.trans found)
  obtain rfl := Option.some.inj hasId
  obtain rfl := Option.some.inj hasPw
  obtain rfl := Option.some.inj resolved
  decide

/-- The change an arrival made: the one it asked for, if it was answered with success. -/
def Arrival.changed (arrival : Arrival) (store : Store) : Option Change :=
  if (serve arrival store).Succeeds then arrival.demand else none

/-- A request makes the change it asks for or refuses. -/
theorem serve_settles (arrival : Arrival) (store : Store) (quoteFree : arrival.QuoteFree)
    {request : Request} (parsed : parseRequest arrival.received = some request)
    (changes : request.command ∈ changing) :
    Settles arrival.around store arrival.demand (serve arrival store).outcome := by
  have settles : Settles arrival.around store (request.demand arrival.around.schoolCodes)
      (outcomeOf arrival.around store (dispatch arrival.locals request)) :=
    settles_dispatch arrival.around arrival.locals request (quoteFree request parsed) changes
  have program : handleClient arrival.locals arrival.received =
      dispatch arrival.locals request := by
    rw [handleClient, parsed]
  rw [Arrival.demand, parsed]
  show Settles arrival.around store _ (outcomeOf arrival.around store (handleClient _ _))
  rw [program]
  exact settles

/-- The store after a request is the store before it with the change the request made, and that
change was possible. -/
theorem serve_store (arrival : Arrival) (store : Store) (quoteFree : arrival.QuoteFree) :
    match arrival.changed store with
    | none => (serve arrival store).store = store
    | some change => change.Possible store ∧ (serve arrival store).store = change.apply store := by
  cases parsed : parseRequest arrival.received with
  | none =>
    have asked : arrival.changed store = none := by simp [Arrival.changed, Arrival.demand, parsed]
    have program : handleClient arrival.locals arrival.received = invalidRequest := by
      rw [handleClient, parsed]
    rw [asked, serve, program]
    rfl
  | some request =>
    by_cases changes : request.command ∈ changing
    · cases serve_settles arrival store quoteFree parsed changes with
      | refused _ same error =>
        have asked : arrival.changed store = none := if_neg error
        rw [asked]
        exact same
      | made change demand accepted after succeeds =>
        have asked : arrival.changed store = some change := (if_pos succeeds).trans demand
        rw [asked]
        exact ⟨accepted.possible, after⟩
    · have asked : arrival.changed store = none := by
        simp [Arrival.changed, Arrival.demand, parsed, demand_of_reads _ request changes]
      have program : handleClient arrival.locals arrival.received =
          dispatch arrival.locals request := by
        rw [handleClient, parsed]
      rw [asked, serve, program]
      exact reads_dispatch arrival.around arrival.locals request changes

end SchoolMeals
