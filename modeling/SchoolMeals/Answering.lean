/-
This file counts the replies of one pass of the request loop. A request is
answered exactly once, whatever bytes arrive and whatever SQLite and NEIS do,
with two exceptions. A registration that passes the duplicate check and then
fails to insert is never answered, because `handle_register_general` replies to
one of its failures and leaves the other to nobody. And a record with a null
column stops the request that copies it before it can reply.
-/

import SchoolMeals.Outcomes
import SchoolMeals.Parsing

namespace SchoolMeals

open CText Interaction

/-! ### The requests that go unanswered -/

section Silence

variable (around : Surroundings) (store : Store)

/-- `get_user` of this identifier meets a null column, at this call of the request. -/
def stumbles (call : Nat) (id : Bytes) : Bool :=
  around.quiet call && (userRow store id).any (!isReadable ·)

def loginSilent : Option Bytes → Option Bytes → Bool
  | some id, some pw =>
    around.quiet 0 && (userRow store id).any (fun row => row .pw = some pw) &&
      stumbles around store 1 id
  | _, _ => false

/-- The duplicate check passes, the school is found, and `sqlite3_exec` fails. -/
def registerSilent : Option Bytes → Option Bytes → Option Bytes → Option Bytes → Bool
  | some id, some pw, some _, some schoolName =>
    !(around.quiet 0 && (userRow store id).isSome) &&
      (around.schoolCodes schoolName).any fun codes =>
        !(inserted around store (generalUser id pw codes)).1
  | _, _, _, _ => false

def updateSilent : Option Bytes → Option Bytes → Option Bytes → Option Bytes → Bool
  | some id, some _, some _, some schoolName =>
    (around.schoolCodes schoolName).isSome && stumbles around store 1 id
  | _, _, _, _ => false

def childMealSilent : Option Bytes → Option Bytes → Option Bytes → Bool
  | some id, some childId, some _ =>
    around.quiet 0 && isLinked store childId id && stumbles around store 1 childId
  | _, _, _ => false

/-- The request goes unanswered. -/
def isSilent (request : Request) : Bool :=
  let operands := request.operands
  if request.command = cmdLogin then loginSilent around store operands.id operands.pw
  else if request.command = cmdRegisterGeneral then
    registerSilent around store operands.id operands.pw operands.eduOffice operands.schoolName
  else if request.command = cmdUpdate then
    updateSilent around store operands.id operands.pw operands.eduOffice operands.schoolName
  else if request.command = cmdChildMeal then
    childMealSilent around store operands.id operands.childId operands.date
  else false

/-! ### Every branch answers once, or is silent -/

/-- The program answers once unless the flag is set, and then not at all. -/
def AnswersUnless (silent : Bool) (program : Server Unit) : Prop :=
  (outcomeOf around store program).replies.length = if silent then 0 else 1

theorem answers_invalidRequest : AnswersUnless around store false invalidRequest := rfl

theorem answers_of_reply {program : Server Unit}
    (replies : ∃ reply, outcomeOf around store program = ⟨store, [reply]⟩) :
    AnswersUnless around store false program := by
  obtain ⟨reply, outcome⟩ := replies
  rw [AnswersUnless, outcome]
  rfl

theorem answers_login (locals : Locals) : ∀ id pw : Option Bytes,
    AnswersUnless around store (loginSilent around store id pw) (login locals id pw)
  | none, _ | some _, none => answers_invalidRequest around store
  | some id, some pw => by
    have stumbled : stumbles around store 1 id =
        (if around.quiet 1 then userRow store id else none).any (!isReadable ·) :=
      quiet_and_any _ _ _
    rw [AnswersUnless, outcomeOf_login, loginOutcome, loginSilent, stumbled]
    cases around.quiet 0 && (userRow store id).any fun row => row .pw = some pw with
    | false => rfl
    | true =>
      cases if around.quiet 1 then userRow store id else none with
      | none => rfl
      | some row =>
        rw [Option.any_some]
        cases readable : isReadable row <;> simp [readable]

theorem answers_registerGeneral : ∀ id pw eduOffice schoolName : Option Bytes,
    AnswersUnless around store (registerSilent around store id pw eduOffice schoolName)
      (registerGeneral id pw eduOffice schoolName)
  | none, _, _, _ | some _, none, _, _ | some _, some _, none, _ | some _, some _, some _, none =>
    answers_invalidRequest around store
  | some id, some pw, some eduOffice, some schoolName => by
    rw [AnswersUnless, outcomeOf_registerGeneral, registerOutcome, registerSilent]
    cases around.quiet 0 && (userRow store id).isSome with
    | true => rfl
    | false =>
      cases around.schoolCodes schoolName with
      | none => rfl
      | some codes =>
        rw [Option.any_some]
        cases done : (inserted around store (generalUser id pw codes)).1 <;> simp [done]

theorem answers_update : ∀ id pw eduOffice schoolName : Option Bytes,
    AnswersUnless around store (updateSilent around store id pw eduOffice schoolName)
      (update id pw eduOffice schoolName)
  | none, _, _, _ | some _, none, _, _ | some _, some _, none, _ | some _, some _, some _, none =>
    answers_invalidRequest around store
  | some id, some pw, some eduOffice, some schoolName => by
    rw [AnswersUnless, outcomeOf_update, updateOutcome, updateSilent, stumbles]
    cases around.schoolCodes schoolName with
    | none => rfl
    | some codes =>
      cases around.quiet 1 && (userRow store id).any (!isReadable ·) with
      | true => rfl
      | false => cases around.quiet 2 <;> rfl

theorem answers_delete : ∀ id : Option Bytes, AnswersUnless around store false (delete id)
  | none => answers_invalidRequest around store
  | some id => by
    rw [AnswersUnless, outcomeOf_delete, deleteOutcome]
    cases around.quiet 0 && !isReferenced store id <;> rfl

theorem answers_getChildrenOf (locals : Locals) : ∀ id : Option Bytes,
    AnswersUnless around store false (getChildrenOf locals id)
  | none => answers_invalidRequest around store
  | some id => by
    rw [AnswersUnless, outcomeOf_getChildrenOf]
    rfl

theorem answers_addChild : ∀ id childId : Option Bytes,
    AnswersUnless around store false (addChild id childId)
  | none, _ | some _, none => answers_invalidRequest around store
  | some id, some childId => by
    rw [AnswersUnless, outcomeOf_addChild, addChildOutcome]
    split
    · rfl
    · split <;> rfl

theorem answers_delChild : ∀ id childId : Option Bytes,
    AnswersUnless around store false (delChild id childId)
  | none, _ | some _, none => answers_invalidRequest around store
  | some id, some childId => by
    rw [AnswersUnless, outcomeOf_delChild, delChildOutcome]
    split
    · rfl
    · split <;> rfl

theorem answers_childMeal (locals : Locals) : ∀ id childId date : Option Bytes,
    AnswersUnless around store (childMealSilent around store id childId date)
      (childMeal locals id childId date)
  | none, _, _ | some _, none, _ | some _, some _, none => answers_invalidRequest around store
  | some id, some childId, some date => by
    obtain ⟨reply, replies⟩ := childMealReplies_once around store locals id childId date
    rw [AnswersUnless, outcomeOf_childMeal, replies, childMealSilent, stumbles, ← childUnreadable]
    cases childUnreadable around store id childId <;> rfl

theorem answers_childMultiMeal : ∀ id childId period : Option Bytes,
    AnswersUnless around store false (childMultiMeal id childId period)
  | none, _, _ | some _, none, _ | some _, some _, none => answers_invalidRequest around store
  | some id, some childId, some period =>
    answers_of_reply around store (outcomeOf_childMultiMeal around store id childId period)

theorem answers_getMealOf : ∀ eduOffice schoolName date : Option Bytes,
    AnswersUnless around store false (getMealOf eduOffice schoolName date)
  | none, _, _ | some _, none, _ | some _, some _, none => answers_invalidRequest around store
  | some eduOffice, some schoolName, some date =>
    answers_of_reply around store
      ⟨_, outcomeOf_getMealOf around store eduOffice schoolName date⟩

theorem answers_getMultiMeal : ∀ eduOffice schoolName period : Option Bytes,
    AnswersUnless around store false (getMultiMeal eduOffice schoolName period)
  | none, _, _ | some _, none, _ | some _, some _, none => answers_invalidRequest around store
  | some eduOffice, some schoolName, some period =>
    answers_of_reply around store (outcomeOf_getMultiMeal around store eduOffice schoolName period ▸
      multiMealOutcome_replies around store eduOffice schoolName period)

/-! ### The dispatcher -/

/-- Every request is answered exactly once, or is one of the silent ones and not at all. -/
theorem answers_dispatch (locals : Locals) (request : Request) :
    AnswersUnless around store (isSilent around store request) (dispatch locals request) := by
  obtain ⟨command, operands⟩ := request
  unfold dispatch isSilent
  by_cases isLogin : command = cmdLogin
  · subst isLogin
    exact answers_login around store locals operands.id operands.pw
  by_cases isRegister : command = cmdRegisterGeneral
  · subst isRegister
    exact answers_registerGeneral around store operands.id operands.pw operands.eduOffice
      operands.schoolName
  by_cases isUpdate : command = cmdUpdate
  · subst isUpdate
    exact answers_update around store operands.id operands.pw operands.eduOffice
      operands.schoolName
  by_cases isChildMeal : command = cmdChildMeal
  · subst isChildMeal
    exact answers_childMeal around store locals operands.id operands.childId operands.date
  simp only [isLogin, isRegister, isUpdate, isChildMeal, if_false]
  split
  · exact answers_delete around store operands.id
  split
  · exact answers_getChildrenOf around store locals operands.id
  split
  · exact answers_addChild around store operands.id operands.childId
  split
  · exact answers_delChild around store operands.id operands.childId
  split
  · exact answers_childMultiMeal around store operands.id operands.childId operands.period
  split
  · exact answers_getMealOf around store operands.eduOffice operands.schoolName operands.date
  split
  · exact answers_getMultiMeal around store operands.eduOffice operands.schoolName operands.period
  · rfl

end Silence

/-- One pass of the request loop replies exactly once if and only if the bytes it received do
not parse to a request that goes unanswered. -/
theorem serve_answersOnce_iff (arrival : Arrival) (store : Store) :
    (serve arrival store).sent.length = 1 ↔
      ∀ request, parseRequest arrival.received = some request →
        isSilent arrival.around store request = false := by
  show (outcomeOf arrival.around store
    (handleClient arrival.locals arrival.received)).replies.length = 1 ↔ _
  unfold handleClient
  cases parseRequest arrival.received with
  | none =>
    constructor
    · intro _ request impossible
      cases impossible
    · exact fun _ => rfl
  | some request =>
    show (outcomeOf arrival.around store (dispatch arrival.locals request)).replies.length = 1 ↔ _
    rw [answers_dispatch arrival.around store arrival.locals request]
    constructor
    · intro once other same
      obtain rfl := Option.some.inj same
      cases silent : isSilent arrival.around store request with
      | false => rfl
      | true =>
        rw [silent] at once
        cases once
    · intro spoken
      rw [spoken request rfl]
      rfl

/-- The registration of twenty letters passes the check after one of nineteen, and is never
answered. -/
theorem registration_unanswered :
    ¬ (serve (.calm (utf8 "REGISTER_GENERAL//aaaaaaaaaaaaaaaaaaaa//1234//Seoul//Sample School"))
      (serve (.calm (utf8 "REGISTER_GENERAL//aaaaaaaaaaaaaaaaaaa//1234//Seoul//Sample School"))
        initDb).store).sent.length = 1 := by
  decide

end SchoolMeals
