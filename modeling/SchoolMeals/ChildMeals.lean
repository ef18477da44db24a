/-
This file compares the two ways to the meal of a child: the server asks NEIS when
the child asks with the codes of its school, and reads its own table of meals
when the parent asks for the child. The two agree only where that table already
holds what NEIS answers, and no command fills it.
-/

import SchoolMeals.Sessions

namespace SchoolMeals

open CText Interaction Relational

/-! ### The table of meals -/

/-- No change touches the table of meals. -/
theorem meals_apply (change : Change) (store : Store) (possible : change.Possible store) :
    (change.apply store).tables .meals = store.tables .meals := by
  cases change with
  | register id pw codes =>
    rw [Change.apply, withUser_of_fresh possible]
    exact Function.update_of_ne (by decide) _ _
  | update id pw codes =>
    rw [Change.apply, withUpdate_tables]
    exact Function.update_of_ne (by decide) _ _
  | delete id =>
    rw [Change.apply, withoutUser_of_unreferenced possible]
    exact Function.update_of_ne (by decide) _ _
  | link childId parentId =>
    obtain ⟨child, parent, unlinked⟩ := possible
    rw [Change.apply, withLink_of_new child parent unlinked]
    exact Function.update_of_ne (by decide) _ _
  | unlink childId parentId =>
    rw [Change.apply, withoutLink_tables]
    exact Function.update_of_ne (by decide) _ _

/-- After every session without quotes the table of meals is as empty as `init_db` left it. -/
theorem meals_storeAfter (session : List Arrival)
    (quoteFree : ∀ arrival ∈ session, arrival.QuoteFree) :
    (storeAfter session).tables .meals = [] :=
  invariant_storeAfter (fun store => store.tables .meals = []) rfl
    (fun change store possible empty => (meals_apply change store possible).trans empty)
    session quoteFree

theorem cachedMeal_storeAfter (session : List Arrival)
    (quoteFree : ∀ arrival ∈ session, arrival.QuoteFree) (date eduOffice schoolName : Bytes) :
    cachedMeal (storeAfter session) date eduOffice schoolName = none := by
  rw [cachedMeal, meals_storeAfter session quoteFree]
  rfl

/-- The codes that are stored for a user. -/
def storedCodes (store : Store) (id : Bytes) : Option SchoolCodes := do
  let row ← userRow store id
  let eduCode ← row .eduOffice
  let schoolCode ← row .schoolName
  return ⟨eduCode, schoolCode⟩

theorem row_of_storedCodes {store : Store} {id : Bytes} {codes : SchoolCodes}
    (stored : storedCodes store id = some codes) :
    ∃ row, userRow store id = some row ∧ row .eduOffice = some codes.eduCode ∧
      row .schoolName = some codes.schoolCode := by
  obtain ⟨row, found, rest⟩ := Option.bind_eq_some_iff.mp stored
  obtain ⟨eduCode, edu, rest⟩ := Option.bind_eq_some_iff.mp rest
  obtain ⟨schoolCode, school, same⟩ := Option.bind_eq_some_iff.mp rest
  obtain rfl := Option.some.inj same
  exact ⟨row, found, edu, school⟩

/-! ### The two queries -/

/-- The request was answered with success and this text. -/
def Serves (world : World) (text : Bytes) : Prop :=
  ∃ reply ∈ world.sent, reply.status = respSuccess ∧ reply.data = text

/-- Whenever the first request is answered with a meal, the second one is answered with the same
meal. -/
def ServesWhatIsServed (locals : Locals) (around : Surroundings) (store : Store)
    (mealRequest childRequest : Bytes) : Prop :=
  ∀ meal, Serves (serve ⟨mealRequest, locals, around⟩ store) meal →
    Serves (serve ⟨childRequest, locals, around⟩ store) meal

section Queries

variable (locals : Locals) (around : Surroundings) (store : Store)

theorem serves_of_replies {arrival : Arrival} {replies : List Reply}
    (outcome : (serve arrival store).outcome = ⟨store, replies⟩) (text : Bytes) :
    Serves (serve arrival store) text ↔
      ∃ reply ∈ replies, reply.status = respSuccess ∧ reply.data = text := by
  rw [Serves, (World.of_outcome outcome).2]

/-- A query with a school code is answered with what NEIS has under it. -/
theorem serves_mealRequest {received eduOffice schoolName date : Bytes}
    (parsed : parseRequest received = some ⟨cmdGetMeal, { Operands.null with
      eduOffice := some eduOffice, schoolName := some schoolName, date := some date }⟩)
    (digit : schoolName.head?.any isDigit = true) (text : Bytes) :
    Serves (serve ⟨received, locals, around⟩ store) text ↔
      around.meal (eduOffice.take 9) (schoolName.take 19) date = some text := by
  have program : handleClient locals received =
      getMealOf (some eduOffice) (some schoolName) (some date) := by
    rw [handleClient, parsed]
    rfl
  have outcome : (serve ⟨received, locals, around⟩ store).outcome =
      ⟨store, [mealReply around eduOffice schoolName date]⟩ :=
    (congrArg (outcomeOf around store) program).trans
      (outcomeOf_getMealOf around store eduOffice schoolName date)
  rw [serves_of_replies store outcome, mealReply, codesUsed, if_pos digit]
  simp only [strncpy_zeroed]
  cases around.meal (eduOffice.take 9) (schoolName.take 19) date with
  | none => simp [failure, respError, respSuccess]
  | some meal => simp [success]

/-- What `CHILD_MEAL` takes out of the table of meals, under the codes that its record holds. -/
def tableMeal (date : Bytes) (codes : SchoolCodes) : Option Bytes :=
  (cachedMeal store date
    (strncpy codes.eduCode (maxEduOfficeLen - 1) locals.child.eduOffice)
    (strncpy codes.schoolCode (maxSchoolNameLen - 1) locals.child.schoolName)).map
      (strncpy · (maxMealLen - 1) [])

/-- A query for a child is answered with what the table has under the child's codes. -/
theorem serves_childRequest {received parentId childId date : Bytes} {operands : Operands}
    {codes : SchoolCodes} (parsed : parseRequest received = some ⟨cmdChildMeal, operands⟩)
    (id : operands.id = some parentId) (child : operands.childId = some childId)
    (day : operands.date = some date) (linked : isLinked store childId parentId = true)
    (stored : storedCodes store childId = some codes) (text : Bytes) :
    Serves (serve ⟨received, locals, around⟩ store) text ↔
      around.quiet 0 = true ∧ around.quiet 1 = true ∧ around.quiet 2 = true ∧
        tableMeal locals store date codes = some text := by
  obtain ⟨row, found, edu, school⟩ := row_of_storedCodes stored
  have readable : isReadable row = true := by simp [isReadable, edu, school]
  have copied : (cachedMeal store date (copiedUser locals.child row).eduOffice
      (copiedUser locals.child row).schoolName).map (strncpy · (maxMealLen - 1) []) =
        tableMeal locals store date codes := by
    rw [tableMeal, copiedUser, edu, school]
    rfl
  have program : handleClient locals received =
      childMeal locals (some parentId) (some childId) (some date) := by
    rw [handleClient, parsed, ← id, ← child, ← day]
    rfl
  have outcome : (serve ⟨received, locals, around⟩ store).outcome =
      ⟨store, childMealReplies around store locals parentId childId date⟩ :=
    (congrArg (outcomeOf around store) program).trans
      (outcomeOf_childMeal around store locals parentId childId date)
  rw [serves_of_replies store outcome, childMealReplies, linked, found]
  cases around.quiet 0 with
  | false => simp [failure, respError, respSuccess]
  | true =>
    cases around.quiet 1 with
    | false => simp [failure, respError, respSuccess]
    | true =>
      simp only [Bool.and_self, Bool.not_true, Bool.false_eq_true, if_false, if_true, readable,
        copied]
      cases around.quiet 2 with
      | false => simp [failure, respError, respSuccess]
      | true =>
        simp only [if_true]
        cases tableMeal locals store date codes with
        | none => simp [failure, respError, respSuccess]
        | some meal => simp [success]

end Queries

/-- NEIS has no meal for the codes, or the table already holds the same text and SQLite reads it
without a fault. -/
def AlreadyHeld (locals : Locals) (around : Surroundings) (store : Store) (date : Bytes)
    (codes : SchoolCodes) : Prop :=
  ∀ meal, around.meal (codes.eduCode.take 9) (codes.schoolCode.take 19) date = some meal →
    around.quiet 0 = true ∧ around.quiet 1 = true ∧ around.quiet 2 = true ∧
      tableMeal locals store date codes = some meal

/-- A parent is served what the child is served exactly when the table already holds it. After a
session without quotes it never does: then the parent is served so only where NEIS has nothing. -/
theorem servesWhatIsServed_iff (session : List Arrival) {locals : Locals} {around : Surroundings}
    {mealRequest childRequest parentId childId date : Bytes} {operands : Operands}
    {codes : SchoolCodes} (linked : isLinked (storeAfter session) childId parentId = true)
    (stored : storedCodes (storeAfter session) childId = some codes)
    (digit : codes.schoolCode.head?.any isDigit = true)
    (mealParsed : parseRequest mealRequest = some ⟨cmdGetMeal, { Operands.null with
      eduOffice := some codes.eduCode, schoolName := some codes.schoolCode, date := some date }⟩)
    (childParsed : parseRequest childRequest = some ⟨cmdChildMeal, operands⟩)
    (id : operands.id = some parentId) (child : operands.childId = some childId)
    (day : operands.date = some date) :
    (ServesWhatIsServed locals around (storeAfter session) mealRequest childRequest ↔
        AlreadyHeld locals around (storeAfter session) date codes) ∧
      ((∀ arrival ∈ session, arrival.QuoteFree) →
        (ServesWhatIsServed locals around (storeAfter session) mealRequest childRequest ↔
          around.meal (codes.eduCode.take 9) (codes.schoolCode.take 19) date = none)) := by
  have held : ServesWhatIsServed locals around (storeAfter session) mealRequest childRequest ↔
      AlreadyHeld locals around (storeAfter session) date codes := by
    simp only [ServesWhatIsServed, AlreadyHeld,
      serves_mealRequest locals around _ mealParsed digit,
      serves_childRequest locals around _ childParsed id child day linked stored]
  refine ⟨held, fun quoteFree => held.trans ?_⟩
  have nothing : tableMeal locals (storeAfter session) date codes = none := by
    rw [tableMeal, cachedMeal_storeAfter session quoteFree]
    rfl
  rw [AlreadyHeld, nothing, Option.eq_none_iff_forall_ne_some]
  refine forall_congr' fun meal => ⟨fun impossible given => ?_, fun never given => ?_⟩
  · cases (impossible given).2.2.2
  · exact absurd given never

/-! ### A parent and a child -/

/-- A NEIS that has one meal for every school and day. -/
def sameMealEverywhere : Surroundings :=
  { Surroundings.calm ⟨utf8 "B10", utf8 "7010569"⟩ with meal := fun _ _ _ => some (utf8 "rice") }

def parentRegistration : Arrival :=
  .calm (requestText cmdRegisterGeneral
    [utf8 "user2", utf8 "1234", utf8 "Seoul", utf8 "Sample School"])

def childLink : Arrival :=
  .calm (requestText cmdAddChild [utf8 "user2", utf8 "1234", utf8 "Seoul", utf8 "Sample School",
    utf8 "20240603", utf8 "user1"])

/-- Two registrations and a link. -/
def familySession : List Arrival := [childLink, parentRegistration, sampleRegistration]

def ownMealRequest : Bytes :=
  requestText cmdGetMeal [utf8 "B10", utf8 "7010569", utf8 "20240603"]

def childMealRequest : Bytes :=
  requestText cmdChildMeal [utf8 "user2", utf8 "1234", utf8 "Seoul", utf8 "Sample School",
    utf8 "20240603", utf8 "user1"]

theorem servesWhatIsServed_family :
    (ServesWhatIsServed .zeroed sameMealEverywhere (storeAfter familySession) ownMealRequest
        childMealRequest ↔
      AlreadyHeld .zeroed sameMealEverywhere (storeAfter familySession) (utf8 "20240603")
        ⟨utf8 "B10", utf8 "7010569"⟩) ∧
      ((∀ arrival ∈ familySession, arrival.QuoteFree) →
        (ServesWhatIsServed .zeroed sameMealEverywhere (storeAfter familySession) ownMealRequest
          childMealRequest ↔
          sameMealEverywhere.meal ((utf8 "B10").take 9) ((utf8 "7010569").take 19)
            (utf8 "20240603") = none)) :=
  servesWhatIsServed_iff familySession (by decide) (by decide) (by decide) (by decide)
    (by decide : parseRequest childMealRequest = some ⟨cmdChildMeal, some (utf8 "user2"),
      some (utf8 "1234"), some (utf8 "Seoul"), some (utf8 "Sample School"),
      some (utf8 "20240603"), some (utf8 "user1"), none⟩) rfl rfl rfl

/-- The child is served its meal, and the parent is told that there is none. -/
theorem parentServedNothing : ¬ ServesWhatIsServed .zeroed sameMealEverywhere
    (storeAfter familySession) ownMealRequest childMealRequest := by
  intro serves
  have own : (serve ⟨ownMealRequest, .zeroed, sameMealEverywhere⟩ (storeAfter familySession)).sent =
      [success mealFound (utf8 "rice")] := by decide
  have parents : (serve ⟨childMealRequest, .zeroed, sameMealEverywhere⟩
      (storeAfter familySession)).sent = [failure errChildMealNotFound] := by decide
  obtain ⟨reply, member, succeeds, _⟩ := serves (utf8 "rice")
    ⟨success mealFound (utf8 "rice"), own ▸ List.mem_singleton_self _, rfl, rfl⟩
  rw [parents, List.mem_singleton] at member
  subst member
  exact absurd succeeds (by decide)

end SchoolMeals
