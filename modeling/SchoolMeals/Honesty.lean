/-
This file compares what a reply says with what happened. A request that is not
answered with success has changed nothing. The other direction fails for three
commands, and this file says exactly when: `UPDATE` and `DELETE` take a statement
that completed for a row that matched, and a registration or update under a long
identifier is carried out under its first nineteen bytes.
-/

import SchoolMeals.Changes

namespace SchoolMeals

open CText Interaction Relational

/-! ### The statements of a request -/

/-- The statement that a call hands to SQLite. -/
def Call.statement : Call → Option Statement
  | .sqlite statement => some statement
  | _ => none

/-- The statements that a part of the server hands to SQLite, in order. -/
def statementsOf {Result : Type} (around : Surroundings) (program : Server Result)
    (world : World) : List Statement :=
  (Program.exchanges (answer around) program world).filterMap (·.request.statement)

def Arrival.statements (arrival : Arrival) (store : Store) : List Statement :=
  statementsOf arrival.around (handleClient arrival.locals arrival.received) (World.start store)

/-- One of the statements is an `UPDATE` of users that matches the row. -/
def Updates (statements : List Statement) (row : Row) : Prop :=
  ∃ columns filter, .update .users columns filter ∈ statements ∧ passes filter row = true

section Statements

variable (around : Surroundings)

theorem statementsOf_bind {Result Other : Type} {program : Server Result}
    {world after : World} {result : Result} (next : Result → Server Other)
    (first : Program.run (answer around) program world = (some result, after)) :
    statementsOf around (program >>= next) world =
      statementsOf around program world ++ statementsOf around (next result) after := by
  rw [statementsOf, Program.exchanges_bind_of_some _ next first, List.filterMap_append]
  rfl

/-- A statement with no other behind it. -/
theorem statementsOf_sqlite {Result : Type} (statement : Statement) (world : World)
    {next : StepResult → Server Result}
    (silent : ∀ result after, statementsOf around (next result) after = []) :
    statementsOf around (sqlite statement >>= next) world = [statement] :=
  congrArg (statement :: ·) (silent _ _)

/-- A column is read without a statement. -/
theorem statementsOf_columnText {Result : Type} (world : World) (row : List (Option Bytes))
    (index : Nat) {next : Bytes → Server Result}
    (silent : ∀ text, statementsOf around (next text) world = []) :
    statementsOf around (columnText row index >>= next) world = [] := by
  unfold columnText
  split
  · exact silent _
  · rfl

/-- `get_user` selects. -/
theorem statementsOf_getUser (beyond : User) (id : Bytes) (world : World) :
    statementsOf around (getUser beyond id) world =
      [.select [.id, .pw, .role, .eduOffice, .schoolName] .users [(.id, id)]] := by
  refine statementsOf_sqlite around _ world fun result after => ?_
  cases result.firstRow with
  | none => rfl
  | some row =>
    refine statementsOf_columnText around _ _ 0 fun _ => ?_
    refine statementsOf_columnText around _ _ 1 fun _ => ?_
    refine statementsOf_columnText around _ _ 2 fun _ => ?_
    refine statementsOf_columnText around _ _ 3 fun _ => ?_
    exact statementsOf_columnText around _ _ 4 fun _ => rfl

/-- The end of the `UPDATE` branch runs one statement more, with the identifier that was copied. -/
theorem statementsOf_updateUser (id pw : Bytes) (codes : SchoolCodes) (oldUser : User)
    (world : World) :
    statementsOf around (do
      if ← updateUser (updatedUser id pw codes oldUser) then
        sendResponse respSuccess respUpdateOk []
      else
        sendResponse respError respDbError []) world =
      [.update .users (updatedColumns (generalUser id pw codes)) [(.id, id.take 19)]] := by
  have copied : (updatedUser id pw codes oldUser).id = id.take 19 := strncpy_zeroed _ _
  rw [statementsOf_bind around _ (run_updateUser around world _), updateUser, ← copied]
  cases world.quiet around <;> rfl

/-- An update that is accepted selects the old record and runs its one `UPDATE`. -/
theorem statementsOf_update (store : Store) {id pw eduOffice schoolName : Bytes}
    {codes : SchoolCodes} (resolved : around.schoolCodes schoolName = some codes)
    (readable : (around.quiet 1 && (userRow store id).any (!isReadable ·)) = false) :
    statementsOf around (update (some id) (some pw) (some eduOffice) (some schoolName))
        (World.start store) =
      [.select [.id, .pw, .role, .eduOffice, .schoolName] .users [(.id, id)],
        .update .users (updatedColumns (generalUser id pw codes)) [(.id, id.take 19)]] := by
  have looked : Program.run (answer around) (resolveSchoolCode schoolName) (World.start store) =
      (some (some codes), (World.start store).step store) := by
    rw [run_resolveSchoolCode, resolved]
    rfl
  rw [quiet_and_any] at readable
  rw [update, statementsOf_bind around _ looked]
  refine (List.nil_append _).trans ?_
  show statementsOf around (getUser User.zero id >>= _) _ = _
  cases found : if around.quiet 1 then userRow store id else none with
  | none =>
    rw [statementsOf_bind around _
      (run_getUser_of_none around ((World.start store).step store) found), statementsOf_getUser]
    exact congrArg (_ :: ·) (statementsOf_updateUser around id pw codes _ _)
  | some row =>
    rw [found, Option.any_some, Bool.not_eq_false'] at readable
    rw [statementsOf_bind around _
      (run_getUser_of_readable around ((World.start store).step store) found readable),
      statementsOf_getUser]
    exact congrArg (_ :: ·) (statementsOf_updateUser around id pw codes _ _)

/-- So it matches the row with the identifier that was copied. -/
theorem updates_update_iff (store : Store) : ∀ {id pw eduOffice schoolName : Option Bytes}
    {idText pwText : Bytes} {codes : SchoolCodes},
    demandRecord around.schoolCodes .update id pw eduOffice schoolName =
        some (.update idText pwText codes) →
      (around.quiet 1 && (userRow store idText).any (!isReadable ·)) = false → ∀ row,
        Updates (statementsOf around (update id pw eduOffice schoolName) (World.start store)) row ↔
          row .id = some (idText.take 19)
  | none, _, _, _, _, _, _, demand | some _, none, _, _, _, _, _, demand
  | some _, some _, none, _, _, _, _, demand
  | some _, some _, some _, none, _, _, _, demand => nomatch demand
  | some id, some pw, some eduOffice, some schoolName, idText, pwText, codes, demand => by
    intro readable row
    obtain ⟨found, resolved, same⟩ := Option.map_eq_some_iff.mp demand
    cases same
    rw [statementsOf_update around store resolved readable, Updates]
    simp [passes]

end Statements

theorem Arrival.updates_iff {arrival : Arrival} {store : Store} {id pw : Bytes}
    {codes : SchoolCodes} (asked : arrival.demand = some (.update id pw codes))
    (accepted : Change.Accepted arrival.around store (.update id pw codes)) (row : Row) :
    Updates (arrival.statements store) row ↔ row .id = some (id.take 19) := by
  obtain ⟨request, parsed, demand⟩ := Option.bind_eq_some_iff.mp asked
  have isUpdate : request.command = cmdUpdate := (asks_of_demand _ demand).1
  have notRegister : request.command ≠ cmdRegisterGeneral := by
    rw [isUpdate]
    decide
  have notLogin : request.command ≠ cmdLogin := by
    rw [isUpdate]
    decide
  rw [Request.demand, if_neg notRegister, if_pos isUpdate] at demand
  rw [Arrival.statements, handleClient, parsed]
  show Updates (statementsOf _ (dispatch _ _) _) row ↔ _
  rw [dispatch, if_neg notLogin, if_neg notRegister, if_pos isUpdate]
  exact updates_update_iff arrival.around store demand accepted.1 row

/-! ### Truth -/

/-- The change happened to the row the request names; a row that was updated is one that a
statement of the request matched. -/
def Change.Took (statements : List Statement) (before after : Store) : Change → Prop
  | register id _ _ => userRow before id = none ∧ (userRow after id).isSome
  | update id pw codes => ∃ row, userRow before id = some row ∧ Updates statements row ∧
      userRow after id = some (assign row (updatedColumns (generalUser id pw codes)))
  | delete id => (userRow before id).isSome ∧ userRow after id = none
  | link childId parentId => isLinked before childId parentId = false ∧
      isLinked after childId parentId = true
  | unlink childId parentId => isLinked before childId parentId = true ∧
      isLinked after childId parentId = false

/-- An error means that nothing changed, and success that the named row did. -/
structure Truthful (arrival : Arrival) (store : Store) : Prop where
  untouched : ¬ (serve arrival store).Succeeds → (serve arrival store).store = store
  took : ∀ request, parseRequest arrival.received = some request → request.command ∈ changing →
    (serve arrival store).Succeeds →
      ∃ change, arrival.demand = some change ∧
        change.Took (arrival.statements store) store (serve arrival store).store

/-- The change is about the row the request names: an identifier that is copied fits its array,
and a row to update or delete exists. -/
def Change.Names (store : Store) : Change → Prop
  | register id _ _ => id.length ≤ 19
  | update id _ _ => (userRow store id).isSome ∧ id.length ≤ 19
  | delete id => (userRow store id).isSome
  | link .. | unlink .. => True

theorem generalUser_id (id pw : Bytes) (codes : SchoolCodes) :
    (generalUser id pw codes).id = id.take 19 := by
  rw [generalUser_eq]

theorem eq_generalUser_id_iff (id pw : Bytes) (codes : SchoolCodes) :
    id = (generalUser id pw codes).id ↔ id.length ≤ 19 := by
  rw [generalUser_id, eq_comm]
  exact List.take_eq_self_iff id

/-- An accepted change happens to the named row exactly when it is about it. -/
theorem took_apply_iff {arrival : Arrival} {store : Store} {change : Change}
    (asked : arrival.demand = some change) (accepted : change.Accepted arrival.around store) :
    change.Took (arrival.statements store) store (change.apply store) ↔ change.Names store := by
  have possible := accepted.possible
  cases change with
  | register id pw codes =>
    show _ ∧ (userRow (withUser store (generalUser id pw codes)) id).isSome = true ↔ id.length ≤ 19
    rw [userRow_withUser possible]
    by_cases fits : id.length ≤ 19
    · have same := (eq_generalUser_id_iff id pw codes).mpr fits
      have fresh : userRow store id = none := by
        rw [same]
        exact possible
      rw [if_pos same, fresh]
      simp [fits]
    · have different : id ≠ (generalUser id pw codes).id :=
        fun same => fits ((eq_generalUser_id_iff id pw codes).mp same)
      rw [if_neg different]
      refine iff_of_false ?_ fits
      rintro ⟨fresh, present⟩
      rw [fresh] at present
      cases present
  | update id pw codes =>
    have matched := Arrival.updates_iff asked accepted
    have own := eq_generalUser_id_iff id pw codes
    constructor
    · rintro ⟨row, stored, updates, _⟩
      have named := (userRow_eq_some_iff store id row).mp stored
      refine ⟨Option.isSome_of_mem stored, (List.take_eq_self_iff id).mp ?_⟩
      exact Option.some.inj (((matched row).mp updates).symm.trans named.2)
    · rintro ⟨exists_, fits⟩
      obtain ⟨row, stored⟩ := Option.isSome_iff_exists.mp exists_
      have named := (userRow_eq_some_iff store id row).mp stored
      refine ⟨row, stored, (matched row).mpr ?_, ?_⟩
      · rw [List.take_of_length_le fits]
        exact named.2
      · show userRow (withUpdate store (generalUser id pw codes)) id = _
        rw [userRow_withUpdate, stored, Option.map_some, if_pos (own.mpr fits)]
  | delete id =>
    show _ ∧ userRow (withoutUser store id) id = none ↔ _
    rw [userRow_withoutUser possible, if_pos rfl]
    exact and_iff_left rfl
  | link childId parentId =>
    obtain ⟨child, parent, unlinked⟩ := possible
    refine iff_of_true ⟨unlinked, ?_⟩ trivial
    rw [Change.apply, isLinked_withLink child parent unlinked]
    simp
  | unlink childId parentId =>
    refine iff_of_true ⟨possible, ?_⟩ trivial
    rw [Change.apply, isLinked_withoutLink]
    simp

/-- A request without quotes is answered truthfully if and only if the change it asks for, should
it be accepted, is about the row the request names. -/
theorem truthful_iff (arrival : Arrival) (store : Store) (quoteFree : arrival.QuoteFree) :
    Truthful arrival store ↔ ∀ change, arrival.demand = some change →
      change.Accepted arrival.around store → change.Names store := by
  constructor
  · intro truthful change asked accepted
    obtain ⟨request, parsed, demand⟩ := Option.bind_eq_some_iff.mp asked
    have changes : request.command ∈ changing := by
      by_contra reads
      rw [demand_of_reads _ request reads] at demand
      cases demand
    have settles := serve_settles arrival store quoteFree parsed changes
    have succeeds : (serve arrival store).Succeeds :=
      settles.succeeds_iff.mpr ⟨change, asked, accepted⟩
    obtain ⟨same, isSame, took⟩ := truthful.took request parsed changes succeeds
    obtain rfl := Option.some.inj (asked.symm.trans isSame)
    cases settles with
    | refused _ _ error => exact absurd succeeds error
    | made other isOther _ after _ =>
      obtain rfl := Option.some.inj (asked.symm.trans isOther)
      rw [show (serve arrival store).store = change.apply store from after] at took
      exact (took_apply_iff asked accepted).mp took
  · intro names
    refine ⟨fun error => ?_, fun request parsed changes succeeds => ?_⟩
    · have unchanged := serve_store arrival store quoteFree
      rw [Arrival.changed, if_neg error] at unchanged
      exact unchanged
    · cases serve_settles arrival store quoteFree parsed changes with
      | refused _ _ error => exact absurd succeeds error
      | made change demand accepted after _ =>
        refine ⟨change, demand, ?_⟩
        rw [show (serve arrival store).store = change.apply store from after]
        exact (took_apply_iff demand accepted).mpr (names change demand accepted)

/-- A registration on the empty store is answered truthfully or not, as its identifier fits. -/
theorem truthful_sampleRegistration :
    Truthful sampleRegistration initDb ↔ ∀ change, sampleRegistration.demand = some change →
      change.Accepted sampleRegistration.around initDb → change.Names initDb :=
  truthful_iff sampleRegistration initDb quoteFree_sampleRegistration

/-- The update of a user who does not exist is answered with success. -/
theorem update_unknown_untruthful : ¬ Truthful (.calm (requestText cmdUpdate
    [utf8 "nobody", utf8 "1234", utf8 "Seoul", utf8 "Sample School"])) initDb := by
  intro truthful
  obtain ⟨change, asked, took⟩ := truthful.took ⟨cmdUpdate, { Operands.null with
    id := some (utf8 "nobody"), pw := some (utf8 "1234"), eduOffice := some (utf8 "Seoul"),
    schoolName := some (utf8 "Sample School") }⟩ (by decide) (by decide) (by decide)
  have demand : (Arrival.calm (requestText cmdUpdate
      [utf8 "nobody", utf8 "1234", utf8 "Seoul", utf8 "Sample School"])).demand =
      some (.update (utf8 "nobody") (utf8 "1234") ⟨utf8 "B10", utf8 "7010569"⟩) := by decide
  obtain rfl := Option.some.inj (demand.symm.trans asked)
  obtain ⟨row, stored, _⟩ := took
  cases stored

end SchoolMeals
