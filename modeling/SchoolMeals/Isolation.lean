/-
This file shows that requests about other users cannot be seen. Two stores agree
about some users when they hold the same rows and the same links of these users.
A call that concerns these users gets the same answer in both stores and leaves
them in agreement; a call that concerns only other users leaves a store in
agreement with itself. So in any run the requests about other users can be left
out, and every remaining request makes the same calls with the same answers, and
so sends the same replies.

What makes this work is that every statement of the request loop names its users
through its parameters, that the school lookup does not depend on the store and
that a link between two users is a link of both.
-/

import SchoolMeals.Interleaving
import SchoolMeals.Links
import SchoolMeals.Statements

namespace SchoolMeals

open CText Interaction Relational

/-! ### Agreement about some users -/

/-- The stores hold the same rows and the same links of these users, and the same meals. -/
structure Agree (users : Bytes → Prop) (first second : Store) : Prop where
  row : ∀ id, users id → userRow first id = userRow second id
  child : ∀ id, users id → ∀ parentId, isLinked first id parentId = isLinked second id parentId
  parent : ∀ id, users id → ∀ childId, isLinked first childId id = isLinked second childId id
  meals : first.tables .meals = second.tables .meals

section Agree

variable {users : Bytes → Prop} {first second third : Store}

theorem Agree.refl (users : Bytes → Prop) (store : Store) : Agree users store store :=
  ⟨fun _ _ => rfl, fun _ _ _ => rfl, fun _ _ _ => rfl, rfl⟩

theorem Agree.symm (agree : Agree users first second) : Agree users second first :=
  ⟨fun id named => (agree.row id named).symm, fun id named parentId =>
    (agree.child id named parentId).symm, fun id named childId =>
    (agree.parent id named childId).symm, agree.meals.symm⟩

theorem Agree.trans (agree : Agree users first second) (following : Agree users second third) :
    Agree users first third :=
  ⟨fun id named => (agree.row id named).trans (following.row id named),
    fun id named parentId =>
      (agree.child id named parentId).trans (following.child id named parentId),
    fun id named childId =>
      (agree.parent id named childId).trans (following.parent id named childId),
    agree.meals.trans following.meals⟩

/-- A user is referenced when he is the child or the parent of some link. -/
theorem isReferenced_iff (store : Store) (id : Bytes) :
    isReferenced store id = true ↔
      ∃ other, isLinked store id other = true ∨ isLinked store other id = true := by
  rw [isReferenced, List.any_eq_true]
  simp only [isLinked_iff, Bool.or_eq_true, decide_eq_true_eq]
  constructor
  · rintro ⟨row, member, refers⟩
    obtain ⟨childId, parentId, child, parent⟩ := (children_pairs store).1 row member
    rcases refers with isChild | isParent
    · exact ⟨parentId, Or.inl ⟨row, member, isChild, parent⟩⟩
    · exact ⟨childId, Or.inr ⟨row, member, child, isParent⟩⟩
  · rintro ⟨other, ⟨row, member, child, _⟩ | ⟨row, member, _, parent⟩⟩
    · exact ⟨row, member, Or.inl child⟩
    · exact ⟨row, member, Or.inr parent⟩

theorem Agree.referenced (agree : Agree users first second) {id : Bytes} (named : users id) :
    isReferenced first id = isReferenced second id := by
  rw [Bool.eq_iff_iff, isReferenced_iff, isReferenced_iff]
  simp only [agree.child id named, agree.parent id named]

end Agree

/-! ### What the changes do, in every store -/

section Changes

variable (store : Store)

theorem userRow_withUser_eq (user : User) (id : Bytes) :
    userRow (withUser store user) id =
      if id = user.id then some ((userRow store id).getD (rowOf user)) else userRow store id := by
  cases found : userRow store user.id with
  | none =>
    rw [userRow_withUser found]
    split
    · rename_i same
      rw [same, found]
      rfl
    · rfl
  | some row =>
    rw [withUser_of_taken (by simp [found])]
    split
    · rename_i same
      rw [same, found]
      rfl
    · rfl

theorem userRow_withoutUser_eq (id other : Bytes) :
    userRow (withoutUser store id) other =
      if other = id ∧ isReferenced store id = false then none else userRow store other := by
  cases referenced : isReferenced store id with
  | false =>
    rw [userRow_withoutUser referenced]
    simp
  | true =>
    rw [withoutUser_of_referenced referenced]
    simp

theorem isLinked_withLink_eq (childId parentId otherChild otherParent : Bytes) :
    isLinked (withLink store childId parentId) otherChild otherParent =
      (isLinked store otherChild otherParent ||
        (decide (otherChild = childId ∧ otherParent = parentId) &&
          (userRow store childId).isSome && (userRow store parentId).isSome)) := by
  by_cases possible : (userRow store childId).isSome ∧ (userRow store parentId).isSome ∧
      isLinked store childId parentId = false
  · rw [isLinked_withLink possible.1 possible.2.1 possible.2.2, possible.1, possible.2.1,
      Bool.and_true, Bool.and_true]
  · rw [withLink_of_refused possible]
    by_cases pair : otherChild = childId ∧ otherParent = parentId
    · obtain ⟨rfl, rfl⟩ := pair
      cases linked : isLinked store otherChild otherParent with
      | true => rfl
      | false =>
        simp only [linked, and_true, not_and] at possible
        cases child : (userRow store otherChild).isSome with
        | false => simp
        | true => simp [Bool.eq_false_iff.mpr (possible child)]
    · simp [pair]

@[simp] theorem isLinked_withUser (user : User) (childId parentId : Bytes) :
    isLinked (withUser store user) childId parentId = isLinked store childId parentId :=
  isLinked_of_children (Store.execute_tables store _ (by simp [insertUser, Statement.target])) _ _

@[simp] theorem isLinked_withUpdate (user : User) (childId parentId : Bytes) :
    isLinked (withUpdate store user) childId parentId = isLinked store childId parentId :=
  isLinked_of_children (Store.execute_tables store _ (by simp [Statement.target])) _ _

@[simp] theorem isLinked_withoutUser (id childId parentId : Bytes) :
    isLinked (withoutUser store id) childId parentId = isLinked store childId parentId :=
  isLinked_of_children (Store.execute_tables store _ (by simp [Statement.target])) _ _

@[simp] theorem userRow_withLink (childId parentId id : Bytes) :
    userRow (withLink store childId parentId) id = userRow store id :=
  userRow_of_users (Store.execute_tables store _ (by simp [Statement.target])) id

@[simp] theorem userRow_withoutLink (childId parentId id : Bytes) :
    userRow (withoutLink store childId parentId) id = userRow store id :=
  userRow_of_users (Store.execute_tables store _ (by simp [Statement.target])) id

/-- A statement about users or links leaves the meals alone. -/
theorem meals_execute {statement : Statement} (other : statement.target ≠ some .meals) :
    (store.execute statement).2.tables .meals = store.tables .meals :=
  Store.execute_tables store statement other

end Changes

/-! ### A change seen by some users -/

section Seen

variable {users : Bytes → Prop} {first second : Store}

theorem agree_withUser (agree : Agree users first second) (user : User) :
    Agree users (withUser first user) (withUser second user) where
  row id named := by rw [userRow_withUser_eq, userRow_withUser_eq, agree.row id named]
  child id named parentId := by simpa using agree.child id named parentId
  parent id named childId := by simpa using agree.parent id named childId
  meals := by
    rw [withUser, withUser, meals_execute _ (by simp [insertUser, Statement.target]),
      meals_execute _ (by simp [insertUser, Statement.target]), agree.meals]

theorem agree_withUpdate (agree : Agree users first second) (user : User) :
    Agree users (withUpdate first user) (withUpdate second user) where
  row id named := by rw [userRow_withUpdate, userRow_withUpdate, agree.row id named]
  child id named parentId := by simpa using agree.child id named parentId
  parent id named childId := by simpa using agree.parent id named childId
  meals := by
    rw [withUpdate, withUpdate, meals_execute _ (by simp [Statement.target]),
      meals_execute _ (by simp [Statement.target]), agree.meals]

theorem agree_withoutUser (agree : Agree users first second) {id : Bytes} (named : users id) :
    Agree users (withoutUser first id) (withoutUser second id) where
  row other otherNamed := by
    rw [userRow_withoutUser_eq, userRow_withoutUser_eq, agree.row other otherNamed,
      agree.referenced named]
  child other otherNamed parentId := by simpa using agree.child other otherNamed parentId
  parent other otherNamed childId := by simpa using agree.parent other otherNamed childId
  meals := by
    rw [withoutUser, withoutUser, meals_execute _ (by simp [Statement.target]),
      meals_execute _ (by simp [Statement.target]), agree.meals]

theorem agree_withLink (agree : Agree users first second) {childId parentId : Bytes}
    (child : users childId) (parent : users parentId) :
    Agree users (withLink first childId parentId) (withLink second childId parentId) where
  row id named := by simpa using agree.row id named
  child id named other := by
    rw [isLinked_withLink_eq, isLinked_withLink_eq, agree.child id named, agree.row childId child,
      agree.row parentId parent]
  parent id named other := by
    rw [isLinked_withLink_eq, isLinked_withLink_eq, agree.parent id named, agree.row childId child,
      agree.row parentId parent]
  meals := by
    rw [withLink, withLink, meals_execute _ (by simp [Statement.target]),
      meals_execute _ (by simp [Statement.target]), agree.meals]

theorem agree_withoutLink (agree : Agree users first second) (childId parentId : Bytes) :
    Agree users (withoutLink first childId parentId) (withoutLink second childId parentId) where
  row id named := by simpa using agree.row id named
  child id named other := by
    rw [isLinked_withoutLink, isLinked_withoutLink, agree.child id named]
  parent id named other := by
    rw [isLinked_withoutLink, isLinked_withoutLink, agree.parent id named]
  meals := by
    rw [withoutLink, withoutLink, meals_execute _ (by simp [Statement.target]),
      meals_execute _ (by simp [Statement.target]), agree.meals]

end Seen

/-! ### A change that these users do not see -/

section Unseen

variable {users : Bytes → Prop} (store : Store)

theorem unseen_withUser {user : User} (other : ¬ users user.id) :
    Agree users (withUser store user) store where
  row id named := by
    have different : id ≠ user.id := fun same => other (same ▸ named)
    rw [userRow_withUser_eq, if_neg different]
  child id _ parentId := isLinked_withUser store user id parentId
  parent id _ childId := isLinked_withUser store user childId id
  meals := meals_execute store (by simp [insertUser, Statement.target])

theorem unseen_withUpdate {user : User} (other : ¬ users user.id) :
    Agree users (withUpdate store user) store where
  row id named := by
    have different : id ≠ user.id := fun same => other (same ▸ named)
    rw [userRow_withUpdate]
    simp only [if_neg different, Option.map_id']
  child id _ parentId := isLinked_withUpdate store user id parentId
  parent id _ childId := isLinked_withUpdate store user childId id
  meals := meals_execute store (by simp [Statement.target])

theorem unseen_withoutUser {id : Bytes} (other : ¬ users id) :
    Agree users (withoutUser store id) store where
  row seen named := by
    have different : ¬ (seen = id ∧ isReferenced store id = false) :=
      fun both => other (both.1 ▸ named)
    rw [userRow_withoutUser_eq, if_neg different]
  child seen _ parentId := isLinked_withoutUser store id seen parentId
  parent seen _ childId := isLinked_withoutUser store id childId seen
  meals := meals_execute store (by simp [Statement.target])

theorem unseen_withLink {childId parentId : Bytes} (child : ¬ users childId)
    (parent : ¬ users parentId) : Agree users (withLink store childId parentId) store where
  row id _ := userRow_withLink store childId parentId id
  child id named other := by
    have different : ¬ (id = childId ∧ other = parentId) := fun pair => child (pair.1 ▸ named)
    rw [isLinked_withLink_eq, decide_eq_false different, Bool.false_and, Bool.false_and,
      Bool.or_false]
  parent id named other := by
    have different : ¬ (other = childId ∧ id = parentId) := fun pair => parent (pair.2 ▸ named)
    rw [isLinked_withLink_eq, decide_eq_false different, Bool.false_and, Bool.false_and,
      Bool.or_false]
  meals := meals_execute store (by simp [Statement.target])

theorem unseen_withoutLink {childId parentId : Bytes} (child : ¬ users childId)
    (parent : ¬ users parentId) : Agree users (withoutLink store childId parentId) store where
  row id _ := userRow_withoutLink store childId parentId id
  child id named other := by
    have different : ¬ (id = childId ∧ other = parentId) := fun pair => child (pair.1 ▸ named)
    rw [isLinked_withoutLink, decide_eq_false different, Bool.not_false, Bool.and_true]
  parent id named other := by
    have different : ¬ (other = childId ∧ id = parentId) := fun pair => parent (pair.2 ▸ named)
    rw [isLinked_withoutLink, decide_eq_false different, Bool.not_false, Bool.and_true]
  meals := meals_execute store (by simp [Statement.target])

end Unseen

/-! ### The answers to queries -/

section Queries

variable {users : Bytes → Prop} {first second : Store}

/-- The rows of one user, at most one. -/
theorem filter_users (store : Store) (id : Bytes) :
    (store.tables .users).filter (passes [(.id, id)]) = (userRow store id).toList := by
  rw [passes_id]
  cases found : userRow store id with
  | some row => exact rows_of_userRow found
  | none =>
    refine List.filter_eq_nil_iff.mpr fun row member => ?_
    simpa using (userRow_eq_none_iff store id).mp found row member

/-- The rows of one link, at most one. -/
theorem length_filter_children (store : Store) (childId parentId : Bytes) :
    ((store.tables .children).filter
        (passes [(.childId, childId), (.parentId, parentId)])).length =
      (isLinked store childId parentId).toNat := by
  have only : ∀ row ∈ (store.tables .children).filter
      (passes [(.childId, childId), (.parentId, parentId)]),
      (row .childId, row .parentId) = (some childId, some parentId) := by
    intro row member
    simpa [passes] using (List.mem_filter.mp member).2
  have sublist : ((store.tables .children).filter
      (passes [(.childId, childId), (.parentId, parentId)])).Sublist (store.tables .children) :=
    List.filter_sublist
  have nodup := (sublist.map _).nodup (children_pairs store).2
  rw [List.map_congr_left only, List.map_const', List.nodup_replicate] at nodup
  cases linked : isLinked store childId parentId with
  | true =>
    obtain ⟨row, member, child, parent⟩ := (isLinked_iff store childId parentId).mp linked
    have found : 0 < ((store.tables .children).filter
        (passes [(.childId, childId), (.parentId, parentId)])).length :=
      List.length_pos_of_mem (List.mem_filter.mpr ⟨member, by simp [passes, child, parent]⟩)
    exact le_antisymm nodup found
  | false =>
    rw [Bool.toNat_false, List.length_eq_zero_iff, List.filter_eq_nil_iff]
    intro row member
    simpa [passes, isLinked] using List.any_eq_false.mp linked row member

theorem execute_select (store : Store) (columns : List Column) (table : Table)
    (filter : List (Column × Bytes)) : (store.execute (.select columns table filter)) =
      (if (Statement.select columns table filter).prepares schema then
        .rows (((store.tables table).filter (passes filter)).map fun row => columns.map row)
        else .unprepared, store) := by
  unfold Store.execute
  split <;> rfl

/-- A query about users the stores agree about has the same answer in both. -/
theorem execute_of_queries (agree : Agree users first second) {statement : Statement}
    (queries : Queries users (.sqlite statement)) :
    (first.execute statement).1 = (second.execute statement).1 := by
  cases queries with
  | row columns id named =>
    rw [execute_select, execute_select, filter_users, filter_users, agree.row id named]
  | password id pw named =>
    have both : passes [(Column.id, id), (Column.pw, pw)] =
        fun row : Row => passes [(Column.pw, pw)] row && passes [(Column.id, id)] row := by
      funext row
      simp [passes, Bool.and_comm]
    rw [execute_select, execute_select, both, ← List.filter_filter, ← List.filter_filter,
      filter_users, filter_users, agree.row id named]
  | children parentId => rw [execute_select, execute_select]; rfl
  | link childId parentId child parent =>
    rw [execute_select, execute_select]
    simp only [List.map_nil, List.map_const', length_filter_children, agree.child childId child]
  | meal filter => rw [execute_select, execute_select, agree.meals]

end Queries

/-! ### One call -/

section Respond

variable {users : Bytes → Prop} {around : Surroundings} {fault : Option Fault} {request : Call}
  {first second : Store}

theorem respond_query {around : Surroundings} (queries : Queries users request) (store : Store) :
    (respond around fault request store).2 = store := by
  cases queries with
  | row | password | children | link | meal =>
    cases fault with
    | none => exact congrArg Prod.snd (execute_select store _ _ _)
    | some kind => cases kind <;> rfl
  | resolveSchoolCode | getMealFromNeis | getMealsPeriodFromNeis | sendResponse => rfl

theorem respond_sqliteExec (around : Surroundings) (text : Bytes) (store : Store) :
    respond around none (.sqliteExec text) store = execText around store text := rfl

/-- Without a fault a statement is answered alike and leaves the stores in agreement. -/
theorem execute_of_agree (agree : Agree users first second) {statement : Statement}
    (concerns : Concerns users (.sqlite statement)) :
    (first.execute statement).1 = (second.execute statement).1 ∧
      Agree users (first.execute statement).2 (second.execute statement).2 := by
  cases concerns with
  | query request queries =>
    have same : ∀ store : Store, (store.execute statement).2 = store :=
      @respond_query _ none _ (.calm ⟨[], []⟩) queries
    rw [same, same]
    exact ⟨execute_of_queries agree queries, agree⟩
  | updateUser user named =>
    have completes : ∀ store : Store,
        (store.execute (.update .users (updatedColumns user) [(.id, user.id)])).1 = .done := by
      intro store
      show (store.commit (updateRows _ _ _ _)).1 = _
      rw [Store.commit_fst, if_pos (holds_updateUser store user)]
    exact ⟨(completes first).trans (completes second).symm, agree_withUpdate agree user⟩
  | deleteUser id named =>
    rw [execute_deleteUser, execute_deleteUser, agree.referenced named]
    exact ⟨rfl, agree_withoutUser agree named⟩
  | insertLink childId parentId child parent =>
    have completes : ∀ store : Store,
        (store.execute (.insert .children [(.childId, childId), (.parentId, parentId)])).1 =
          if (userRow store childId).isSome ∧ (userRow store parentId).isSome ∧
            isLinked store childId parentId = false then .done else .failed := by
      intro store
      show (store.commit (insertRow store.tables .children (linkRow childId parentId))).1 = _
      simp only [Store.commit_fst, holds_insertLink_iff]
    refine ⟨?_, agree_withLink agree child parent⟩
    rw [completes, completes, agree.row childId child, agree.row parentId parent,
      agree.child childId child]
  | deleteLink childId parentId child parent =>
    have completes : ∀ store : Store,
        (store.execute (.delete .children [(.childId, childId), (.parentId, parentId)])).1 =
          .done := by
      intro store
      show (store.commit (deleteRows store.tables .children _)).1 = _
      rw [Store.commit_fst, if_pos (holds_deleteLink store _)]
    exact ⟨(completes first).trans (completes second).symm,
      agree_withoutLink agree childId parentId⟩

/-- A call about users the stores agree about is answered alike and leaves them in agreement. -/
theorem respond_of_agree (agree : Agree users first second) (concerns : Concerns users request) :
    (respond around fault request first).1 = (respond around fault request second).1 ∧
      Agree users (respond around fault request first).2
        (respond around fault request second).2 := by
  cases request with
  | sqlite statement =>
    cases fault with
    | none => exact execute_of_agree agree concerns
    | some kind => cases kind <;> exact ⟨rfl, agree⟩
  | sqliteExec text =>
    cases fault with
    | some kind => exact ⟨rfl, agree⟩
    | none =>
      cases concerns with
      | query _ queries => cases queries
      | insertUser user fits quoteFree _ named =>
        rw [respond_sqliteExec, respond_sqliteExec, execText_addUser around fits quoteFree,
          execText_addUser around fits quoteFree, agree.row user.id named]
        exact ⟨rfl, agree_withUser agree user⟩
  | resolveSchoolCode schoolName => exact ⟨rfl, agree⟩
  | getMealFromNeis eduOffice schoolCode date => exact ⟨rfl, agree⟩
  | getMealsPeriodFromNeis eduOffice schoolCode startDate endDate => exact ⟨rfl, agree⟩
  | sendResponse reply => exact ⟨rfl, agree⟩

/-- A call about other users is not seen. -/
theorem respond_unseen (concerns : Concerns (fun id => ¬ users id) request) (store : Store) :
    Agree users (respond around fault request store).2 store := by
  cases fault with
  | some kind => cases request <;> cases kind <;> exact .refl users store
  | none =>
    cases concerns with
    | query request queries =>
      rw [respond_query queries]
      exact .refl users store
    | insertUser user fits quoteFree _ other =>
      rw [respond_sqliteExec, execText_addUser around fits quoteFree]
      exact unseen_withUser store other
    | updateUser user other => exact unseen_withUpdate store other
    | deleteUser id other => exact unseen_withoutUser store other
    | insertLink childId parentId child parent => exact unseen_withLink store child parent
    | deleteLink childId parentId child parent => exact unseen_withoutLink store child parent

end Respond

/-! ### Requests side by side -/

section Runs

variable {Index : Type} [DecidableEq Index] (arrivals : Index → Arrival)

/-- Requests about other users cannot be seen: what is left of a run without them is a run of the
remaining requests, in which each makes the same calls with the same answers. -/
theorem isolated_of_runs (quoteFree : ∀ index, (arrivals index).QuoteFree) (users : Bytes → Prop)
    (stays : Index → Bool)
    (own : ∀ index, stays index = true → ∀ name ∈ (arrivals index).users, users name)
    (others : ∀ index, stays index = false → ∀ name ∈ (arrivals index).users, ¬ users name)
    {store alike : Store} (agree : Agree users store alike)
    {events : List (Event Index Call Call.Answer)}
    {last : Family Index Call Call.Answer Unit Store}
    (runs : Runs (answers arrivals) (requests arrivals store) events last) :
    ∃ left, Runs (answers arrivals) (requests arrivals alike) (events.filter (stays ·.index)) left ∧
      Agree users last.shared left.shared ∧
      ∀ index, stays index = true → left.programs index = last.programs index ∧
        eventsOf index (events.filter (stays ·.index)) = eventsOf index events := by
  have looks : ∀ index, stays index = true → ∀ request, Concerns users request →
      ∀ before given after other, answers arrivals index request before given after →
        Agree users before other → ∃ otherAfter,
          answers arrivals index request other given otherAfter ∧ Agree users after otherAfter := by
    rintro index stay request concerns before given after other ⟨fault, responded⟩ agrees
    obtain ⟨alike, still⟩ := @respond_of_agree _ (arrivals index).around fault _ _ _ agrees concerns
    rw [responded] at alike still
    exact ⟨(respond (arrivals index).around fault request other).2,
      ⟨fault, Prod.ext alike.symm rfl⟩, still⟩
  have unseen : ∀ index, stays index = false → ∀ request, Concerns (fun id => ¬ users id) request →
      ∀ before given after other, answers arrivals index request before given after →
        Agree users before other → Agree users after other := by
    rintro index leaves request concerns before given after other ⟨fault, responded⟩ agrees
    have kept := @respond_unseen _ (arrivals index).around fault _ concerns before
    rw [responded] at kept
    exact kept.trans agrees
  obtain ⟨programs, shared, shorter, still, same, _⟩ := runs.erase stays
    (fun index request before given after ⟨fault, responded⟩ => possible_of_respond responded)
    looks unseen
    (fun index stay => concerns_handleClient (own index stay) (quoteFree index))
    (fun index leaves => concerns_handleClient (others index leaves) (quoteFree index)) agree
  exact ⟨⟨programs, shared⟩, shorter, still, fun index stay =>
    ⟨(same index stay).1, eventsOf_filter events stays stay⟩⟩

end Runs

/-! ### Two neighbours -/

/-- A registration and another user's deletion. -/
def neighbours : Bool → Arrival
  | true => sampleRegistration
  | false => .calm (requestText cmdDelete [utf8 "user2"])

theorem users_neighbours : (neighbours true).users = [utf8 "user1", utf8 "user1"] ∧
    (neighbours false).users = [utf8 "user2", utf8 "user2"] := by
  constructor <;> decide

theorem quoteFree_neighbours (index : Bool) : (neighbours index).QuoteFree := by
  cases index with
  | true => exact quoteFree_sampleRegistration
  | false =>
    intro request found isRegister
    have parsed : parseRequest (neighbours false).received =
        some ⟨cmdDelete, { Operands.null with id := some (utf8 "user2") }⟩ := by decide
    obtain rfl := Option.some.inj (parsed.symm.trans found)
    exact absurd isRegister (by decide)

/-- The deletion falls between the calls of the registration and can be left out. -/
def interrupted : List (Event Bool Call Call.Answer) × Family Bool Call Call.Answer Unit Store :=
  schedule (fun index => respond (neighbours index).around none)
    [true, false, true, false, true, true] (requests neighbours initDb)

theorem isolated_interrupted : ∃ left,
    Runs (answers neighbours) (requests neighbours initDb) (interrupted.1.filter (·.index)) left ∧
      Agree (· = utf8 "user1") interrupted.2.shared left.shared ∧
      ∀ index, index = true → left.programs index = interrupted.2.programs index ∧
        eventsOf index (interrupted.1.filter (·.index)) = eventsOf index interrupted.1 := by
  refine isolated_of_runs neighbours quoteFree_neighbours (· = utf8 "user1") (fun index => index)
    ?_ ?_ (.refl _ initDb) (runs_schedule _ (fun _ _ _ => ⟨none, rfl⟩) _ _)
  · rintro index rfl name member
    rw [users_neighbours.1] at member
    simpa using member
  · rintro index rfl name member same
    rw [users_neighbours.2, same] at member
    revert member
    decide

end SchoolMeals
