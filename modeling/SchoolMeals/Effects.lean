/-
This file says once what each function of `db_handler.c` does to the store, as a
run. The queries are stated over the row a user has, which the primary key makes
unique; the changes say exactly when SQLite accepts them. Every later file reads
these lemmas and no definition of `db_handler.c`.
-/

import SchoolMeals.Execution

namespace SchoolMeals

open CText Interaction Relational

/-! ### What a store holds -/

/-- The row of a user. -/
def userRow (store : Store) (id : Bytes) : Option Row :=
  (store.tables .users).find? fun row => row .id = some id

/-- The child is linked to the parent. -/
def isLinked (store : Store) (childId parentId : Bytes) : Bool :=
  (store.tables .children).any fun row =>
    row .childId = some childId && row .parentId = some parentId

/-- The user occurs in some link. -/
def isReferenced (store : Store) (id : Bytes) : Bool :=
  (store.tables .children).any fun row => row .childId = some id || row .parentId = some id

/-- Two rows of one user are the same row. -/
theorem users_unique (store : Store) {first second : Row} {id : Bytes}
    (firstMember : first ∈ store.tables .users) (secondMember : second ∈ store.tables .users)
    (firstKey : first .id = some id) (secondKey : second .id = some id) : first = second := by
  have unique := store.holds.unique .users
  rw [Relational.Schema.keysOf, List.filter_map] at unique
  have named : ∀ row : Row, row .id = some id → schema.keyOf .users row = [some id] := by
    intro row key
    show [row .id] = [some id]
    rw [key]
  have kept : ∀ row ∈ store.tables .users, row .id = some id →
      row ∈ (store.tables .users).filter
        ((fun key : List (Option Bytes) => key.all Option.isSome) ∘ schema.keyOf .users) := by
    intro row member key
    rw [List.mem_filter, Function.comp_apply, named row key]
    exact ⟨member, rfl⟩
  exact List.inj_on_of_nodup_map unique (kept first firstMember firstKey)
    (kept second secondMember secondKey)
    ((named first firstKey).trans (named second secondKey).symm)

theorem userRow_eq_some_iff (store : Store) (id : Bytes) (row : Row) :
    userRow store id = some row ↔ row ∈ store.tables .users ∧ row .id = some id := by
  constructor
  · intro found
    exact ⟨List.mem_of_find?_eq_some found, by simpa using List.find?_some found⟩
  · rintro ⟨member, key⟩
    have exists_ : (userRow store id).isSome := by
      rw [userRow, List.find?_isSome]
      exact ⟨row, member, by simpa using key⟩
    obtain ⟨other, found⟩ := Option.isSome_iff_exists.mp exists_
    have otherKey : other .id = some id := by simpa using List.find?_some found
    rw [found, users_unique store (List.mem_of_find?_eq_some found) member otherKey key]

theorem userRow_eq_none_iff (store : Store) (id : Bytes) :
    userRow store id = none ↔ ∀ row ∈ store.tables .users, row .id ≠ some id := by
  rw [userRow, List.find?_eq_none]
  simp

theorem isLinked_iff (store : Store) (childId parentId : Bytes) :
    isLinked store childId parentId ↔ ∃ row ∈ store.tables .children,
      row .childId = some childId ∧ row .parentId = some parentId := by
  simp [isLinked]

/-- Linked users exist: the foreign keys hold in every store. -/
theorem exists_of_isLinked (store : Store) {childId parentId : Bytes}
    (linked : isLinked store childId parentId) :
    (userRow store childId).isSome ∧ (userRow store parentId).isSome := by
  obtain ⟨row, member, child, parent⟩ := (isLinked_iff store childId parentId).mp linked
  have reference : ∀ key ∈ schema.foreignKeys .children, ∀ value, row key.column = some value →
      ∃ target ∈ store.tables key.references, target key.target = some value :=
    fun key keyMember value => store.holds.referenced .children key keyMember row member value
  obtain ⟨childRow, childMember, childKey⟩ :=
    reference ⟨.childId, .users, .id⟩ (by simp [schema]) childId child
  obtain ⟨parentRow, parentMember, parentKey⟩ :=
    reference ⟨.parentId, .users, .id⟩ (by simp [schema]) parentId parent
  rw [(userRow_eq_some_iff store childId childRow).mpr ⟨childMember, childKey⟩,
    (userRow_eq_some_iff store parentId parentRow).mpr ⟨parentMember, parentKey⟩]
  exact ⟨rfl, rfl⟩

/-! ### Queries -/

section Queries

variable (around : Surroundings) (world : World)

theorem firstRow_rows_map (rows : List Row) (columns : List Column) :
    (Result.rows (rows.map fun row => columns.map row)).firstRow =
      rows.head?.map fun row => columns.map row := by
  cases rows <;> rfl

/-- A query without a fault reports the first row that passes its filter. -/
theorem firstRow_select (columns : List Column) (table : Table) (filter : List (Column × Bytes))
    (prepares : (Statement.select columns table filter).prepares schema = true) (store : Store) :
    (store.execute (.select columns table filter)).1.firstRow =
        ((store.tables table).find? (passes filter)).map (fun row => columns.map row) ∧
      (store.execute (.select columns table filter)).2 = store := by
  unfold Store.execute
  rw [if_pos prepares, ← List.head?_filter]
  exact ⟨firstRow_rows_map _ _, rfl⟩

theorem passes_id (id : Bytes) : passes [(Column.id, id)] = fun row : Row =>
    decide (row .id = some id) := by
  funext row
  simp [passes]

/-- The two outcomes of a query: a fault, or its first row. -/
theorem run_select (columns : List Column) (table : Table) (filter : List (Column × Bytes))
    (prepares : (Statement.select columns table filter).prepares schema = true) :
    ∃ result : StepResult,
      Program.run (answer around) (sqlite (.select columns table filter)) world =
        (some result, world.step world.store) ∧
      result.firstRow = if world.quiet around then
        ((world.store.tables table).find? (passes filter)).map (fun row => columns.map row)
        else none := by
  cases quiet : world.quiet around with
  | true =>
    obtain ⟨first, same⟩ := firstRow_select columns table filter prepares world.store
    refine ⟨(world.store.execute (.select columns table filter)).1, ?_, by rw [first]; rfl⟩
    rw [run_sqlite_quiet around world _ quiet, same]
  | false =>
    obtain ⟨result, kind, run⟩ := run_sqlite_fault around world (.select columns table filter) quiet
    refine ⟨result, run, ?_⟩
    rcases kind with rfl | rfl <;> rfl

theorem run_isUserExists (id : Bytes) :
    Program.run (answer around) (isUserExists id) world =
      (some (world.quiet around && (userRow world.store id).isSome), world.step world.store) := by
  obtain ⟨result, run, first⟩ := run_select around world [] .users [(.id, id)] rfl
  rw [isUserExists, Program.run_bind_of_some _ _ run, Program.pure_eq, Program.run_finished, first,
    passes_id, ← userRow]
  cases world.quiet around <;> simp

theorem run_verifyUser (id pw : Bytes) :
    Program.run (answer around) (verifyUser id pw) world =
      (some (world.quiet around && (userRow world.store id).any (· .pw = some pw)),
        world.step world.store) := by
  obtain ⟨result, run, first⟩ := run_select around world [] .users [(.id, id), (.pw, pw)] rfl
  rw [verifyUser, Program.run_bind_of_some _ _ run, Program.pure_eq, Program.run_finished, first]
  have same : ((world.store.tables .users).find? (passes [(.id, id), (.pw, pw)])).isSome =
      (userRow world.store id).any (· .pw = some pw) := by
    rw [Bool.eq_iff_iff, List.find?_isSome, Option.any_eq_true]
    simp only [passes, List.all_cons, List.all_nil, Bool.and_true, Bool.and_eq_true,
      decide_eq_true_eq, userRow_eq_some_iff]
    constructor
    · rintro ⟨row, member, key, password⟩
      exact ⟨row, ⟨member, key⟩, password⟩
    · rintro ⟨row, ⟨member, key⟩, password⟩
      exact ⟨row, member, key, password⟩
  cases world.quiet around <;> simp [same]

theorem run_isChildRegistered (childId parentId : Bytes) :
    Program.run (answer around) (isChildRegistered childId parentId) world =
      (some (world.quiet around && isLinked world.store childId parentId),
        world.step world.store) := by
  obtain ⟨result, run, first⟩ :=
    run_select around world [] .children [(.childId, childId), (.parentId, parentId)] rfl
  rw [isChildRegistered, Program.run_bind_of_some _ _ run, Program.pure_eq, Program.run_finished,
    first]
  have same : ((world.store.tables .children).find?
      (passes [(.childId, childId), (.parentId, parentId)])).isSome =
      isLinked world.store childId parentId := by
    rw [Bool.eq_iff_iff, List.find?_isSome, isLinked_iff]
    simp [passes]
  cases world.quiet around <;> simp [same]

/-- The columns `get_user` copies are not null. -/
def isReadable (row : Row) : Bool := (row .eduOffice).isSome && (row .schoolName).isSome

/-- The record `get_user` fills from a row. -/
def copiedUser (beyond : User) (row : Row) : User where
  id := strncpy ((row .id).getD []) (maxIdLen - 1) beyond.id
  pw := strncpy ((row .pw).getD []) (maxPwLen - 1) beyond.pw
  name := beyond.name
  role := strncpy ((row .role).getD []) (maxRoleLen - 1) beyond.role
  eduOffice := strncpy ((row .eduOffice).getD []) (maxEduOfficeLen - 1) beyond.eduOffice
  schoolName := strncpy ((row .schoolName).getD []) (maxSchoolNameLen - 1) beyond.schoolName

/-- `get_user` finds the row, unless there is a fault, and is undefined on a null column. The
identifier, password and role of a row in the store are never null. -/
theorem run_getUser (beyond : User) (id : Bytes) :
    Program.run (answer around) (getUser beyond id) world =
      match if world.quiet around then userRow world.store id else none with
      | none => (some none, world.step world.store)
      | some row =>
        (if isReadable row then some (some (copiedUser beyond row)) else none,
          world.step world.store) := by
  obtain ⟨result, run, first⟩ :=
    run_select around world [.id, .pw, .role, .eduOffice, .schoolName] .users [(.id, id)] rfl
  rw [getUser, Program.run_bind_of_some _ _ run]
  rw [passes_id, ← userRow] at first
  cases quiet : world.quiet around with
  | false =>
    rw [quiet] at first
    rw [show result.firstRow = none from first]
    rfl
  | true =>
    rw [quiet] at first
    cases found : userRow world.store id with
    | none =>
      rw [found] at first
      rw [show result.firstRow = none from first]
      rfl
    | some row =>
      obtain ⟨member, key⟩ := (userRow_eq_some_iff world.store id row).mp found
      have password := world.store.holds.present .users row member .pw (by simp [schema])
      have role := world.store.holds.present .users row member .role (by simp [schema])
      obtain ⟨pw, pwEqual⟩ := Option.ne_none_iff_exists'.mp password
      obtain ⟨roleText, roleEqual⟩ := Option.ne_none_iff_exists'.mp role
      rw [found] at first
      rw [show result.firstRow = some [row .id, row .pw, row .role, row .eduOffice,
        row .schoolName] from first]
      cases office : row .eduOffice <;> cases school : row .schoolName <;>
        simp [key, pwEqual, roleEqual, office, school, columnText, isReadable, copiedUser]

theorem run_getUser_of_none {beyond : User} {id : Bytes}
    (missing : (if world.quiet around then userRow world.store id else none) = none) :
    Program.run (answer around) (getUser beyond id) world =
      (some none, world.step world.store) := by
  rw [run_getUser, missing]

theorem run_getUser_of_readable {beyond : User} {id : Bytes} {row : Row}
    (found : (if world.quiet around then userRow world.store id else none) = some row)
    (readable : isReadable row = true) :
    Program.run (answer around) (getUser beyond id) world =
      (some (some (copiedUser beyond row)), world.step world.store) := by
  rw [run_getUser, found]
  show (if isReadable row = true then _ else _, _) = _
  rw [if_pos readable]

theorem run_getUser_of_unreadable {beyond : User} {id : Bytes} {row : Row}
    (found : (if world.quiet around then userRow world.store id else none) = some row)
    (unreadable : isReadable row = false) :
    Program.run (answer around) (getUser beyond id) world = (none, world.step world.store) := by
  rw [run_getUser, found]
  show (if isReadable row = true then _ else _, _) = _
  rw [unreadable, if_neg Bool.false_ne_true]

/-- The text that the table of meals holds for a school on a day. -/
def cachedMeal (store : Store) (date eduOffice schoolName : Bytes) : Option Bytes :=
  ((store.tables .meals).find? (passes
    [(.date, date), (.eduOffice, eduOffice), (.schoolName, schoolName)])).bind (· .meal)

/-- `get_meal` always answers: a meal row has no null column. -/
theorem run_getMeal (date eduOffice schoolName : Bytes) :
    Program.run (answer around) (getMeal date eduOffice schoolName) world =
      (some (if world.quiet around then (cachedMeal world.store date eduOffice schoolName).map
        (strncpy · (maxMealLen - 1) []) else none), world.step world.store) := by
  obtain ⟨result, run, first⟩ := run_select around world [.meal] .meals
    [(.date, date), (.eduOffice, eduOffice), (.schoolName, schoolName)] rfl
  rw [getMeal, Program.run_bind_of_some _ _ run, cachedMeal]
  cases quiet : world.quiet around with
  | false =>
    rw [quiet] at first
    rw [show result.firstRow = none from first]
    rfl
  | true =>
    rw [quiet] at first
    cases found : (world.store.tables .meals).find? (passes
        [(.date, date), (.eduOffice, eduOffice), (.schoolName, schoolName)]) with
    | none =>
      rw [found] at first
      rw [show result.firstRow = none from first]
      rfl
    | some row =>
      have given := world.store.holds.present .meals row (List.mem_of_find?_eq_some found) .meal
        (by simp [schema])
      obtain ⟨text, textEqual⟩ := Option.ne_none_iff_exists'.mp given
      rw [found] at first
      rw [show result.firstRow = some [row .meal] from first]
      simp [textEqual, columnText]

/-- `get_children_db` names a column its table lacks, so it fails whatever the store holds. -/
theorem run_getChildrenDb (array : Nat → Child) (parentId : Bytes) :
    Program.run (answer around) (getChildrenDb array parentId) world =
      (some none, world.step world.store) := by
  rw [getChildrenDb, Program.run_bind_of_some _ _ (run_sqlite around world _)]
  cases around.sqliteFault world.calls with
  | none => rfl
  | some fault => cases fault <;> rfl

end Queries

/-! ### Changes -/

/-- The row `add_user` inserts; the name is left null. -/
def rowOf (user : User) : Row :=
  assign (fun _ => none) [(.id, user.id), (.pw, user.pw), (.role, user.role),
    (.eduOffice, user.eduOffice), (.schoolName, user.schoolName)]

/-- The columns `update_user` sets. -/
def updatedColumns (user : User) : List (Column × Bytes) :=
  [(.pw, user.pw), (.eduOffice, user.eduOffice), (.schoolName, user.schoolName)]

/-- The row of a link. -/
def linkRow (childId parentId : Bytes) : Row :=
  assign (fun _ => none) [(.childId, childId), (.parentId, parentId)]

section Changes

variable (store : Store)

/-- A user can be inserted exactly when the identifier is new. -/
theorem holds_insertUser_iff (user : User) :
    schema.Holds (insertRow store.tables .users (rowOf user)) ↔ userRow store user.id = none := by
  rw [holds_insertRow_iff store.holds, userRow_eq_none_iff]
  constructor
  · rintro ⟨keyNew, _, _⟩ row member key
    refine keyNew (List.mem_filter.mpr ⟨List.mem_map.mpr ⟨row, member, ?_⟩, rfl⟩)
    show [row .id] = [some user.id]
    rw [key]
  · intro fresh
    refine ⟨fun member => ?_, fun column member => ?_,
      fun key member => absurd member List.not_mem_nil⟩
    · obtain ⟨row, rowMember, key⟩ := List.mem_map.mp (List.mem_filter.mp member).1
      exact fresh row rowMember (List.cons.inj key).1
    · rcases List.mem_pair.mp member with rfl | rfl <;> exact Option.some_ne_none _

/-- A user can be deleted exactly when no link refers to him. -/
theorem holds_deleteUser_iff (id : Bytes) :
    schema.Holds (deleteRows store.tables .users [(.id, id)]) ↔ isReferenced store id = false := by
  have children : deleteRows store.tables .users [(Column.id, id)] .children =
      store.tables .children := Function.update_of_ne (by decide) _ _
  have stays : ∀ value : Bytes, value ≠ id →
      (∃ target ∈ store.tables .users, target .id = some value) →
      ∃ target ∈ store.tables .users, ¬ passes [(Column.id, id)] target ∧
        target .id = some value := by
    rintro value different ⟨target, member, key⟩
    refine ⟨target, member, ?_, key⟩
    simpa [passes_id, key] using different
  rw [holds_deleteRows_iff store.holds]
  constructor
  · intro covered
    rw [← Bool.not_eq_true, isReferenced, List.any_eq_true]
    rintro ⟨row, member, refers⟩
    simp only [Bool.or_eq_true, decide_eq_true_eq] at refers
    have gone : ∀ key ∈ schema.foreignKeys .children, key.references = .users →
        row key.column = some id → key.target = .id → False := by
      intro key keyMember references refersKey target
      obtain ⟨found, _, kept, keyEqual⟩ :=
        covered .children key keyMember references row (by rw [children]; exact member) id refersKey
      rw [target] at keyEqual
      simp [passes_id, keyEqual] at kept
    rcases refers with refersChild | refersParent
    · exact gone ⟨.childId, .users, .id⟩ (by simp [schema]) rfl refersChild rfl
    · exact gone ⟨.parentId, .users, .id⟩ (by simp [schema]) rfl refersParent rfl
  · intro unreferenced other key keyMember references row member value refers
    cases other with
    | users => exact absurd keyMember List.not_mem_nil
    | meals => exact absurd keyMember List.not_mem_nil
    | children =>
      rw [children] at member
      have existing := store.holds.referenced .children key keyMember row member value refers
      have free := List.any_eq_false.mp unreferenced row member
      simp only [Bool.or_eq_true, decide_eq_true_eq, not_or] at free
      rcases List.mem_pair.mp keyMember with rfl | rfl
      · exact stays value (fun same => free.1 (same ▸ refers)) existing
      · exact stays value (fun same => free.2 (same ▸ refers)) existing

/-- An update of a user is always accepted: it sets no key and no referenced column. -/
theorem holds_updateUser (user : User) :
    schema.Holds (updateRows store.tables .users (updatedColumns user) [(.id, user.id)]) := by
  refine holds_updateRows store.holds .users _ _ (by simp [schema, updatedColumns])
    (fun key member => absurd member List.not_mem_nil) fun other key member _ => ?_
  cases other with
  | users => exact absurd member List.not_mem_nil
  | meals => exact absurd member List.not_mem_nil
  | children => rcases List.mem_pair.mp member with rfl | rfl <;> simp [updatedColumns]

/-- A link can be inserted exactly when both users exist and it is new. -/
theorem holds_insertLink_iff (childId parentId : Bytes) :
    schema.Holds (insertRow store.tables .children (linkRow childId parentId)) ↔
      (userRow store childId).isSome ∧ (userRow store parentId).isSome ∧
        isLinked store childId parentId = false := by
  have users : insertRow store.tables .children (linkRow childId parentId) .users =
      store.tables .users := Function.update_of_ne (by decide) _ _
  have found : ∀ value : Bytes, (∃ target ∈ store.tables .users, target .id = some value) ↔
      (userRow store value).isSome := by
    intro value
    simp [Option.isSome_iff_exists, userRow_eq_some_iff]
  rw [holds_insertRow_iff store.holds]
  constructor
  · rintro ⟨keyNew, _, referenced⟩
    have child := referenced ⟨.childId, .users, .id⟩ (by simp [schema]) childId rfl
    have parent := referenced ⟨.parentId, .users, .id⟩ (by simp [schema]) parentId rfl
    rw [users] at child parent
    refine ⟨(found childId).mp child, (found parentId).mp parent, ?_⟩
    rw [← Bool.not_eq_true, isLinked_iff]
    rintro ⟨row, member, child, parent⟩
    refine keyNew (List.mem_filter.mpr ⟨List.mem_map.mpr ⟨row, member, ?_⟩, rfl⟩)
    show [row .childId, row .parentId] = [some childId, some parentId]
    rw [child, parent]
  · rintro ⟨child, parent, unlinked⟩
    refine ⟨fun member => ?_, fun column member => ?_, fun key member value refers => ?_⟩
    · obtain ⟨row, rowMember, key⟩ := List.mem_map.mp (List.mem_filter.mp member).1
      have pair : row .childId = some childId ∧ row .parentId = some parentId :=
        ⟨(List.cons.inj key).1, (List.cons.inj (List.cons.inj key).2).1⟩
      exact Bool.false_ne_true (unlinked.symm.trans
        ((isLinked_iff store childId parentId).mpr ⟨row, rowMember, pair⟩))
    · rcases List.mem_pair.mp member with rfl | rfl <;> exact Option.some_ne_none _
    · rcases List.mem_pair.mp member with rfl | rfl
      · obtain rfl : childId = value := Option.some.inj refers
        rw [users]
        exact (found childId).mpr child
      · obtain rfl : parentId = value := Option.some.inj refers
        rw [users]
        exact (found parentId).mpr parent

/-- The removal of a link is always accepted: nothing refers to links. -/
theorem holds_deleteLink (filter : List (Column × Bytes)) :
    schema.Holds (deleteRows store.tables .children filter) := by
  rw [holds_deleteRows_iff store.holds]
  intro other key member references
  cases other with
  | users => exact absurd member List.not_mem_nil
  | meals => exact absurd member List.not_mem_nil
  | children =>
    rcases List.mem_pair.mp member with rfl | rfl <;> exact absurd references (by decide)

/-! ### The stores the changes leave -/

/-- The store after SQLite ran the statement of `add_user`. -/
def withUser (user : User) : Store :=
  (store.execute (insertUser user.id user.pw user.role user.eduOffice user.schoolName)).2

/-- The store after SQLite ran the statement of `update_user`. -/
def withUpdate (user : User) : Store :=
  (store.execute (.update .users (updatedColumns user) [(.id, user.id)])).2

/-- The store after SQLite ran the statement of `delete_user`. -/
def withoutUser (id : Bytes) : Store := (store.execute (.delete .users [(.id, id)])).2

/-- The store after SQLite ran the statement of `db_add_child`. -/
def withLink (childId parentId : Bytes) : Store :=
  (store.execute (.insert .children [(.childId, childId), (.parentId, parentId)])).2

/-- The store after SQLite ran the statement of `db_delete_child`. -/
def withoutLink (childId parentId : Bytes) : Store :=
  (store.execute (.delete .children [(.childId, childId), (.parentId, parentId)])).2

variable {store}

theorem execute_insertUser (user : User) :
    (store.execute (insertUser user.id user.pw user.role user.eduOffice user.schoolName)).1.isDone =
      (userRow store user.id).isNone := by
  show (store.commit (insertRow store.tables .users (rowOf user))).1.isDone = _
  simp only [Store.commit_fst, holds_insertUser_iff]
  cases userRow store user.id <;> rfl

theorem withUser_of_fresh {user : User} (fresh : userRow store user.id = none) :
    (withUser store user).tables = insertRow store.tables .users (rowOf user) :=
  (Store.commit_tables store _).trans (if_pos ((holds_insertUser_iff store user).mpr fresh))

theorem withUser_of_taken {user : User} (taken : userRow store user.id ≠ none) :
    withUser store user = store :=
  Store.ext <| (Store.commit_tables store _).trans
    (if_neg fun holds => taken ((holds_insertUser_iff store user).mp holds))

theorem execute_updateUser (user : User) :
    (store.execute (.update .users (updatedColumns user) [(.id, user.id)])).1.isDone = true := by
  show (store.commit (updateRows store.tables .users (updatedColumns user)
    [(.id, user.id)])).1.isDone = true
  rw [Store.commit_fst, if_pos (holds_updateUser store user)]
  rfl

theorem withUpdate_tables (user : User) : (withUpdate store user).tables =
    updateRows store.tables .users (updatedColumns user) [(.id, user.id)] :=
  (Store.commit_tables store _).trans (if_pos (holds_updateUser store user))

theorem execute_deleteUser (id : Bytes) :
    (store.execute (.delete .users [(.id, id)])).1 =
      if isReferenced store id then .failed else .done := by
  show (store.commit (deleteRows store.tables .users [(.id, id)])).1 = _
  simp only [Store.commit_fst, holds_deleteUser_iff]
  cases isReferenced store id <;> rfl

theorem withoutUser_of_unreferenced {id : Bytes} (unreferenced : isReferenced store id = false) :
    (withoutUser store id).tables = deleteRows store.tables .users [(.id, id)] :=
  (Store.commit_tables store _).trans (if_pos ((holds_deleteUser_iff store id).mpr unreferenced))

theorem withoutUser_of_referenced {id : Bytes} (referenced : isReferenced store id = true) :
    withoutUser store id = store :=
  Store.ext <| (Store.commit_tables store _).trans (if_neg fun holds =>
    Bool.noConfusion (referenced.symm.trans ((holds_deleteUser_iff store id).mp holds)))

theorem execute_insertLink (childId parentId : Bytes) :
    (store.execute (.insert .children [(.childId, childId), (.parentId, parentId)])).1.isDone =
      ((userRow store childId).isSome && (userRow store parentId).isSome &&
        !isLinked store childId parentId) := by
  show (store.commit (insertRow store.tables .children (linkRow childId parentId))).1.isDone = _
  simp only [Store.commit_fst, holds_insertLink_iff]
  cases (userRow store childId).isSome <;> cases (userRow store parentId).isSome <;>
    cases isLinked store childId parentId <;> rfl

theorem withLink_of_new {childId parentId : Bytes} (child : (userRow store childId).isSome)
    (parent : (userRow store parentId).isSome)
    (unlinked : isLinked store childId parentId = false) :
    (withLink store childId parentId).tables =
      insertRow store.tables .children (linkRow childId parentId) :=
  (Store.commit_tables store _).trans
    (if_pos ((holds_insertLink_iff store childId parentId).mpr ⟨child, parent, unlinked⟩))

theorem withLink_of_refused {childId parentId : Bytes}
    (refused : ¬ ((userRow store childId).isSome ∧ (userRow store parentId).isSome ∧
      isLinked store childId parentId = false)) :
    withLink store childId parentId = store :=
  Store.ext <| (Store.commit_tables store _).trans
    (if_neg fun holds => refused ((holds_insertLink_iff store childId parentId).mp holds))

theorem execute_deleteLink (childId parentId : Bytes) :
    (store.execute (.delete .children [(.childId, childId), (.parentId, parentId)])).1.isDone =
      true := by
  show (store.commit (deleteRows store.tables .children _)).1.isDone = true
  rw [Store.commit_fst, if_pos (holds_deleteLink store _)]
  rfl

theorem withoutLink_tables (childId parentId : Bytes) :
    (withoutLink store childId parentId).tables =
      deleteRows store.tables .children [(.childId, childId), (.parentId, parentId)] :=
  (Store.commit_tables store _).trans (if_pos (holds_deleteLink store _))

/-! ### The changes as runs -/

section Runs

variable (around : Surroundings) (world : World)

/-- The text of `add_user` is an `INSERT` statement with the fields pasted between quotes. -/
theorem addUserText_eq (user : User) :
    addUserText user = snprintf bufferSize (SqlText.insertText insertUserHead
      [user.id, user.pw, user.role, user.eduOffice, user.schoolName]) := by
  have opening : utf8 "INSERT INTO users (id, pw, role, edu_office, school_name) VALUES ('" =
      insertUserHead ++ [SqlText.quote] := by decide
  have between : utf8 "', '" = [SqlText.quote, 44, 32, SqlText.quote] := by decide
  have closing : utf8 "');" = [SqlText.quote, 41, 59] := by decide
  simp only [addUserText, SqlText.insertText, SqlText.pasteValues, opening, between, closing,
    List.append_assoc, List.cons_append, List.nil_append]

/-- The fields of a record together fit the statement buffer. -/
def User.Fits (user : User) : Prop :=
  user.id.length + user.pw.length + user.role.length + user.eduOffice.length +
    user.schoolName.length ≤ 4000

/-- No field of the inserted row contains a quote. -/
def User.QuoteFree (user : User) : Prop :=
  ∀ field ∈ [user.id, user.pw, user.role, user.eduOffice, user.schoolName], SqlText.quote ∉ field

instance (user : User) : Decidable user.QuoteFree := by
  unfold User.QuoteFree
  infer_instance

theorem addUserText_of_fits {user : User} (fits : user.Fits) :
    addUserText user = SqlText.insertText insertUserHead
      [user.id, user.pw, user.role, user.eduOffice, user.schoolName] := by
  have head : insertUserHead.length = 66 := by decide
  rw [addUserText_eq, snprintf_of_fits]
  unfold User.Fits at fits
  simp only [SqlText.insertText, SqlText.pasteValues, bufferSize, List.length_append,
    List.length_cons, List.length_nil, head]
  omega

/-- The text is read back as the record's fields exactly when none of them contains a quote. -/
theorem readInsert_addUserText_iff {user : User} (fits : user.Fits) :
    SqlText.readInsert insertUserHead 4 (addUserText user) =
        some [user.id, user.pw, user.role, user.eduOffice, user.schoolName] ↔
      user.QuoteFree := by
  rw [addUserText_of_fits fits]
  exact SqlText.readInsert_insertText_iff insertUserHead user.id
    [user.pw, user.role, user.eduOffice, user.schoolName]

theorem execText_addUser {user : User} (fits : user.Fits) (quoteFree : user.QuoteFree)
    (store : Store) :
    execText around store (addUserText user) =
      ((userRow store user.id).isNone, withUser store user) := by
  rw [execText, (readInsert_addUserText_iff fits).mpr quoteFree]
  show ((store.execute (insertUser user.id user.pw user.role user.eduOffice
    user.schoolName)).1.isDone, _) = _
  rw [execute_insertUser]
  rfl

/-- `add_user` of a record without quotes inserts it, unless there is a fault or the identifier
is taken. -/
theorem run_addUser {user : User} (fits : user.Fits) (quoteFree : user.QuoteFree) :
    Program.run (answer around) (addUser user) world =
      (some (world.quiet around && (userRow world.store user.id).isNone),
        world.step (if world.quiet around then withUser world.store user else world.store)) := by
  rw [addUser, run_sqliteExec]
  unfold World.quiet Surroundings.quiet
  cases around.sqliteFault world.calls with
  | some fault => rfl
  | none =>
    show (some (execText around world.store (addUserText user)).1,
      world.step (execText around world.store (addUserText user)).2) = _
    rw [execText_addUser around fits quoteFree]
    simp

/-- A statement whose result is only compared with `SQLITE_DONE`. -/
theorem run_isDone (statement : Statement) :
    Program.run (answer around) (do let result ← sqlite statement; return result.isDone) world =
      (some (world.quiet around && (world.store.execute statement).1.isDone),
        world.step (if world.quiet around then (world.store.execute statement).2
          else world.store)) := by
  cases quiet : world.quiet around with
  | true =>
    rw [Program.run_bind_of_some _ _ (run_sqlite_quiet around world statement quiet)]
    rfl
  | false =>
    obtain ⟨result, kind, run⟩ := run_sqlite_fault around world statement quiet
    rw [Program.run_bind_of_some _ _ run]
    rcases kind with rfl | rfl <;> rfl

/-- `update_user` completes unless there is a fault, whether or not a row matched. -/
theorem run_updateUser (user : User) :
    Program.run (answer around) (updateUser user) world =
      (some (world.quiet around),
        world.step (if world.quiet around then withUpdate world.store user else world.store)) := by
  show Program.run (answer around) (do
    let result ← sqlite (.update .users (updatedColumns user) [(.id, user.id)])
    return result.isDone) world = _
  rw [run_isDone, execute_updateUser, Bool.and_true]
  rfl

/-- `delete_user` completes unless there is a fault or some link refers to the user, whether or
not a row matched. -/
theorem run_deleteUser (id : Bytes) :
    ∃ response, Program.run (answer around) (deleteUser id) world =
      (some (world.quiet around && !isReferenced world.store id, response),
        world.step (if world.quiet around then withoutUser world.store id else world.store)) := by
  cases quiet : world.quiet around with
  | true =>
    rw [deleteUser, Program.run_bind_of_some _ _ (run_sqlite_quiet around world _ quiet),
      execute_deleteUser]
    cases isReferenced world.store id <;> exact ⟨_, rfl⟩
  | false =>
    obtain ⟨result, kind, run⟩ := run_sqlite_fault around world (.delete .users [(.id, id)]) quiet
    rw [deleteUser, Program.run_bind_of_some _ _ run]
    rcases kind with rfl | rfl <;> exact ⟨_, rfl⟩

/-- `db_delete_child` completes unless there is a fault. -/
theorem run_dbDeleteChild (childId parentId : Bytes) :
    Program.run (answer around) (dbDeleteChild childId parentId) world =
      (some (world.quiet around), world.step
        (if world.quiet around then withoutLink world.store childId parentId
          else world.store)) := by
  rw [dbDeleteChild, run_isDone, execute_deleteLink, Bool.and_true]
  rfl

/-- `db_add_child` checks the child again before it inserts the link. -/
theorem run_dbAddChild (childId parentId : Bytes) :
    Program.run (answer around) (dbAddChild childId parentId) world =
      if world.quiet around && (userRow world.store childId).isSome then
        (some ((world.step world.store).quiet around && ((userRow world.store parentId).isSome &&
            !isLinked world.store childId parentId)),
          (world.step world.store).step (if (world.step world.store).quiet around then
            withLink world.store childId parentId else world.store))
      else (some false, world.step world.store) := by
  rw [dbAddChild, Program.run_bind_of_some _ _ (run_isUserExists around world childId)]
  cases known : (world.quiet around && (userRow world.store childId).isSome) with
  | false => rfl
  | true =>
    have child := (Bool.and_eq_true_iff.mp known).2
    rw [if_pos rfl, if_pos rfl, run_isDone, World.step_store, execute_insertLink, child,
      Bool.true_and]
    rfl

end Runs

/-! ### What the changes do to the queries -/

theorem userRow_withUser {user : User} (fresh : userRow store user.id = none) (id : Bytes) :
    userRow (withUser store user) id =
      if id = user.id then some (rowOf user) else userRow store id := by
  have users : (withUser store user).tables .users = store.tables .users ++ [rowOf user] := by
    rw [withUser_of_fresh fresh, insertRow, Function.update_self]
  rw [userRow, users, List.find?_append, ← userRow]
  by_cases same : id = user.id
  · rw [if_pos same, same, fresh]
    simp [rowOf, assign]
  · rw [if_neg same]
    have other : rowOf user .id ≠ some id := fun equal => same (Option.some.inj equal).symm
    simp [other]

theorem userRow_withUpdate (user : User) (id : Bytes) :
    userRow (withUpdate store user) id = (userRow store id).map fun row =>
      if id = user.id then assign row (updatedColumns user) else row := by
  have keys : ∀ row : Row, assign row (updatedColumns user) .id = row .id := fun row =>
    assign_of_notMem _ row .id (by simp [updatedColumns])
  rw [userRow, withUpdate_tables, updateRows, Function.update_self, List.find?_map, passes_id,
    userRow]
  have sameFilter : ((fun row : Row => decide (row .id = some id)) ∘ fun row : Row =>
      if decide (row .id = some user.id) then assign row (updatedColumns user) else row) =
      fun row : Row => decide (row .id = some id) := by
    funext row
    show decide ((if _ then _ else _ : Row) .id = some id) = _
    split
    · rw [keys]
    · rfl
  rw [sameFilter]
  cases found : (store.tables .users).find? fun row => row .id = some id with
  | none => rfl
  | some row =>
    have key : row .id = some id := by simpa using List.find?_some found
    by_cases same : id = user.id
    · subst same
      simp [key]
    · simp [key, same]

theorem userRow_withoutUser {id : Bytes} (unreferenced : isReferenced store id = false)
    (other : Bytes) :
    userRow (withoutUser store id) other = if other = id then none else userRow store other := by
  rw [userRow, withoutUser_of_unreferenced unreferenced, deleteRows, Function.update_self,
    passes_id, List.find?_filter, userRow]
  split
  · rename_i same
    subst same
    simp
  · rename_i different
    refine congrArg (fun filter => List.find? filter _) (funext fun row => ?_)
    by_cases key : row .id = some other
    · simp [key, different]
    · simp [key]

theorem userRow_of_users {first second : Store} (same : first.tables .users = second.tables .users)
    (id : Bytes) : userRow first id = userRow second id := by
  rw [userRow, same, userRow]

theorem isLinked_of_children {first second : Store}
    (same : first.tables .children = second.tables .children) (childId parentId : Bytes) :
    isLinked first childId parentId = isLinked second childId parentId := by
  rw [isLinked, same, isLinked]

theorem isLinked_withLink {childId parentId : Bytes} (child : (userRow store childId).isSome)
    (parent : (userRow store parentId).isSome) (unlinked : isLinked store childId parentId = false)
    (otherChild otherParent : Bytes) :
    isLinked (withLink store childId parentId) otherChild otherParent =
      (isLinked store otherChild otherParent ||
        decide (otherChild = childId ∧ otherParent = parentId)) := by
  have children : (withLink store childId parentId).tables .children =
      store.tables .children ++ [linkRow childId parentId] := by
    rw [withLink_of_new child parent unlinked, insertRow, Function.update_self]
  rw [isLinked, children, List.any_append, ← isLinked]
  simp [linkRow, assign, eq_comm]

theorem isLinked_withoutLink (childId parentId otherChild otherParent : Bytes) :
    isLinked (withoutLink store childId parentId) otherChild otherParent =
      (isLinked store otherChild otherParent &&
        !decide (otherChild = childId ∧ otherParent = parentId)) := by
  rw [Bool.eq_iff_iff, isLinked_iff, withoutLink_tables, deleteRows, Function.update_self,
    Bool.and_eq_true, isLinked_iff]
  constructor
  · rintro ⟨row, member, child, parent⟩
    rw [List.mem_filter] at member
    refine ⟨⟨row, member.1, child, parent⟩, ?_⟩
    simpa [passes, child, parent] using member.2
  · rintro ⟨⟨row, member, child, parent⟩, different⟩
    refine ⟨row, List.mem_filter.mpr ⟨member, ?_⟩, child, parent⟩
    simpa [passes, child, parent] using different

end Changes

end SchoolMeals
