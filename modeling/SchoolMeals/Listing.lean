/-
This file is about the two ways the server has of listing the children of a
parent. Neither works. `get_children_db` asks the table of links for a column
that the table of users has, so its statement is never prepared. `get_children`
copies the name of every child, a column that no registration fills, so the
first child stops it.
-/

import SchoolMeals.Links

namespace SchoolMeals

open CText Interaction Relational

/-- Both listings succeed, and as long as the parent has no more children than the arrays hold,
each gives exactly the linked ones: `get_children_db` in its array, `get_children` in the text of
such an array. -/
structure Lists (around : Surroundings) (store : Store) (parentId : Bytes) (locals : Locals) :
    Prop where
  db : ∃ children, (Program.run (answer around) (getChildrenDb locals.children parentId)
      (World.start store)).1 = some (some children) ∧
    ((store.tables .children).countP (fun row => row .parentId = some parentId) ≤ maxChildren →
      ∀ childId, childId ∈ children.map Child.id ↔ isLinked store childId parentId = true)
  json : ∃ children, (Program.run (answer around) (getChildren locals.children parentId)
      (World.start store)).1 = some (true, childrenJson children) ∧
    ((store.tables .children).countP (fun row => row .parentId = some parentId) ≤ maxChildren →
      ∀ childId, childId ∈ children.map Child.id ↔ isLinked store childId parentId = true)

/-! ### `get_children` -/

/-- No registration fills the name. -/
def Nameless (store : Store) : Prop := ∀ row ∈ store.tables .users, row .name = none

theorem nameless_apply (change : Change) (store : Store) (possible : change.Possible store)
    (nameless : Nameless store) : Nameless (change.apply store) := by
  cases change with
  | register id pw codes =>
    intro row member
    rw [Change.apply, withUser_of_fresh possible, insertRow, Function.update_self] at member
    rcases List.mem_append.mp member with old | new
    · exact nameless row old
    · rw [List.mem_singleton.mp new]
      rfl
  | update id pw codes =>
    intro row member
    rw [Change.apply, withUpdate_tables, updateRows, Function.update_self] at member
    obtain ⟨old, oldMember, rfl⟩ := List.mem_map.mp member
    split
    · rw [assign_of_notMem _ old .name (by simp [updatedColumns])]
      exact nameless old oldMember
    · exact nameless old oldMember
  | delete id =>
    intro row member
    rw [Change.apply, withoutUser_of_unreferenced possible, deleteRows,
      Function.update_self] at member
    exact nameless row (List.mem_of_mem_filter member)
  | link childId parentId =>
    obtain ⟨child, parent, unlinked⟩ := possible
    intro row member
    rw [Change.apply, withLink_of_new child parent unlinked, insertRow,
      Function.update_of_ne (by decide)] at member
    exact nameless row member
  | unlink childId parentId =>
    intro row member
    rw [Change.apply, withoutLink_tables, deleteRows,
      Function.update_of_ne (by decide)] at member
    exact nameless row member

theorem nameless_storeAfter (session : List Arrival)
    (quoteFree : ∀ arrival ∈ session, arrival.QuoteFree) : Nameless (storeAfter session) :=
  invariant_storeAfter Nameless (fun _ impossible => absurd impossible List.not_mem_nil)
    nameless_apply session quoteFree

/-- The statement of `get_children_raw`. -/
def childrenJoin (parentId : Bytes) : Statement :=
  .join [.id, .name, .eduOffice, .schoolName] .children .users .childId .id
    [(.parentId, parentId)]

/-- For a parent with a child the join finds a row, and its name is null. -/
theorem execute_childrenJoin {store : Store} (nameless : Nameless store)
    {childId parentId : Bytes} (linked : isLinked store childId parentId = true) :
    ∃ id eduOffice schoolName rest, store.execute (childrenJoin parentId) =
      (.rows ([some id, none, eduOffice, schoolName] :: rest), store) := by
  let matching (row : Row) : List Row := (store.tables .users).filter fun other =>
    (row .childId).isSome && other .id = row .childId
  let found := ((store.tables .children).filter (passes [(.parentId, parentId)])).flatMap
    fun row => (matching row).map fun other =>
      [Column.id, .name, .eduOffice, .schoolName].map other
  have run : store.execute (childrenJoin parentId) = (.rows found, store) := rfl
  have nulls : ∀ result ∈ found, ∃ id eduOffice schoolName,
      result = [some id, none, eduOffice, schoolName] := by
    intro result member
    obtain ⟨row, _, resultMember⟩ := List.mem_flatMap.mp member
    obtain ⟨other, otherMember, rfl⟩ := List.mem_map.mp resultMember
    obtain ⟨inUsers, joins⟩ := List.mem_filter.mp otherMember
    obtain ⟨given, same⟩ := Bool.and_eq_true_iff.mp joins
    obtain ⟨id, isId⟩ := Option.isSome_iff_exists.mp given
    have key : other .id = some id := (of_decide_eq_true same).trans isId
    refine ⟨id, other .eduOffice, other .schoolName, ?_⟩
    show [other .id, other .name, other .eduOffice, other .schoolName] = _
    rw [key, nameless other inUsers]
  have nonempty : found ≠ [] := by
    obtain ⟨row, member, child, parent⟩ := (isLinked_iff store childId parentId).mp linked
    obtain ⟨other, stored⟩ := Option.isSome_iff_exists.mp (exists_of_isLinked store linked).1
    obtain ⟨otherMember, key⟩ := (userRow_eq_some_iff store childId other).mp stored
    refine List.ne_nil_of_mem (List.mem_flatMap.mpr ⟨row, List.mem_filter.mpr ⟨member, ?_⟩,
      List.mem_map.mpr ⟨other, List.mem_filter.mpr ⟨otherMember, ?_⟩, rfl⟩⟩)
    · simp [passes, parent]
    · simp [child, key]
  obtain ⟨first, rest, cons⟩ := List.exists_cons_of_ne_nil nonempty
  obtain ⟨id, eduOffice, schoolName, rfl⟩ := nulls first (by rw [cons]; exact List.mem_cons_self)
  exact ⟨id, eduOffice, schoolName, rest, by rw [run, cons]⟩

/-- With a child linked, `get_children` copies from a null name, and what it does is undefined. -/
theorem run_getChildren_of_linked {around : Surroundings} (quiet : around.quiet 0 = true)
    {store : Store} (nameless : Nameless store) {childId parentId : Bytes}
    (linked : isLinked store childId parentId = true) (beyond : Nat → Child) :
    (Program.run (answer around) (getChildren beyond parentId) (World.start store)).1 = none := by
  obtain ⟨id, eduOffice, schoolName, rest, joined⟩ := execute_childrenJoin nameless linked
  have ran := run_sqlite_quiet around (World.start store) (childrenJoin parentId) quiet
  rw [show (World.start store).store = store from rfl, joined] at ran
  have stops : Program.run (answer around) (getChildrenRaw beyond parentId) (World.start store) =
      (none, (World.start store).step store) := by
    show Program.run (answer around) (sqlite (childrenJoin parentId) >>= _) _ = _
    rw [Program.run_bind_of_some _ _ ran]
    rfl
  rw [getChildren, Program.run_bind_of_none _ _ stops]

/-! ### Neither listing works -/

/-- There is no store and no parent for which both listings work. -/
theorem not_lists (around : Surroundings) (store : Store) (parentId : Bytes) (locals : Locals) :
    ¬ Lists around store parentId locals := by
  intro lists
  obtain ⟨children, succeeded, _⟩ := lists.db
  rw [run_getChildrenDb] at succeeded
  cases succeeded

/-- A parent with one child. -/
theorem not_lists_sample :
    ¬ Lists (.calm ⟨utf8 "B10", utf8 "7010569"⟩) (storeAfter [sampleLink, sampleRegistration])
      (utf8 "user1") .zeroed := by
  intro lists
  obtain ⟨children, undefined, _⟩ := lists.json
  have nameless := nameless_storeAfter [sampleLink, sampleRegistration] quoteFree_sampleSession
  have linked : isLinked (storeAfter [sampleLink, sampleRegistration]) (utf8 "user1")
      (utf8 "user1") = true := by decide
  rw [run_getChildren_of_linked rfl nameless linked] at undefined
  cases undefined

end SchoolMeals
