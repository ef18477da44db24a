/-
This file follows the links between children and parents through a session. The
table of links is at any time exactly what the journal of the session says: the
pairs whose last successful `ADD_CHILD` or `DEL_CHILD` added them. Referential
integrity is not the code's doing but the store's: the parent is only checked by
the foreign key, and so is a deletion.
-/

import SchoolMeals.Sessions

namespace SchoolMeals

open CText Interaction Journal Relational

/-! ### The journal of a link -/

/-- What a change does to the link of a child to a parent. -/
def linkMark (childId parentId : Bytes) : Change → Mark Unit
  | .link child parent => if child = childId ∧ parent = parentId then .put () else .other
  | .unlink child parent => if child = childId ∧ parent = parentId then .clear else .other
  | .register .. | .update .. | .delete _ => .other

/-- A link as a value that is there or not. -/
def linkView (childId parentId : Bytes) (store : Store) : Option Unit :=
  if isLinked store childId parentId then some () else none

theorem linkView_isSome (childId parentId : Bytes) (store : Store) :
    (linkView childId parentId store).isSome = isLinked store childId parentId := by
  unfold linkView
  cases isLinked store childId parentId <;> rfl

/-- Every possible change does to a link what its mark does. -/
theorem linkView_apply (childId parentId : Bytes) (change : Change) (store : Store)
    (possible : change.Possible store) :
    linkView childId parentId (change.apply store) =
      (linkMark childId parentId change).apply (linkView childId parentId store) := by
  have same : ∀ after : Store, after.tables .children = store.tables .children →
      linkView childId parentId after = linkView childId parentId store := by
    intro after children
    unfold linkView
    rw [isLinked_of_children children]
  cases change with
  | register id pw codes =>
    refine same _ ?_
    rw [Change.apply, withUser_of_fresh possible]
    exact Function.update_of_ne (by decide) _ _
  | update id pw codes =>
    refine same _ ?_
    rw [Change.apply, withUpdate_tables]
    exact Function.update_of_ne (by decide) _ _
  | delete id =>
    refine same _ ?_
    rw [Change.apply, withoutUser_of_unreferenced possible]
    exact Function.update_of_ne (by decide) _ _
  | link child parent =>
    obtain ⟨childExists, parentExists, unlinked⟩ := possible
    rw [linkView, Change.apply, isLinked_withLink childExists parentExists unlinked, linkMark]
    by_cases pair : child = childId ∧ parent = parentId
    · obtain ⟨rfl, rfl⟩ := pair
      simp [Mark.apply]
    · have other : ¬ (childId = child ∧ parentId = parent) :=
        fun equal => pair ⟨equal.1.symm, equal.2.symm⟩
      rw [if_neg pair, decide_eq_false other, Bool.or_false]
      rfl
  | unlink child parent =>
    rw [linkView, Change.apply, isLinked_withoutLink, linkMark]
    by_cases pair : child = childId ∧ parent = parentId
    · obtain ⟨rfl, rfl⟩ := pair
      simp [Mark.apply]
    · have other : ¬ (childId = child ∧ parentId = parent) :=
        fun equal => pair ⟨equal.1.symm, equal.2.symm⟩
      rw [if_neg pair, decide_eq_false other, Bool.not_false, Bool.and_true]
      rfl

/-- The entry made or removed the link. -/
def Entry.decides (childId parentId : Bytes) (entry : Entry) : Bool :=
  entry.change = some (.link childId parentId) || entry.change = some (.unlink childId parentId)

/-- After a session a child is linked to a parent exactly when the last entry that made or removed
the link made it. -/
theorem isLinked_storeAfter_iff (session : List Arrival)
    (quoteFree : ∀ arrival ∈ session, arrival.QuoteFree) (childId parentId : Bytes) :
    isLinked (storeAfter session) childId parentId = true ↔
      ∃ entry, (history session).find? (·.decides childId parentId) = some entry ∧
        entry.change = some (.link childId parentId) := by
  have view :=
    view_storeAfter (linkView childId parentId) id (linkMark childId parentId) rfl session
    quoteFree fun _ _ change _ store value possible stored => by
      rw [linkView_apply childId parentId change store possible, stored]
      simp
  have decides : ∀ entry : Entry, entry.decides childId parentId =
      (markOf (linkMark childId parentId) entry.change).decides := by
    intro entry
    unfold Entry.decides markOf
    cases entry.change with
    | none => rfl
    | some change =>
      cases change with
      | link child parent =>
        by_cases pair : child = childId ∧ parent = parentId <;> simp [linkMark, pair, Mark.decides]
      | unlink child parent =>
        by_cases pair : child = childId ∧ parent = parentId <;> simp [linkMark, pair, Mark.decides]
      | register | update | delete => rfl
  have puts : ∀ entry : Entry, entry.change = some (.link childId parentId) ↔
      ∃ value, markOf (linkMark childId parentId) entry.change = .put value := by
    intro entry
    unfold markOf
    cases entry.change with
    | none => simp
    | some change => cases change <;> simp [linkMark, ite_eq_iff]
  rw [← linkView_isSome, view, Option.map_id, id_eq, current_isSome_iff]
  simp only [decides, puts, exists_and_left]

/-! ### Integrity -/

/-- A row of the table of links is a pair, and no pair occurs twice. -/
theorem children_pairs (store : Store) :
    (∀ row ∈ store.tables .children, ∃ childId parentId,
      row .childId = some childId ∧ row .parentId = some parentId) ∧
    ((store.tables .children).map fun row => (row .childId, row .parentId)).Nodup := by
  have present := store.holds.present .children
  have pairs : ∀ row ∈ store.tables .children, ∃ childId parentId,
      row .childId = some childId ∧ row .parentId = some parentId := by
    intro row member
    obtain ⟨childId, child⟩ :=
      Option.ne_none_iff_exists'.mp (present row member .childId (by simp [schema]))
    obtain ⟨parentId, parent⟩ :=
      Option.ne_none_iff_exists'.mp (present row member .parentId (by simp [schema]))
    exact ⟨childId, parentId, child, parent⟩
  refine ⟨pairs, ?_⟩
  have unique := store.holds.unique .children
  have full : Relational.Schema.keysOf schema .children (store.tables .children) =
      ((store.tables .children).map fun row => (row .childId, row .parentId)).map
        fun pair => [pair.1, pair.2] := by
    rw [Relational.Schema.keysOf, List.filter_eq_self.mpr, List.map_map]
    · rfl
    · intro key member
      obtain ⟨row, rowMember, rfl⟩ := List.mem_map.mp member
      obtain ⟨childId, parentId, child, parent⟩ := pairs row rowMember
      show [row .childId, row .parentId].all Option.isSome = true
      rw [child, parent]
      rfl
  rw [full] at unique
  exact unique.of_map _

/-- A deletion of a linked user is answered with an error and changes nothing. -/
theorem serve_delete_referenced (arrival : Arrival) (store : Store) {operands : Operands}
    {id : Bytes} (parsed : parseRequest arrival.received = some ⟨cmdDelete, operands⟩)
    (hasId : operands.id = some id) (referenced : isReferenced store id = true) :
    (serve arrival store).outcome = refusal store respDbError := by
  have program : handleClient arrival.locals arrival.received = delete (some id) := by
    rw [handleClient, parsed]
    show delete operands.id = _
    rw [hasId]
  show outcomeOf arrival.around store (handleClient _ _) = _
  rw [program, outcomeOf_delete, deleteOutcome, referenced]
  simp

/-- Without faults an addition succeeds exactly when both users exist and are not linked. -/
theorem serve_addChild_succeeds_iff (arrival : Arrival) (store : Store) {operands : Operands}
    {id childId : Bytes} (parsed : parseRequest arrival.received = some ⟨cmdAddChild, operands⟩)
    (hasId : operands.id = some id) (hasChild : operands.childId = some childId)
    (quiet : ∀ call, arrival.around.quiet call = true) :
    (serve arrival store).Succeeds ↔ (userRow store id).isSome ∧ (userRow store childId).isSome ∧
      isLinked store childId id = false := by
  have program : handleClient arrival.locals arrival.received =
      addChild (some id) (some childId) := by
    rw [handleClient, parsed]
    show addChild operands.id operands.childId = _
    rw [hasId, hasChild]
  show (outcomeOf arrival.around store (handleClient _ _)).Succeeds ↔ _
  rw [program, outcomeOf_addChild, addChildOutcome, quiet 0, quiet 1, quiet 2]
  cases (userRow store childId).isSome with
  | false => simpa using not_succeeds_refusal store errChildUserNotFound
  | true =>
    cases (userRow store id).isSome with
    | false => simpa using not_succeeds_refusal store respDbError
    | true =>
      cases isLinked store childId id with
      | true => simpa using not_succeeds_refusal store respDbError
      | false => simpa using succeeds_success (withLink store childId id) respAddChildOk []

/-- What holds of the links after a session. -/
structure LinksFollow (session : List Arrival) : Prop where
  pairs : ∀ row ∈ (storeAfter session).tables .children, ∃ childId parentId,
    row .childId = some childId ∧ row .parentId = some parentId
  nodup : (((storeAfter session).tables .children).map
    fun row => (row .childId, row .parentId)).Nodup
  /-- The links are those whose last addition or removal was an addition. -/
  exactly : ∀ childId parentId, isLinked (storeAfter session) childId parentId = true ↔
    ∃ entry, (history session).find? (·.decides childId parentId) = some entry ∧
      entry.change = some (.link childId parentId)
  exist : ∀ childId parentId, isLinked (storeAfter session) childId parentId = true →
    (userRow (storeAfter session) childId).isSome ∧ (userRow (storeAfter session) parentId).isSome
  /-- A linked user cannot be deleted. -/
  deletion : ∀ (arrival : Arrival) (operands : Operands) (id : Bytes),
    parseRequest arrival.received = some ⟨cmdDelete, operands⟩ → operands.id = some id →
      isReferenced (storeAfter session) id = true →
        (serve arrival (storeAfter session)).outcome = refusal (storeAfter session) respDbError
  /-- A link can be added exactly when both users exist and it is new. -/
  addition : ∀ (arrival : Arrival) (operands : Operands) (id childId : Bytes),
    parseRequest arrival.received = some ⟨cmdAddChild, operands⟩ → operands.id = some id →
      operands.childId = some childId → (∀ call, arrival.around.quiet call = true) →
        ((serve arrival (storeAfter session)).Succeeds ↔
          (userRow (storeAfter session) id).isSome ∧
            (userRow (storeAfter session) childId).isSome ∧
            isLinked (storeAfter session) childId id = false)

/-- The links follow any session without quotes, whatever faults it met. -/
theorem linksFollow_of_quoteFree (session : List Arrival)
    (quoteFree : ∀ arrival ∈ session, arrival.QuoteFree) : LinksFollow session := by
  obtain ⟨pairs, nodup⟩ := children_pairs (storeAfter session)
  refine ⟨pairs, nodup, isLinked_storeAfter_iff session quoteFree, ?_, ?_, ?_⟩
  · intro childId parentId linked
    exact exists_of_isLinked (storeAfter session) linked
  · intro arrival operands id parsed hasId referenced
    exact serve_delete_referenced arrival (storeAfter session) parsed hasId referenced
  · intro arrival operands id childId parsed hasId hasChild quiet
    exact serve_addChild_succeeds_iff arrival (storeAfter session) parsed hasId hasChild quiet

def sampleLink : Arrival :=
  .calm (requestText cmdAddChild [utf8 "user1", utf8 "1234", utf8 "Seoul", utf8 "Sample School",
    utf8 "20240603", utf8 "user1"])

theorem quoteFree_sampleLink : sampleLink.QuoteFree := by
  intro request found registers
  have command : (parseRequest sampleLink.received).map Request.command = some cmdAddChild := by
    decide
  rw [Option.mem_def.mp found, Option.map_some, registers] at command
  exact absurd command (by decide)

theorem quoteFree_sampleSession :
    ∀ arrival ∈ [sampleLink, sampleRegistration], arrival.QuoteFree := by
  intro arrival member
  rcases List.mem_pair.mp member with rfl | rfl
  · exact quoteFree_sampleLink
  · exact quoteFree_sampleRegistration

/-- A registration and a link. -/
theorem linksFollow_sample : LinksFollow [sampleLink, sampleRegistration] :=
  linksFollow_of_quoteFree _ quoteFree_sampleSession

end SchoolMeals
