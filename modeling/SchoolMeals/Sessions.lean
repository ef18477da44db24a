/-
This file reads sessions as journals. Every entry of a session's history made at
most one change, the one its request asked for if it was answered with success.
What a store holds under one key is then the current value of the journal, as
soon as every possible change does to the store what its mark does to the value:
the induction over the session is made here, once.
-/

import SchoolMeals.Changes
import SchoolMeals.Library.Journal

namespace SchoolMeals

open CText Interaction Journal

/-- The change an entry made: the one its request asked for, if a reply reported success. -/
def Entry.change (entry : Entry) : Option Change :=
  if ∃ reply ∈ entry.replies, reply.status = respSuccess then entry.arrival.demand else none

/-- The entry of a request made what the request changed. -/
theorem Entry.change_serve (arrival : Arrival) (store : Store) :
    (Entry.mk arrival (serve arrival store).sent).change = arrival.changed store := rfl

/-- What a change does to a value, `other` when there is no change. -/
def markOf {Value : Type} (mark : Change → Mark Value) (change : Option Change) : Mark Value :=
  change.elim .other mark

/-- One more request without quotes leaves the store as the session left it, or makes the change
it asks for. -/
theorem storeAfter_cons (arrival : Arrival) (earlier : List Arrival)
    (quoteFree : arrival.QuoteFree) :
    (arrival.changed (storeAfter earlier) = none ∧
        storeAfter (arrival :: earlier) = storeAfter earlier) ∨
      ∃ change, arrival.changed (storeAfter earlier) = some change ∧
        arrival.demand = some change ∧ change.Possible (storeAfter earlier) ∧
        storeAfter (arrival :: earlier) = change.apply (storeAfter earlier) := by
  have served := serve_store arrival (storeAfter earlier) quoteFree
  cases changed : arrival.changed (storeAfter earlier) with
  | none =>
    rw [changed] at served
    exact Or.inl ⟨rfl, served⟩
  | some change =>
    rw [changed] at served
    refine Or.inr ⟨change, rfl, ?_, served⟩
    unfold Arrival.changed at changed
    split at changed
    · exact changed
    · cases changed

/-- A view of the store follows the journal of a session, when it does so over every change an
arrival of the session can make. The view may encode the values of the journal. -/
theorem view_storeAfter {Value Concrete : Type} (view : Store → Option Concrete)
    (encode : Value → Concrete) (mark : Change → Mark Value) (start : view initDb = none)
    (session : List Arrival) (quoteFree : ∀ arrival ∈ session, arrival.QuoteFree)
    (step : ∀ arrival ∈ session, ∀ change, arrival.demand = some change →
      ∀ (store : Store) (value : Option Value), change.Possible store →
        view store = value.map encode →
          view (change.apply store) = ((mark change).apply value).map encode) :
    view (storeAfter session) =
      (current (fun entry : Entry => markOf mark entry.change) (history session)).map encode := by
  induction session with
  | nil => exact start
  | cons arrival earlier inductionHypothesis =>
    have before := inductionHypothesis
      (fun other member => quoteFree other (List.mem_cons_of_mem _ member))
      (fun other member => step other (List.mem_cons_of_mem _ member))
    rw [history, current, Entry.change_serve]
    rcases storeAfter_cons arrival earlier (quoteFree arrival List.mem_cons_self) with
      ⟨changed, same⟩ | ⟨change, changed, asked, possible, after⟩
    · rw [changed, same]
      exact before
    · rw [changed, after]
      exact step arrival List.mem_cons_self change asked (storeAfter earlier) _ possible before

/-- What every possible change keeps holds after every session without quotes. -/
theorem invariant_storeAfter (invariant : Store → Prop) (start : invariant initDb)
    (step : ∀ (change : Change) (store : Store), change.Possible store → invariant store →
      invariant (change.apply store))
    (session : List Arrival) (quoteFree : ∀ arrival ∈ session, arrival.QuoteFree) :
    invariant (storeAfter session) := by
  induction session with
  | nil => exact start
  | cons arrival earlier inductionHypothesis =>
    have before := inductionHypothesis fun other member =>
      quoteFree other (List.mem_cons_of_mem _ member)
    rcases storeAfter_cons arrival earlier (quoteFree arrival List.mem_cons_self) with
      ⟨_, same⟩ | ⟨change, _, _, possible, after⟩
    · rw [same]
      exact before
    · rw [after]
      exact step change (storeAfter earlier) possible before

theorem arrival_mem_of_history {session : List Arrival} {entry : Entry}
    (member : entry ∈ history session) : entry.arrival ∈ session := by
  induction session with
  | nil => cases member
  | cons arrival earlier inductionHypothesis =>
    rcases List.mem_cons.mp member with rfl | member
    · exact List.mem_cons_self
    · exact List.mem_cons_of_mem _ (inductionHypothesis member)

end SchoolMeals
