/-
This file is a small library of resources that parties hold and seat in a table.
A party deals with at most one resource at a time: it gets it open, may put it
into a free slot of the table, hands it to an idle party, vacates the slot,
closes the resource and drops it, in any order that makes sense. Whatever the
order of these moves, no resource has two parties, a slot that is taken has
exactly one tenant, whose resource it holds, and a resource is open exactly as
long as a party keeps it open.
-/

import Mathlib.Logic.Function.Basic

namespace Tenancy

variable {Party Slot Resource : Type}

/-- What a party has: a resource, whether it is still open, and the slot it is seated in. -/
structure Share (Slot Resource : Type) where
  resource : Resource
  isOpen : Bool
  seat : Option Slot

/-- The shares of the parties, the table, and how often each resource was opened and closed. -/
structure State (Party Slot Resource : Type) where
  share : Party → Option (Share Slot Resource)
  table : Slot → Option Resource
  opens : Resource → Nat
  closes : Resource → Nat

/-- No resource has two parties, seats and table agree, and the opening and closing of every
resource balances but for the parties that keep it open. -/
structure Sound (state : State Party Slot Resource) : Prop where
  apart : ∀ first second own other, state.share first = some own →
    state.share second = some other → own.resource = other.resource → first = second
  seated : ∀ party own slot, state.share party = some own → own.seat = some slot →
    state.table slot = some own.resource
  tenant : ∀ slot resource, state.table slot = some resource →
    ∃ party own, state.share party = some own ∧ own.seat = some slot
  kept : ∀ party own, state.share party = some own → own.isOpen = true →
    state.opens own.resource = state.closes own.resource + 1
  balanced : ∀ resource, (∀ party own, state.share party = some own → own.isOpen = true →
    own.resource ≠ resource) → state.opens resource = state.closes resource

/-- Nobody has anything. -/
theorem sound_of_idle {state : State Party Slot Resource} (idle : ∀ party, state.share party = none)
    (free : ∀ slot, state.table slot = none)
    (balanced : ∀ resource, state.opens resource = state.closes resource) : Sound state where
  apart first _ _ _ impossible := absurd impossible (by simp [idle first])
  seated party _ _ impossible := absurd impossible (by simp [idle party])
  tenant slot _ impossible := absurd impossible (by simp [free slot])
  kept party _ impossible := absurd impossible (by simp [idle party])
  balanced resource _ := balanced resource

namespace Sound

variable {state : State Party Slot Resource} (sound : Sound state)

include sound

/-- A taken slot has a tenant whose resource it holds. -/
theorem tenant_resource {slot : Slot} {resource : Resource}
    (taken : state.table slot = some resource) :
    ∃ party own, state.share party = some own ∧ own.seat = some slot ∧
      own.resource = resource := by
  obtain ⟨party, own, has, seat⟩ := sound.tenant slot resource taken
  have holds := sound.seated party own slot has seat
  exact ⟨party, own, has, seat, Option.some.inj (holds.symm.trans taken)⟩

/-- A slot has one tenant. -/
theorem tenant_unique {first second : Party} {own other : Share Slot Resource} {slot : Slot}
    (firstHas : state.share first = some own) (secondHas : state.share second = some other)
    (firstSeat : own.seat = some slot) (secondSeat : other.seat = some slot) : first = second := by
  have holds := sound.seated first own slot firstHas firstSeat
  have alsoHolds := sound.seated second other slot secondHas secondSeat
  exact sound.apart first second own other firstHas secondHas
    (Option.some.inj (holds.symm.trans alsoHolds))

/-- A resource that is in the table is there for its party, in the seat of the party. -/
theorem seat_of_table {party : Party} {own : Share Slot Resource} {slot : Slot}
    (has : state.share party = some own) (taken : state.table slot = some own.resource) :
    own.seat = some slot := by
  obtain ⟨other, share, otherHas, seat, same⟩ := sound.tenant_resource taken
  obtain rfl := sound.apart other party share own otherHas has same
  obtain rfl := Option.some.inj (otherHas.symm.trans has)
  exact seat

/-- A resource is in one slot at most. -/
theorem slot_unique {first second : Slot} {resource : Resource}
    (taken : state.table first = some resource) (alsoTaken : state.table second = some resource) :
    first = second := by
  obtain ⟨party, own, has, seat, rfl⟩ := sound.tenant_resource taken
  exact Option.some.inj (seat.symm.trans (sound.seat_of_table has alsoTaken))

/-- No other party has the resource that a party has. -/
theorem others {party : Party} {own : Share Slot Resource} (has : state.share party = some own)
    (other : Party) (found : Share Slot Resource) (different : other ≠ party)
    (otherHas : state.share other = some found) : found.resource ≠ own.resource :=
  fun same => different (sound.apart other party found own otherHas has same)

theorem closes_le_opens (resource : Resource) : state.closes resource ≤ state.opens resource := by
  by_cases somebody : ∃ party own, state.share party = some own ∧ own.isOpen = true ∧
      own.resource = resource
  · obtain ⟨party, own, has, keeps, rfl⟩ := somebody
    rw [sound.kept party own has keeps]
    exact Nat.le_succ _
  · refine Nat.le_of_eq (sound.balanced resource fun party own has keeps same => ?_).symm
    exact somebody ⟨party, own, has, keeps, same⟩

end Sound

/-! ### Moves -/

variable [DecidableEq Party]

def State.setShare (state : State Party Slot Resource) (party : Party)
    (own : Option (Share Slot Resource)) : State Party Slot Resource :=
  { state with share := Function.update state.share party own }

/-- Who has what after one share is replaced. -/
theorem share_setShare {state : State Party Slot Resource} {party other : Party}
    {own : Option (Share Slot Resource)} {found : Share Slot Resource} :
    (state.setShare party own).share other = some found ↔
      other = party ∧ own = some found ∨ other ≠ party ∧ state.share other = some found := by
  show Function.update state.share party own other = some found ↔ _
  rw [Function.update_apply]
  split <;> simp_all

namespace State

variable (state : State Party Slot Resource)

/-- The last share of a party counts. -/
theorem setShare_setShare (party : Party) (first second : Option (Share Slot Resource)) :
    (state.setShare party first).setShare party second = state.setShare party second := by
  unfold setShare
  rw [Function.update_idem]

def setTable [DecidableEq Slot] (slot : Slot) (resource : Option Resource) :
    State Party Slot Resource :=
  { state with table := Function.update state.table slot resource }

def countOpen [DecidableEq Resource] (resource : Resource) : State Party Slot Resource :=
  { state with opens := Function.update state.opens resource (state.opens resource + 1) }

def countClosed [DecidableEq Resource] (resource : Resource) : State Party Slot Resource :=
  { state with closes := Function.update state.closes resource (state.closes resource + 1) }

end State

/-- What a party can do with its resource. -/
inductive Move [DecidableEq Slot] [DecidableEq Resource] (state : State Party Slot Resource) :
    State Party Slot Resource → Prop where
  | receive (party : Party) (resource : Resource) (idle : state.share party = none)
      (fresh : ∀ other own, state.share other = some own → own.resource ≠ resource) :
      Move state ((state.countOpen resource).setShare party (some ⟨resource, true, none⟩))
  | fill (party : Party) (resource : Resource) (slot : Slot) (isOpen : Bool)
      (has : state.share party = some ⟨resource, isOpen, none⟩)
      (free : state.table slot = none) :
      Move state ((state.setTable slot (some resource)).setShare party
        (some ⟨resource, isOpen, some slot⟩))
  | give (giver taker : Party) (own : Share Slot Resource) (has : state.share giver = some own)
      (idle : state.share taker = none) :
      Move state ((state.setShare giver none).setShare taker (some own))
  | vacate (party : Party) (resource : Resource) (slot : Slot) (isOpen : Bool)
      (has : state.share party = some ⟨resource, isOpen, some slot⟩) :
      Move state ((state.setTable slot none).setShare party (some ⟨resource, isOpen, none⟩))
  | close (party : Party) (resource : Resource) (seat : Option Slot)
      (has : state.share party = some ⟨resource, true, seat⟩) :
      Move state ((state.countClosed resource).setShare party (some ⟨resource, false, seat⟩))
  | drop (party : Party) (resource : Resource)
      (has : state.share party = some ⟨resource, false, none⟩) :
      Move state (state.setShare party none)

namespace Sound

variable {state : State Party Slot Resource} (sound : Sound state)

include sound

/-- A share of a resource that no other party has keeps the parties apart. -/
theorem apart_setShare {after : State Party Slot Resource} {party : Party}
    {new : Share Slot Resource} {first second : Party} {own other : Share Slot Resource}
    (firstHas : (after.setShare party (some new)).share first = some own)
    (secondHas : (after.setShare party (some new)).share second = some other)
    (same : own.resource = other.resource) (shares : after.share = state.share)
    (others : ∀ other own, other ≠ party → state.share other = some own →
      own.resource ≠ new.resource) : first = second := by
  rw [share_setShare, shares] at firstHas secondHas
  rcases firstHas with ⟨firstHere, equal⟩ | ⟨firstOther, firstHas⟩
  · obtain rfl := Option.some.inj equal
    rcases secondHas with ⟨secondHere, _⟩ | ⟨secondOther, secondHas⟩
    · exact firstHere.trans secondHere.symm
    · exact absurd same.symm (others second other secondOther secondHas)
  · rcases secondHas with ⟨_, equal⟩ | ⟨_, secondHas⟩
    · obtain rfl := Option.some.inj equal
      exact absurd same (others first own firstOther firstHas)
    · exact sound.apart first second own other firstHas secondHas same

theorem receive [DecidableEq Resource] {party : Party} {resource : Resource}
    (idle : state.share party = none)
    (fresh : ∀ other own, state.share other = some own → own.resource ≠ resource) :
    Sound ((state.countOpen resource).setShare party (some ⟨resource, true, none⟩)) where
  apart _ _ _ _ firstHas secondHas same :=
    sound.apart_setShare firstHas secondHas same rfl fun other own _ has => fresh other own has
  seated other own slot has seat := by
    rcases share_setShare.mp has with ⟨_, equal⟩ | ⟨_, has⟩
    · obtain rfl := Option.some.inj equal
      cases seat
    · exact sound.seated other own slot has seat
  tenant slot found taken := by
    obtain ⟨other, own, has, seat⟩ := sound.tenant slot found taken
    have different : other ≠ party := by
      rintro rfl
      exact absurd has (by simp [idle])
    exact ⟨other, own, share_setShare.mpr (.inr ⟨different, has⟩), seat⟩
  kept other own has keeps := by
    show Function.update state.opens resource _ own.resource = state.closes own.resource + 1
    rcases share_setShare.mp has with ⟨_, equal⟩ | ⟨_, has⟩
    · obtain rfl := Option.some.inj equal
      have balanced := sound.balanced resource fun other own has _ => fresh other own has
      rw [Function.update_self, balanced]
    · rw [Function.update_of_ne (fresh other own has)]
      exact sound.kept other own has keeps
  balanced found nobody := by
    show Function.update state.opens resource _ found = state.closes found
    have different : found ≠ resource := by
      rintro rfl
      exact nobody party ⟨found, true, none⟩ (share_setShare.mpr (.inl ⟨rfl, rfl⟩)) rfl rfl
    rw [Function.update_of_ne different]
    refine sound.balanced found fun other own has keeps => ?_
    have apart : other ≠ party := by
      rintro rfl
      exact absurd has (by simp [idle])
    exact nobody other own (share_setShare.mpr (.inr ⟨apart, has⟩)) keeps

/-- A share with the same resource, as open as before, changes only seats. -/
theorem reseat {party : Party} {resource : Resource} {isOpen : Bool} {seat place : Option Slot}
    {table : Slot → Option Resource} (has : state.share party = some ⟨resource, isOpen, seat⟩)
    (own : ∀ slot, place = some slot → table slot = some resource)
    (others : ∀ slot, seat ≠ some slot → place ≠ some slot → table slot = state.table slot)
    (left : ∀ slot, seat = some slot → place ≠ some slot → table slot = none)
    (free : ∀ slot, place = some slot → seat ≠ some slot → state.table slot = none) :
    Sound ({ state with table }.setShare party (some ⟨resource, isOpen, place⟩)) where
  apart _ _ _ _ firstHas secondHas same :=
    sound.apart_setShare firstHas secondHas same rfl fun other own different otherHas =>
      sound.others has other own different otherHas
  seated other found slot foundHas foundSeat := by
    show table slot = some found.resource
    rcases share_setShare.mp foundHas with ⟨_, equal⟩ | ⟨different, foundHas⟩
    · obtain rfl := Option.some.inj equal
      exact own slot foundSeat
    · have seated := sound.seated other found slot foundHas foundSeat
      have notSeat : seat ≠ some slot := fun taken =>
        different (sound.tenant_unique foundHas has foundSeat taken)
      have notPlace : place ≠ some slot := fun taken =>
        absurd (seated.symm.trans (free slot taken notSeat)) (by simp)
      rw [others slot notSeat notPlace, seated]
  tenant slot found taken := by
    by_cases here : place = some slot
    · exact ⟨party, _, share_setShare.mpr (.inl ⟨rfl, rfl⟩), here⟩
    · have notSeat : seat ≠ some slot := fun gone =>
        absurd (taken.symm.trans (left slot gone here)) (by simp)
      obtain ⟨other, share, otherHas, otherSeat⟩ :=
        sound.tenant slot found ((others slot notSeat here).symm.trans taken)
      have different : other ≠ party := by
        rintro rfl
        obtain rfl := Option.some.inj (otherHas.symm.trans has)
        exact notSeat otherSeat
      exact ⟨other, share, share_setShare.mpr (.inr ⟨different, otherHas⟩), otherSeat⟩
  kept other found foundHas keeps := by
    rcases share_setShare.mp foundHas with ⟨_, equal⟩ | ⟨_, foundHas⟩
    · obtain rfl := Option.some.inj equal
      exact sound.kept party ⟨resource, isOpen, seat⟩ has keeps
    · exact sound.kept other found foundHas keeps
  balanced found nobody := by
    refine sound.balanced found fun other share otherHas keeps => ?_
    by_cases same : other = party
    · subst same
      obtain rfl := Option.some.inj (has.symm.trans otherHas)
      exact nobody other ⟨resource, isOpen, place⟩ (share_setShare.mpr (.inl ⟨rfl, rfl⟩)) keeps
    · exact nobody other share (share_setShare.mpr (.inr ⟨same, otherHas⟩)) keeps

theorem give {giver taker : Party} {own : Share Slot Resource}
    (has : state.share giver = some own) (idle : state.share taker = none) :
    Sound ((state.setShare giver none).setShare taker (some own)) := by
  have apart := sound.apart
  have different : giver ≠ taker := by
    rintro rfl
    exact absurd has (by simp [idle])
  -- what a party has now, a party had before
  have before : ∀ party found,
      ((state.setShare giver none).setShare taker (some own)).share party = some found →
        ∃ earlier, state.share earlier = some found ∧
          (earlier = giver ↔ party = taker) ∧ (earlier ≠ giver → earlier = party) := by
    intro party found foundHas
    rw [share_setShare, share_setShare] at foundHas
    grind
  -- and what it had, a party has
  have after : ∀ party found, state.share party = some found → ∃ later,
      ((state.setShare giver none).setShare taker (some own)).share later = some found := by
    intro party found foundHas
    by_cases same : party = giver
    · subst same
      obtain rfl := Option.some.inj (has.symm.trans foundHas)
      exact ⟨taker, share_setShare.mpr (.inl ⟨rfl, rfl⟩)⟩
    · have notTaker : party ≠ taker := by
        rintro rfl
        exact absurd foundHas (by simp [idle])
      exact ⟨party, share_setShare.mpr (.inr ⟨notTaker, share_setShare.mpr
        (.inr ⟨same, foundHas⟩)⟩)⟩
  refine ⟨fun first second found other firstHas secondHas same => ?_, ?_, ?_, ?_, ?_⟩
  · obtain ⟨firstBefore, firstHad, firstGiver, firstSame⟩ := before first found firstHas
    obtain ⟨secondBefore, secondHad, secondGiver, secondSame⟩ := before second other secondHas
    obtain rfl := sound.apart _ _ found other firstHad secondHad same
    grind
  · intro party found slot foundHas seat
    obtain ⟨earlier, had, _⟩ := before party found foundHas
    exact sound.seated earlier found slot had seat
  · intro slot resource taken
    obtain ⟨party, found, had, seat⟩ := sound.tenant slot resource taken
    obtain ⟨later, foundHas⟩ := after party found had
    exact ⟨later, found, foundHas, seat⟩
  · intro party found foundHas keeps
    obtain ⟨earlier, had, _⟩ := before party found foundHas
    exact sound.kept earlier found had keeps
  · intro resource nobody
    refine sound.balanced resource fun party found had keeps => ?_
    obtain ⟨later, foundHas⟩ := after party found had
    exact nobody later found foundHas keeps

theorem close [DecidableEq Resource] {party : Party} {resource : Resource} {seat : Option Slot}
    (has : state.share party = some ⟨resource, true, seat⟩) :
    Sound ((state.countClosed resource).setShare party (some ⟨resource, false, seat⟩)) where
  apart _ _ _ _ firstHas secondHas same :=
    sound.apart_setShare firstHas secondHas same rfl fun other own different otherHas =>
      sound.others has other own different otherHas
  seated other own slot ownHas ownSeat := by
    rcases share_setShare.mp ownHas with ⟨_, equal⟩ | ⟨_, ownHas⟩
    · obtain rfl := Option.some.inj equal
      exact sound.seated party ⟨resource, true, seat⟩ slot has ownSeat
    · exact sound.seated other own slot ownHas ownSeat
  tenant slot found taken := by
    obtain ⟨other, own, ownHas, ownSeat⟩ := sound.tenant slot found taken
    by_cases same : other = party
    · subst same
      obtain rfl := Option.some.inj (has.symm.trans ownHas)
      exact ⟨other, _, share_setShare.mpr (.inl ⟨rfl, rfl⟩), ownSeat⟩
    · exact ⟨other, own, share_setShare.mpr (.inr ⟨same, ownHas⟩), ownSeat⟩
  kept other own ownHas keeps := by
    show state.opens own.resource = Function.update state.closes resource _ own.resource + 1
    rcases share_setShare.mp ownHas with ⟨_, equal⟩ | ⟨different, ownHas⟩
    · obtain rfl := Option.some.inj equal
      exact absurd keeps Bool.false_ne_true
    · have apart : own.resource ≠ resource := fun same =>
        different (sound.apart other party own _ ownHas has same)
      rw [Function.update_of_ne apart]
      exact sound.kept other own ownHas keeps
  balanced found nobody := by
    show state.opens found = Function.update state.closes resource _ found
    by_cases same : found = resource
    · subst same
      rw [Function.update_self]
      exact sound.kept party _ has rfl
    · rw [Function.update_of_ne same]
      refine sound.balanced found fun other own ownHas keeps equal => ?_
      by_cases here : other = party
      · subst here
        obtain rfl := Option.some.inj (has.symm.trans ownHas)
        exact same equal.symm
      · exact nobody other own (share_setShare.mpr (.inr ⟨here, ownHas⟩)) keeps equal

theorem drop {party : Party} {resource : Resource}
    (has : state.share party = some ⟨resource, false, none⟩) :
    Sound (state.setShare party none) := by
  have kept : ∀ other own, (state.setShare party none).share other = some own →
      state.share other = some own := by
    intro other own ownHas
    rcases share_setShare.mp ownHas with ⟨_, impossible⟩ | ⟨_, ownHas⟩
    · cases impossible
    · exact ownHas
  have stays : ∀ other own, state.share other = some own → own ≠ ⟨resource, false, none⟩ →
      (state.setShare party none).share other = some own := by
    intro other own ownHas different
    refine share_setShare.mpr (.inr ⟨?_, ownHas⟩)
    rintro rfl
    exact different (Option.some.inj (ownHas.symm.trans has))
  refine ⟨fun first second own other firstHas secondHas =>
      sound.apart first second own other (kept _ _ firstHas) (kept _ _ secondHas),
    fun other own slot ownHas => sound.seated other own slot (kept _ _ ownHas), ?_,
    fun other own ownHas => sound.kept other own (kept _ _ ownHas), ?_⟩
  · intro slot found taken
    obtain ⟨other, own, ownHas, seat⟩ := sound.tenant slot found taken
    refine ⟨other, own, stays other own ownHas ?_, seat⟩
    rintro rfl
    cases seat
  · intro found nobody
    refine sound.balanced found fun other own ownHas keeps => ?_
    refine nobody other own (stays other own ownHas ?_) keeps
    rintro rfl
    cases keeps

/-- Every move keeps a state sound. -/
theorem move [DecidableEq Slot] [DecidableEq Resource] {after : State Party Slot Resource}
    (moved : Move state after) : Sound after := by
  cases moved with
  | receive party resource idle fresh => exact sound.receive idle fresh
  | fill party resource slot isOpen has free =>
    refine sound.reseat has ?_ ?_ (by simp) ?_
    · rintro _ ⟨rfl⟩
      exact Function.update_self ..
    · intro other _ different
      exact Function.update_of_ne (by simpa [eq_comm] using different) ..
    · rintro _ ⟨rfl⟩ _
      exact free
  | give giver taker own has idle => exact sound.give has idle
  | vacate party resource slot isOpen has =>
    refine sound.reseat has (by simp) ?_ ?_ (by simp)
    · intro other different _
      exact Function.update_of_ne (by simpa [eq_comm] using different) ..
    · rintro _ ⟨rfl⟩ _
      exact Function.update_self ..
  | close party resource seat has => exact sound.close has
  | drop party resource has => exact sound.drop has

end Sound

end Tenancy
