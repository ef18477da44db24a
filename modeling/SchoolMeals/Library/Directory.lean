/-
This file is a small library of account directories. A directory knows accounts
by a name, each with a secret and a place, and clients with a session, which
shows a name and the place of the account it was opened with. What an event does
to one account is its mark in a journal, so the account after a run is the value
that stands in it; and an open session leads back to the event that opened it.
-/

import SchoolMeals.Library.Journal
import SchoolMeals.Library.Transition
import Mathlib.Logic.Function.Basic

namespace Directory

open Journal Transition

variable {Client Name Secret Place : Type}

/-- The accounts, and the sessions of the clients. -/
structure State (Client Name Secret Place : Type) where
  account : Name → Option (Secret × Place)
  session : Client → Option (Name × Place)

/-- Nobody is known and nobody has a session. -/
def State.empty : State Client Name Secret Place := ⟨fun _ => none, fun _ => none⟩

/-- What happens to a directory. A client that enters shows a name, which need not be the one that
the account is found under. -/
inductive Event (Client Name Secret Place : Type) where
  | enters (client : Client) (shown name : Name) (secret : Secret)
  | turnedAway (name : Name) (secret : Secret)
  | leaves (client : Client)
  | registers (name : Name) (secret : Secret) (place : Place)
  | refused (name : Name)
  | changes (name : Name) (secret : Secret) (place : Place)
  | removes (name : Name)
  | nothing

namespace State

/-- The directory admits the event: a client enters with the secret of the account, and a name is
registered when it is free. -/
def Admits (state : State Client Name Secret Place) : Event Client Name Secret Place → Prop
  | .enters _ _ name secret => ∃ place, state.account name = some (secret, place)
  | .turnedAway name secret => ∀ place, state.account name ≠ some (secret, place)
  | .registers name _ _ => state.account name = none
  | .refused name => (state.account name).isSome = true
  | .leaves _ | .changes .. | .removes _ | .nothing => True

variable [DecidableEq Client] [DecidableEq Name]

/-- The directory after an event. A change takes effect only where there is an account. -/
def after (state : State Client Name Secret Place) :
    Event Client Name Secret Place → State Client Name Secret Place
  | .enters client shown name _ => ⟨state.account, Function.update state.session client
      ((state.account name).map fun account => (shown, account.2))⟩
  | .leaves client => ⟨state.account, Function.update state.session client none⟩
  | .registers name secret place =>
    ⟨Function.update state.account name (some (secret, place)), state.session⟩
  | .changes name secret place => ⟨Function.update state.account name
      ((state.account name).map fun _ => (secret, place)), state.session⟩
  | .removes name => ⟨Function.update state.account name none, state.session⟩
  | .turnedAway .. | .refused _ | .nothing => state

end State

/-- The event opens or closes a session of this client. -/
def Event.Concerns (client : Client) : Event Client Name Secret Place → Prop
  | .enters other .. | .leaves other => other = client
  | _ => False

/-- What an event does to the account of this name. -/
def mark [DecidableEq Name] (name : Name) : Event Client Name Secret Place → Mark (Secret × Place)
  | .registers other secret place => if other = name then .put (secret, place) else .other
  | .changes other secret place => if other = name then .change (secret, place) else .other
  | .removes other => if other = name then .clear else .other
  | .enters .. | .turnedAway .. | .leaves _ | .refused _ | .nothing => .other

section Steps

variable [DecidableEq Client] [DecidableEq Name]

def Step (before : State Client Name Secret Place) (event : Event Client Name Secret Place)
    (after : State Client Name Secret Place) : Prop :=
  before.Admits event ∧ after = before.after event

/-! ### One account -/

theorem account_registers (state : State Client Name Secret Place) (name : Name) (secret : Secret)
    (place : Place) :
    (state.after (.registers name secret place)).account name = some (secret, place) :=
  Function.update_self _ _ _

theorem account_after (state : State Client Name Secret Place)
    (event : Event Client Name Secret Place) (name : Name) :
    (state.after event).account name = (mark name event).apply (state.account name) := by
  cases event with
  | registers other | changes other | removes other =>
    by_cases same : other = name
    · subst same
      simp [State.after, mark, Mark.apply]
    · simp [State.after, mark, Mark.apply, same, Function.update_of_ne (Ne.symm same)]
  | enters | turnedAway | leaves | refused | nothing => rfl

variable {events : List (Event Client Name Secret Place)}
  {start last : State Client Name Secret Place}

theorem session_enters {state : State Client Name Secret Place} {name : Name} {secret : Secret}
    {place : Place} (client : Client) (shown : Name) (given : Secret)
    (known : state.account name = some (secret, place)) :
    (state.after (.enters client shown name given)).session client = some (shown, place) := by
  have now : (state.after (.enters client shown name given)).session client =
      (state.account name).map fun account => (shown, account.2) := Function.update_self _ _ _
  rw [now, known]
  rfl

theorem session_leaves (state : State Client Name Secret Place) (client : Client) :
    (state.after (.leaves client)).session client = none := Function.update_self _ _ _

theorem session_after {state : State Client Name Secret Place}
    {event : Event Client Name Secret Place} {client : Client} (apart : ¬ event.Concerns client) :
    (state.after event).session client = state.session client := by
  cases event with
  | enters other | leaves other =>
    exact Function.update_of_ne (fun same => apart same.symm) _ _
  | turnedAway | registers | refused | changes | removes | nothing => rfl

end Steps

end Directory
