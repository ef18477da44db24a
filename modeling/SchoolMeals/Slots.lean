/-
This file proves who holds the entries of `client_sockets` while `main` is in its
accept loop. The threads are read as parties that deal with sockets and seat
them in the array: as long as `main` loops, every step of every thread is a
sequence of moves of such parties, so in any order of the steps no socket is in
two entries, every handler has an entry of its own until it clears it, and the
socket in that entry is the one it was created for.
-/

import Mathlib.Data.List.Perm.Subperm
import SchoolMeals.Library.Tenancy
import SchoolMeals.Threads

namespace SchoolMeals

open Transition Tenancy

/-! ### Threads as parties -/

/-- What a handler has: its socket until it returns, and its entry until it clears it. -/
def Handler.share (handler : Handler) : Option (Share Nat Socket) :=
  match handler.stage with
  | .unlocking | .closing => some ⟨handler.connection, true, none⟩
  | .returned => none
  | _ => some ⟨handler.connection, true, some handler.slot⟩

/-- The handler has not released its entry yet. -/
def Handler.seated (handler : Handler) : Bool :=
  match handler.stage with
  | .unlocking | .closing | .returned => false
  | _ => true

theorem Handler.share_of_seated {handler : Handler} (seated : handler.seated = true) :
    handler.share = some ⟨handler.connection, true, some handler.slot⟩ := by
  unfold Handler.seated at seated
  unfold Handler.share
  split at seated
  · cases seated
  · cases seated
  · cases seated
  · rfl

/-- What a handler has is its own socket, which is open; in an entry it sits only until it
releases it. -/
theorem Handler.of_share {handler : Handler} {own : Share Nat Socket}
    (has : handler.share = some own) :
    own.resource = handler.connection ∧ own.isOpen = true ∧
      (own.seat ≠ none → handler.seated = true) := by
  unfold Handler.share at has
  unfold Handler.seated
  split at has
  · obtain rfl := Option.some.inj has
    exact ⟨rfl, rfl, fun seat => absurd rfl seat⟩
  · obtain rfl := Option.some.inj has
    exact ⟨rfl, rfl, fun seat => absurd rfl seat⟩
  · cases has
  · obtain rfl := Option.some.inj has
    exact ⟨rfl, rfl, fun _ => rfl⟩

/-- What `main` has: the socket it accepted until it is given to a handler or refused, and the
entry it filled. A socket whose thread was not created stays in its entry when it is closed. -/
def MainStage.share : MainStage → Option (Share Nat Socket)
  | .accepted socket | .searching socket _ | .vacant socket _ => some ⟨socket, true, none⟩
  | .searched socket index | .creating socket index =>
    some ⟨socket, true, if index < maxClients then some index else none⟩
  | .clearing socket index => some ⟨socket, false, some index⟩
  | _ => none

/-- The threads as parties that seat sockets in the array. -/
def Threads.tenancy (threads : Threads) : State Owner Nat Socket where
  share
    | .main => threads.main.share
    | .handler number => (threads.handlers[number]?).bind Handler.share
  table index :=
    if index < maxClients ∧ threads.clientSockets index ≠ 0 then
      some (threads.clientSockets index)
    else none
  opens socket := threads.log.count (.accepted socket)
  closes socket := threads.log.count (.closed socket)

/-- `main` has not left its accept loop. -/
def MainStage.inLoop : MainStage → Bool
  | .sweeping _ | .occupied _ | .closingServer | .closingDb | .deletingMutex | .returning
  | .returned => false
  | _ => true

namespace Threads

variable {threads : Threads}

theorem share_handler {number : Nat} {handler : Handler}
    (found : threads.handlers[number]? = some handler) :
    threads.tenancy.share (.handler number) = handler.share := by
  show (threads.handlers[number]?).bind Handler.share = handler.share
  rw [found]
  rfl

theorem table_eq {index : Nat} {socket : Socket}
    (taken : threads.tenancy.table index = some socket) :
    index < maxClients ∧ socket ≠ 0 ∧ threads.clientSockets index = socket := by
  unfold tenancy at taken
  dsimp only at taken
  split at taken
  · rename_i occupied
    obtain rfl := Option.some.inj taken
    exact ⟨occupied.1, occupied.2, rfl⟩
  · cases taken

theorem table_of_ne {index : Nat} (bound : index < maxClients)
    (occupied : threads.clientSockets index ≠ 0) :
    threads.tenancy.table index = some (threads.clientSockets index) :=
  if_pos ⟨bound, occupied⟩

/-- The handlers after one of them moved. -/
theorem getElem?_handlerAt {number other : Nat} {handler old : Handler} {stage : HandlerStage}
    (found : threads.handlers[number]? = some old) :
    (threads.handlerAt number handler stage).handlers[other]? =
      if number = other then some { handler with stage } else threads.handlers[other]? := by
  have bound := (List.getElem?_eq_some_iff.mp found).1
  show (threads.handlers.set number _)[other]? = _
  rw [List.getElem?_set]
  simp [bound]

/-! ### What the updates do to the shares -/

theorem tenancy_mainAt (stage : MainStage) :
    (threads.mainAt stage).tenancy = threads.tenancy.setShare .main stage.share := by
  unfold tenancy State.setShare
  congr 1
  funext party
  cases party with
  | main => rfl
  | handler number => rfl

theorem tenancy_handlerAt {number : Nat} {handler old : Handler} {stage : HandlerStage}
    (found : threads.handlers[number]? = some old) :
    (threads.handlerAt number handler stage).tenancy =
      threads.tenancy.setShare (.handler number) (Handler.share { handler with stage }) := by
  unfold tenancy State.setShare
  congr 1
  funext party
  cases party with
  | main => rfl
  | handler other =>
    show ((threads.handlerAt number handler stage).handlers[other]?).bind Handler.share = _
    rw [getElem?_handlerAt found, Function.update_apply]
    by_cases same : number = other
    · subst same
      simp
    · have different : Owner.handler other ≠ Owner.handler number := by
        intro equal
        exact same (Owner.handler.inj equal).symm
      rw [if_neg same, if_neg different]

/-- A new handler gets its share, and `main` has none any more. -/
theorem tenancy_create (stage : MainStage) (idle : stage.share = none) (handler : Handler) :
    { threads with main := stage, handlers := threads.handlers ++ [handler] }.tenancy =
      (threads.tenancy.setShare .main none).setShare (.handler threads.handlers.length)
        handler.share := by
  unfold tenancy State.setShare
  congr 1
  funext party
  cases party with
  | main => exact idle
  | handler number =>
    show ((threads.handlers ++ [handler])[number]?).bind Handler.share =
      Function.update (Function.update threads.tenancy.share .main none)
        (.handler threads.handlers.length) handler.share (.handler number)
    rw [Function.update_apply]
    by_cases newest : number = threads.handlers.length
    · subst newest
      simp
    · have different : Owner.handler number ≠ Owner.handler threads.handlers.length := by
        intro equal
        exact newest (Owner.handler.inj equal)
      rw [if_neg different, Function.update_of_ne (by simp), List.getElem?_append]
      show _ = (threads.handlers[number]?).bind Handler.share
      split
      · rfl
      · rename_i beyond
        rw [show [handler][number - threads.handlers.length]? = none from
          List.getElem?_eq_none (by simp; omega),
          List.getElem?_eq_none (Nat.le_of_not_lt beyond)]

/-- A step that leaves the share of its thread as it was is no move. -/
theorem tenancy_mainAt_same {stage : MainStage} (same : stage.share = threads.main.share) :
    (threads.mainAt stage).tenancy = threads.tenancy := by
  rw [tenancy_mainAt, same]
  unfold State.setShare
  rw [show threads.main.share = threads.tenancy.share .main from rfl, Function.update_eq_self]

theorem tenancy_handlerAt_same {number : Nat} {handler old : Handler} {stage : HandlerStage}
    (found : threads.handlers[number]? = some old)
    (same : Handler.share { handler with stage } = old.share) :
    (threads.handlerAt number handler stage).tenancy = threads.tenancy := by
  rw [tenancy_handlerAt found, same]
  unfold State.setShare
  rw [← share_handler found, Function.update_eq_self]

theorem tenancy_setSocket {index : Nat} (bound : index < maxClients) (socket : Socket) :
    (threads.setSocket index socket).tenancy =
      threads.tenancy.setTable index (if socket = 0 then none else some socket) := by
  unfold tenancy State.setTable
  congr 1
  funext other
  rw [Function.update_apply]
  show (if other < maxClients ∧ Function.update threads.clientSockets index socket other ≠ 0 then
    some (Function.update threads.clientSockets index socket other) else none) = _
  by_cases same : other = index
  · subst same
    simp [bound, ite_not]
  · rw [Function.update_of_ne same, if_neg same]

theorem tenancy_accepted (socket : Socket) :
    (threads.record (.accepted socket)).tenancy = threads.tenancy.countOpen socket := by
  unfold tenancy State.countOpen
  congr 1
  funext other
  show List.count _ (_ :: threads.log) = _
  rw [List.count_cons, Function.update_apply]
  by_cases same : other = socket
  · subst same
    simp
  · simp [same, Ne.symm same]

theorem tenancy_closeSocket (socket : Socket) :
    (threads.closeSocket socket).tenancy = threads.tenancy.countClosed socket := by
  unfold tenancy State.countClosed
  congr 1
  funext other
  show List.count _ (_ :: threads.log) = _
  rw [List.count_cons, Function.update_apply]
  by_cases same : other = socket
  · subst same
    simp
  · simp [same, Ne.symm same]

theorem tenancy_enterMutex (owner : Owner) :
    (threads.enterMutex owner).tenancy = threads.tenancy := rfl

end Threads

/-! ### What holds of every thread -/

/-- A handler that has started has read its own socket, and its scan does not pass its
entry. -/
structure Handler.Sensible (handler : Handler) : Prop where
  slot : handler.slot < maxClients
  connection : handler.connection ≠ 0
  read : handler.stage ≠ .created → handler.clientSocket = handler.connection
  scan : ∀ index, handler.stage = .scanning index → index ≤ handler.slot
  found : ∀ index, handler.stage = .matched index → index = handler.slot

/-- What `main` knows of its socket and its index, where it stands. -/
def MainStage.Sensible (clientSockets : Nat → Socket) : MainStage → Prop
  | .accepted socket => socket ≠ 0
  | .searching socket index | .searched socket index | .creating socket index =>
    socket ≠ 0 ∧ index ≤ maxClients
  | .vacant socket index => socket ≠ 0 ∧ index < maxClients ∧ clientSockets index = 0
  | .clearing _ index => index < maxClients
  | _ => True

/-- The threads hold sockets and entries as parties do. -/
structure Owned (threads : Threads) : Prop where
  sound : Sound threads.tenancy
  main : threads.main.Sensible threads.clientSockets
  handlers : ∀ (number : Nat) handler, threads.handlers[number]? = some handler →
    handler.Sensible

theorem owned_start : Owned Threads.start where
  sound := by
    refine sound_of_idle (fun party => ?_) (fun index => ?_) fun socket => rfl
    · cases party <;> rfl
    · exact if_neg fun occupied => occupied.2 rfl
  main := trivial
  handlers number handler impossible := by cases impossible

namespace Owned

variable {before after : Threads} (owned : Owned before)

include owned

/-! ### The steps of a handler -/

section Handlers

variable {number : Nat} {handler : Handler}
  (found : before.handlers[number]? = some handler)

include found

/-- One handler moved; what is left to show is about its move. -/
theorem handlerAt {middle : Threads} {moved : Handler} {stage : HandlerStage}
    (sameMain : middle.main = before.main) (sameHandlers : middle.handlers = before.handlers)
    (cleared : ∀ index, before.clientSockets index = 0 → middle.clientSockets index = 0)
    (sensible : Handler.Sensible { moved with stage })
    (sound : Sound (middle.handlerAt number moved stage).tenancy) :
    Owned (middle.handlerAt number moved stage) where
  sound := sound
  main := by
    have sensibleMain := owned.main
    show middle.main.Sensible middle.clientSockets
    rw [sameMain]
    cases stand : before.main with
    | vacant socket index =>
      rw [stand] at sensibleMain
      exact ⟨sensibleMain.1, sensibleMain.2.1, cleared index sensibleMain.2.2⟩
    | _ =>
      rw [stand] at sensibleMain
      exact sensibleMain
  handlers other present presentAt := by
    rw [← sameHandlers] at found
    rw [Threads.getElem?_handlerAt found] at presentAt
    split at presentAt
    · obtain rfl := Option.some.inj presentAt
      exact sensible
    · rw [sameHandlers] at presentAt
      exact owned.handlers other present presentAt

/-- A handler that only goes on keeps its share. -/
theorem goesOn {middle : Threads} {stage : HandlerStage}
    (sameMain : middle.main = before.main) (sameHandlers : middle.handlers = before.handlers)
    (sameTenancy : middle.tenancy = before.tenancy)
    (sameSockets : middle.clientSockets = before.clientSockets)
    (sensible : Handler.Sensible { handler with stage })
    (sameShare : Handler.share { handler with stage } = handler.share) :
    Owned (middle.handlerAt number handler stage) := by
  refine owned.handlerAt found sameMain sameHandlers (fun index free => ?_) sensible ?_
  · rw [sameSockets]
    exact free
  · rw [← sameHandlers] at found
    rw [Threads.tenancy_handlerAt_same found sameShare, sameTenancy]
    exact owned.sound

/-- The entry of a handler that has not cleared it holds its socket. -/
theorem clientSockets_slot (seat : handler.share =
    some ⟨handler.connection, true, some handler.slot⟩) :
    before.clientSockets handler.slot = handler.connection :=
  (Threads.table_eq (owned.sound.seated (.handler number) _ handler.slot
    ((Threads.share_handler found).trans seat) rfl)).2.2

/-- An entry that holds the socket of a handler is the entry of that handler. -/
theorem slot_of_clientSockets {index : Nat} (seat : handler.share =
    some ⟨handler.connection, true, some handler.slot⟩) (bound : index < maxClients)
    (holds : before.clientSockets index = handler.connection) : index = handler.slot := by
  have has := (Threads.share_handler found).trans seat
  have taken := owned.sound.seated _ _ handler.slot has rfl
  have occupied : before.clientSockets index ≠ 0 := by
    rw [holds]
    exact (Threads.table_eq taken).2.1
  have alsoTaken := Threads.table_of_ne bound occupied
  rw [holds] at alsoTaken
  exact owned.sound.slot_unique alsoTaken taken

/-- Every step of a handler leaves the threads in order, wherever `main` stands. -/
theorem handlerMove (moved : HandlerMove before number handler after) : Owned after := by
  have sensible := owned.handlers number handler found
  -- a handler that has not reached its entry still sits in it
  have seat : ∀ {stage}, handler.stage = stage →
      (∀ moved : Handler, moved.stage = stage →
        moved.share = some ⟨moved.connection, true, some moved.slot⟩) →
      handler.share = some ⟨handler.connection, true, some handler.slot⟩ :=
    fun stage shares => shares handler stage
  cases moved with
  | reads stage =>
    have share := seat stage fun moved stage => by rw [Handler.share, stage]
    refine owned.handlerAt found rfl rfl (fun _ free => free)
      ⟨sensible.slot, sensible.connection, fun _ => owned.clientSockets_slot found share, nofun,
        nofun⟩ ?_
    rw [Threads.tenancy_handlerAt_same found (by rw [share]; rfl)]
    exact owned.sound
  | tests stage =>
    have share := seat stage fun moved stage => by rw [Handler.share, stage]
    have read := sensible.read (by rw [stage]; nofun)
    refine owned.goesOn found rfl rfl rfl rfl
      ⟨sensible.slot, sensible.connection, fun _ => read, ?_, ?_⟩ ?_
    · intro index impossible
      split at impossible <;> cases impossible
    · intro index impossible
      split at impossible <;> cases impossible
    · rw [share]
      split <;> rfl
  | receives received stage =>
    have share := seat stage fun moved stage => by rw [Handler.share, stage]
    have read := sensible.read (by rw [stage]; nofun)
    refine owned.goesOn found rfl rfl rfl rfl
      ⟨sensible.slot, sensible.connection, fun _ => read, ?_, ?_⟩ ?_
    · intro index impossible
      cases received <;> cases impossible
    · intro index impossible
      cases received <;> cases impossible
    · rw [share]
      cases received <;> rfl
  | queries stage => exact ⟨owned.sound, owned.main, owned.handlers⟩
  | replies stage =>
    have share := seat stage fun moved stage => by rw [Handler.share, stage]
    have read := sensible.read (by rw [stage]; nofun)
    exact owned.goesOn found rfl rfl rfl rfl
      ⟨sensible.slot, sensible.connection, fun _ => read, nofun, nofun⟩
      (by rw [share]; rfl)
  | enters stage free =>
    have share := seat stage fun moved stage => by rw [Handler.share, stage]
    have read := sensible.read (by rw [stage]; nofun)
    refine owned.goesOn found rfl rfl (Threads.tenancy_enterMutex _) rfl
      ⟨sensible.slot, sensible.connection, fun _ => read, ?_, nofun⟩ (by rw [share]; rfl)
    rintro index ⟨rfl⟩
    exact Nat.zero_le _
  | finds index stage bound holds =>
    have share := seat stage fun moved stage => by rw [Handler.share, stage]
    have read := sensible.read (by rw [stage]; nofun)
    refine owned.goesOn found rfl rfl rfl rfl
      ⟨sensible.slot, sensible.connection, fun _ => read, nofun, ?_⟩
      (by rw [share]; rfl)
    rintro _ ⟨rfl⟩
    exact owned.slot_of_clientSockets found share bound (holds.trans read)
  | passes index stage bound other =>
    have share := seat stage fun moved stage => by rw [Handler.share, stage]
    have read := sensible.read (by rw [stage]; nofun)
    refine owned.goesOn found rfl rfl rfl rfl
      ⟨sensible.slot, sensible.connection, fun _ => read, ?_, nofun⟩
      (by rw [share]; rfl)
    rintro _ ⟨rfl⟩
    -- the entry that was passed holds another socket, so it is not the handler's own
    have own := (owned.clientSockets_slot found share).trans read.symm
    exact Nat.lt_of_le_of_ne (sensible.scan index stage) fun same =>
      other ((congrArg before.clientSockets same).trans own)
  | exhausts index stage bound =>
    exact absurd (Nat.lt_of_le_of_lt (sensible.scan index stage) sensible.slot) bound
  | clears index stage =>
    have share := seat stage fun moved stage => by rw [Handler.share, stage]
    have read := sensible.read (by rw [stage]; nofun)
    obtain rfl := sensible.found index stage
    refine owned.handlerAt found rfl rfl (fun other free => ?_)
      ⟨sensible.slot, sensible.connection, fun _ => read, nofun, nofun⟩ ?_
    · show Function.update before.clientSockets _ 0 other = 0
      rw [Function.update_apply, free, ite_self]
    · have sameHandlers : (before.setSocket handler.slot 0).handlers = before.handlers := rfl
      rw [Threads.tenancy_handlerAt (sameHandlers ▸ found), Threads.tenancy_setSocket sensible.slot,
        if_pos rfl]
      exact owned.sound.move (.vacate (Owner.handler number) handler.connection handler.slot true
        ((Threads.share_handler found).trans share))
  | leaves stage =>
    have share : handler.share = some ⟨handler.connection, true, none⟩ := by
      rw [Handler.share, stage]
    have read := sensible.read (by rw [stage]; nofun)
    exact owned.goesOn found rfl rfl rfl rfl
      ⟨sensible.slot, sensible.connection, fun _ => read, nofun, nofun⟩
      (by rw [share]; rfl)
  | closes stage =>
    have share : handler.share = some ⟨handler.connection, true, none⟩ := by
      rw [Handler.share, stage]
    have read := sensible.read (by rw [stage]; nofun)
    refine owned.handlerAt found rfl rfl (fun _ free => free)
      ⟨sensible.slot, sensible.connection, fun _ => read, nofun, nofun⟩ ?_
    have has := (Threads.share_handler found).trans share
    have sameHandlers : (before.closeSocket handler.clientSocket).handlers = before.handlers := rfl
    rw [Threads.tenancy_handlerAt (sameHandlers ▸ found), Threads.tenancy_closeSocket, read]
    have closed := owned.sound.move (.close (Owner.handler number) handler.connection none has)
    have dropped := closed.move (.drop (Owner.handler number) handler.connection
      (share_setShare.mpr (.inl ⟨rfl, rfl⟩)))
    rwa [State.setShare_setShare] at dropped

end Handlers

/-! ### The steps of the accept loop -/

/-- `main` moved; what is left to show is about its move. -/
theorem mainAt {middle : Threads} {stage : MainStage}
    (sameHandlers : middle.handlers = before.handlers)
    (sensible : stage.Sensible middle.clientSockets) (sound : Sound (middle.mainAt stage).tenancy) :
    Owned (middle.mainAt stage) where
  sound := sound
  main := sensible
  handlers number handler found := by
    refine owned.handlers number handler ?_
    rw [← sameHandlers]
    exact found

/-- A step of `main` that leaves its share as it was. -/
theorem mainGoesOn {middle : Threads} {stage : MainStage}
    (sameHandlers : middle.handlers = before.handlers)
    (sameTenancy : middle.tenancy = before.tenancy)
    (sensible : stage.Sensible middle.clientSockets) (sameShare : stage.share = middle.main.share) :
    Owned (middle.mainAt stage) := by
  refine owned.mainAt sameHandlers sensible ?_
  rw [Threads.tenancy_mainAt_same sameShare, sameTenancy]
  exact owned.sound

/-- The entry that `main` filled holds its socket. -/
theorem clientSockets_index {socket : Socket} {index : Nat} {isOpen : Bool}
    (seat : before.main.share = some ⟨socket, isOpen, some index⟩) :
    before.clientSockets index = socket :=
  (Threads.table_eq (owned.sound.seated .main _ index seat rfl)).2.2

/-- Every step of `main` in its loop leaves the threads in order. -/
theorem mainMove (inLoop : before.main.inLoop = true) (moved : MainMove before after) :
    Owned after := by
  have sensible := owned.main
  cases moved with
  | tests stand =>
    refine owned.mainGoesOn rfl rfl ?_ ?_
    · split <;> trivial
    · rw [stand]
      split <;> rfl
  | fails stand =>
    refine owned.mainGoesOn rfl rfl ?_ ?_
    · split <;> trivial
    · rw [stand]
      split <;> rfl
  | accepts socket stand nonzero fresh =>
    refine owned.mainAt rfl nonzero ?_
    rw [Threads.tenancy_mainAt, Threads.tenancy_accepted]
    refine owned.sound.move (.receive Owner.main socket ?_ fun party own has same => ?_)
    · show before.main.share = none
      rw [stand]
      rfl
    · -- every handler keeps its socket open, and this one is not
      have isOpen : own.isOpen = true := by
        cases party with
        | main =>
          have nothing : before.main.share = none := by
            rw [stand]
            rfl
          exact absurd has (by rw [show before.tenancy.share .main = none from nothing]; nofun)
        | handler number =>
          obtain ⟨handler, _, share⟩ := Option.bind_eq_some_iff.mp has
          exact (Handler.of_share share).2.1
      have counts := owned.sound.kept party own has isOpen
      rw [same] at counts
      exact absurd (Nat.lt_of_lt_of_eq (Nat.lt_succ_self _) counts.symm)
        (of_decide_eq_false fresh)
  | enters socket stand free =>
    rw [stand] at sensible
    refine owned.mainGoesOn rfl (Threads.tenancy_enterMutex _) ⟨sensible, Nat.zero_le _⟩ ?_
    show _ = before.main.share
    rw [stand]
    rfl
  | finds socket index stand bound free =>
    rw [stand] at sensible
    refine owned.mainGoesOn rfl rfl ⟨sensible.1, bound, free⟩ ?_
    rw [stand]
    rfl
  | passes socket index stand bound =>
    rw [stand] at sensible
    refine owned.mainGoesOn rfl rfl ⟨sensible.1, bound⟩ ?_
    rw [stand]
    rfl
  | exhausts socket index stand bound =>
    rw [stand] at sensible
    refine owned.mainGoesOn rfl rfl sensible ?_
    rw [stand]
    show (some ⟨socket, true, if index < maxClients then some index else none⟩ :
      Option (Share Nat Socket)) = some ⟨socket, true, none⟩
    rw [if_neg bound]
  | fills socket index stand =>
    rw [stand] at sensible
    refine owned.mainAt rfl ⟨sensible.1, Nat.le_of_lt sensible.2.1⟩ ?_
    rw [Threads.tenancy_mainAt, Threads.tenancy_setSocket sensible.2.1, if_neg sensible.1]
    have filled := owned.sound.move (.fill Owner.main socket index true ?_ ?_)
    · rw [MainStage.share, if_pos sensible.2.1]
      exact filled
    · show before.main.share = _
      rw [stand]
      rfl
    · exact if_neg fun occupied => occupied.2 sensible.2.2
  | leaves socket index stand =>
    rw [stand] at sensible
    refine owned.mainGoesOn rfl rfl sensible ?_
    show _ = before.main.share
    rw [stand]
    rfl
  | refuses socket stand =>
    refine owned.mainAt rfl trivial ?_
    rw [Threads.tenancy_mainAt, Threads.tenancy_closeSocket]
    have closed := owned.sound.move (.close Owner.main socket none ?_)
    · have dropped := closed.move (.drop Owner.main socket (share_setShare.mpr (.inl ⟨rfl, rfl⟩)))
      rwa [State.setShare_setShare] at dropped
    · show before.main.share = _
      rw [stand]
      rfl
  | creates socket index stand place =>
    rw [stand] at sensible
    have bound := Nat.lt_of_le_of_ne sensible.2 place
    refine ⟨?_, trivial, fun number handler found => ?_⟩
    · have has : before.main.share = some ⟨socket, true, some index⟩ := by
        rw [stand, MainStage.share, if_pos bound]
      rw [Threads.tenancy_create .looping rfl]
      refine owned.sound.move (.give Owner.main (Owner.handler before.handlers.length) _ has ?_)
      show (before.handlers[before.handlers.length]?).bind Handler.share = none
      rw [List.getElem?_eq_none (Nat.le_refl _)]
      rfl
    · rcases List.mem_append.mp (List.mem_of_getElem? found) with present | new
      · obtain ⟨earlier, at_⟩ := List.mem_iff_getElem?.mp present
        exact owned.handlers earlier handler at_
      · obtain rfl := List.mem_singleton.mp new
        exact ⟨bound, sensible.1, fun started => absurd rfl started, nofun, nofun⟩
  | givesUp socket index stand place =>
    rw [stand] at sensible
    have bound := Nat.lt_of_le_of_ne sensible.2 place
    have has : before.main.share = some ⟨socket, true, some index⟩ := by
      rw [stand, MainStage.share, if_pos bound]
    refine owned.mainAt rfl bound ?_
    rw [Threads.tenancy_mainAt, Threads.tenancy_closeSocket, owned.clientSockets_index has]
    exact owned.sound.move (.close Owner.main socket (some index) has)
  | clears socket index stand =>
    rw [stand] at sensible
    refine owned.mainAt rfl trivial ?_
    rw [Threads.tenancy_mainAt, Threads.tenancy_setSocket sensible, if_pos rfl]
    have vacated := owned.sound.move (.vacate Owner.main socket index false ?_)
    · have dropped := vacated.move (.drop Owner.main socket (share_setShare.mpr (.inl ⟨rfl, rfl⟩)))
      rwa [State.setShare_setShare] at dropped
    · show before.main.share = _
      rw [stand]
      rfl
  | _ => simp_all [MainStage.inLoop]

end Owned

/-! ### Whole runs -/

/-- `main` does not come back to its loop. -/
theorem inLoop_of_mainMove {before after : Threads} (moved : MainMove before after)
    (settled : after.main.inLoop = true ∨ after.main = .sweeping 0) :
    before.main.inLoop = true := by
  cases moved with
  | skips index | closes index => exact absurd settled (by simp [Threads.mainAt, MainStage.inLoop])
  | meets | swept | closesServer | closesDb | deletesMutex | returns =>
    exact absurd settled (by simp [Threads.mainAt, MainStage.inLoop])
  | _ => simp_all [MainStage.inLoop]

/-- A handler leaves `main` where it stands. -/
theorem main_of_handlerMove {before after : Threads} {number : Nat} {handler : Handler}
    (moved : HandlerMove before number handler after) : after.main = before.main := by
  cases moved <;> rfl

/-- Until `main` begins to close the sockets that are left, the threads are in order. -/
theorem owned_of_runs {turns : List Turn} {threads : Threads}
    (runs : Runs ThreadStep .start turns threads)
    (settled : threads.main.inLoop = true ∨ threads.main = .sweeping 0) : Owned threads := by
  revert settled
  refine runs.invariant
    (fun _ threads => threads.main.inLoop = true ∨ threads.main = .sweeping 0 → Owned threads)
    (fun _ => owned_start) fun _ before turn after _ _ stepped keeps settled => ?_
  obtain ⟨_, rfl | moved | ⟨number, handler, found, moved⟩⟩ := step_cases stepped
  · have owned := keeps settled
    exact ⟨owned.sound, owned.main, owned.handlers⟩
  · have inLoop := inLoop_of_mainMove moved settled
    exact (keeps (.inl inLoop)).mainMove inLoop moved
  · rw [main_of_handlerMove moved] at settled
    exact (keeps settled).handlerMove found moved

/-! ### The entries of the array -/

/-- Every occupied entry has one handler or `main` behind it, and every handler the entry it
was created with. -/
structure SlotsHeld (threads : Threads) : Prop where
  once : ∀ first second, first < maxClients → second < maxClients →
    threads.clientSockets first ≠ 0 →
    threads.clientSockets first = threads.clientSockets second → first = second
  own : ∀ (number : Nat) (handler : Handler), threads.handlers[number]? = some handler →
    handler.seated = true →
    ∃! index, index < maxClients ∧ threads.clientSockets index = handler.connection
  alone : ∀ (number other : Nat) (handler neighbour : Handler),
    threads.handlers[number]? = some handler → threads.handlers[other]? = some neighbour →
    handler.seated = true → neighbour.seated = true →
    handler.connection = neighbour.connection → number = other
  lateStart : ∀ (number : Nat) (handler : Handler), threads.handlers[number]? = some handler →
    if handler.stage = .created then
      handler.slot < maxClients ∧ threads.clientSockets handler.slot = handler.connection
    else handler.clientSocket = handler.connection
  refused : ∀ socket, threads.main = .creating socket maxClients → ∀ index, index < maxClients →
    threads.clientSockets index ≠ socket
  served : threads.main = .looping ∨ threads.main = .accepting → ∀ index, index < maxClients →
    threads.clientSockets index ≠ 0 → ∃ (number : Nat) (handler : Handler),
      threads.handlers[number]? = some handler ∧ handler.seated = true ∧
        threads.clientSockets index = handler.connection
  bounded : threads.handlers.countP Handler.seated ≤ maxClients

namespace Owned

variable {threads : Threads} (owned : Owned threads)

include owned

theorem once {first second : Nat} (firstBound : first < maxClients)
    (secondBound : second < maxClients) (occupied : threads.clientSockets first ≠ 0)
    (same : threads.clientSockets first = threads.clientSockets second) : first = second := by
  have taken := Threads.table_of_ne firstBound occupied
  have alsoTaken := Threads.table_of_ne secondBound (same ▸ occupied)
  rw [← same] at alsoTaken
  exact owned.sound.slot_unique taken alsoTaken

/-- An occupied entry has a handler that is seated in it, unless `main` filled it and has not
given it away. -/
theorem tenant {index : Nat} (bound : index < maxClients)
    (occupied : threads.clientSockets index ≠ 0)
    (notMain : ∀ share, threads.main.share = some share → share.seat ≠ some index) :
    ∃ (number : Nat) (handler : Handler), threads.handlers[number]? = some handler ∧
      handler.seated = true ∧ threads.clientSockets index = handler.connection := by
  obtain ⟨party, own, has, seat, holds⟩ :=
    owned.sound.tenant_resource (Threads.table_of_ne bound occupied)
  cases party with
  | main => exact absurd seat (notMain own has)
  | handler number =>
    obtain ⟨handler, found, share⟩ := Option.bind_eq_some_iff.mp has
    obtain ⟨resource, _, seated⟩ := Handler.of_share share
    exact ⟨number, handler, found, seated (by rw [seat]; nofun), holds.symm.trans resource⟩

theorem bounded : threads.handlers.countP Handler.seated ≤ maxClients := by
  have distinct : threads.handlers.Pairwise fun handler neighbour =>
      handler.seated = true → neighbour.seated = true → handler.slot ≠ neighbour.slot := by
    rw [List.pairwise_iff_getElem]
    intro number other numberBound otherBound before seated alsoSeated same
    have has := (Threads.share_handler (List.getElem?_eq_getElem numberBound)).trans
      (Handler.share_of_seated seated)
    have alsoHas := (Threads.share_handler (List.getElem?_eq_getElem otherBound)).trans
      (Handler.share_of_seated alsoSeated)
    have equal := owned.sound.tenant_unique has alsoHas rfl (congrArg some same.symm)
    exact Nat.ne_of_lt before (Owner.handler.inj equal)
  have slots : ((threads.handlers.filter Handler.seated).map Handler.slot).Nodup := by
    rw [List.Nodup, List.pairwise_map, List.pairwise_filter]
    exact distinct.imp fun apart seated alsoSeated => apart seated alsoSeated
  have inRange : (threads.handlers.filter Handler.seated).map Handler.slot ⊆
      List.range maxClients := by
    intro slot member
    obtain ⟨handler, present, rfl⟩ := List.mem_map.mp member
    obtain ⟨number, found⟩ := List.mem_iff_getElem?.mp (List.mem_filter.mp present).1
    exact List.mem_range.mpr (owned.handlers number handler found).slot
  have length := (slots.subperm inRange).length_le
  rwa [List.length_map, ← List.countP_eq_length_filter, List.length_range] at length

theorem slotsHeld : SlotsHeld threads where
  once _ _ := owned.once
  own number handler found seated := by
    have holds := owned.clientSockets_slot found (Handler.share_of_seated seated)
    refine ⟨handler.slot, ⟨(owned.handlers number handler found).slot, holds⟩, ?_⟩
    rintro other ⟨bound, alsoHolds⟩
    exact owned.slot_of_clientSockets found (Handler.share_of_seated seated) bound alsoHolds
  alone number other handler neighbour found alsoFound seated alsoSeated same := by
    have has := (Threads.share_handler found).trans (Handler.share_of_seated seated)
    have alsoHas := (Threads.share_handler alsoFound).trans (Handler.share_of_seated alsoSeated)
    exact Owner.handler.inj (owned.sound.apart _ _ _ _ has alsoHas same)
  lateStart number handler found := by
    have sensible := owned.handlers number handler found
    split
    · rename_i stage
      have seated : handler.seated = true := by
        rw [Handler.seated, stage]
      exact ⟨sensible.slot, owned.clientSockets_slot found (Handler.share_of_seated seated)⟩
    · rename_i started
      exact sensible.read started
  refused socket stand index bound holds := by
    have share : threads.main.share = some ⟨socket, true, none⟩ := by
      rw [stand]
      rfl
    have nonzero : threads.clientSockets index ≠ 0 := by
      have sensible := owned.main
      rw [stand] at sensible
      rw [holds]
      exact sensible.1
    have taken := Threads.table_of_ne bound nonzero
    rw [holds] at taken
    have seat := owned.sound.seat_of_table (show threads.tenancy.share .main = _ from share) taken
    cases seat
  served idle index bound occupied := by
    refine owned.tenant bound occupied fun share has => ?_
    rcases idle with stand | stand <;> rw [stand] at has <;> cases has
  bounded := owned.bounded

end Owned

/-- Before shutdown the entries are held, in every order of the steps of all threads. -/
theorem slotsHeld_of_runs {turns : List Turn} {threads : Threads}
    (runs : Runs ThreadStep .start turns threads) (inLoop : threads.main.inLoop = true) :
    SlotsHeld threads :=
  (owned_of_runs runs (.inl inLoop)).slotsHeld

/-- `main` accepts a client and looks for an entry, which is the first one. -/
def acceptFirst (socket : Socket) : List Turn :=
  [.main .nothing, .main (.accept (some socket)), .main .nothing, .main .nothing, .main .nothing,
    .main .nothing]

/-- A handler is created and does not start; the thread of the next client cannot be created. -/
def lateHandler : List Turn :=
  acceptFirst 7 ++ [.main (.createThread true)] ++ acceptFirst 9 ++
    [.main .nothing, .main (.createThread false), .main .nothing]

theorem slotsHeld_lateHandler : SlotsHeld (.reached lateHandler) :=
  slotsHeld_of_runs (runs_reached lateHandler (by decide)) (by decide)

end SchoolMeals
