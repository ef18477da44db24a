/-
This file models the threads of `server.c`: the accept loop of `main`, the
handlers it creates and the array `client_sockets` they share. Every thread is a
program counter with its local variables, and one step is one access to what is
shared: a socket, an entry of the array, `clients_mutex`, the database. The
serving of requests is left out but for the accesses it makes. A log keeps what
was accepted, closed, entered, used and released; no step reads it but `accept`,
which never returns the handle of a socket that is still open.
-/

import Mathlib.Logic.Function.Basic
import SchoolMeals.Library.Transition

namespace SchoolMeals

open Transition

/-! ### The state -/

/-- A handle of a client's socket. An entry of `client_sockets` that is zero is free. -/
abbrev Socket := Nat

def maxClients : Nat := 10

/-- Where `handle_client` stands. -/
inductive HandlerStage where
  | created
  | looping
  | receiving
  | answering
  | leaving
  | scanning (index : Nat)
  | matched (index : Nat)
  | unlocking
  | closing
  | returned
  deriving DecidableEq

/-- A thread of `handle_client`: the entry its argument points to, the socket it was created
for, and its variable `client_socket`, which it has not read while it is only created. -/
structure Handler where
  slot : Nat
  connection : Socket
  clientSocket : Socket
  stage : HandlerStage
  deriving DecidableEq

/-- Where `main` stands, from its accept loop on. -/
inductive MainStage where
  | looping
  | accepting
  | accepted (socket : Socket)
  | searching (socket : Socket) (index : Nat)
  | vacant (socket : Socket) (index : Nat)
  | searched (socket : Socket) (index : Nat)
  | creating (socket : Socket) (index : Nat)
  | clearing (socket : Socket) (index : Nat)
  | sweeping (index : Nat)
  | occupied (index : Nat)
  | closingServer
  | closingDb
  | deletingMutex
  | returning
  | returned
  deriving DecidableEq

inductive Owner where
  | main
  | handler (number : Nat)
  deriving DecidableEq

/-- What the log keeps. Only handlers use the database. -/
inductive Record where
  | accepted (socket : Socket)
  | closed (socket : Socket)
  | entered (owner : Owner)
  | usedDb
  | closedDb
  | deletedMutex
  deriving DecidableEq

/-- The state of the threads. Handlers are known by the order of their creation; the log has the
newest record first. -/
structure Threads where
  running : Bool
  clientSockets : Nat → Socket
  clientsMutex : Option Owner
  main : MainStage
  handlers : List Handler
  log : List Record

/-- `main` before its first test of `running`. -/
def Threads.start : Threads := ⟨true, fun _ => 0, none, .looping, [], []⟩

namespace Threads

variable (threads : Threads)

/-- A socket is open from the `accept` that returns it to its close. -/
def isOpen (socket : Socket) : Bool :=
  threads.log.count (.closed socket) < threads.log.count (.accepted socket)

def record (entry : Record) : Threads := { threads with log := entry :: threads.log }

def setSocket (index : Nat) (socket : Socket) : Threads :=
  { threads with clientSockets := Function.update threads.clientSockets index socket }

def mainAt (stage : MainStage) : Threads := { threads with main := stage }

def handlerAt (number : Nat) (handler : Handler) (stage : HandlerStage) : Threads :=
  { threads with handlers := threads.handlers.set number { handler with stage } }

/-- `close_socket`. -/
def closeSocket (socket : Socket) : Threads := threads.record (.closed socket)

def enterMutex (owner : Owner) : Threads :=
  { threads with clientsMutex := some owner, log := .entered owner :: threads.log }

def leaveMutex : Threads := { threads with clientsMutex := none }

end Threads

/-! ### Steps -/

/-- What a thread meets where the source does not decide: the result of `accept`, of
`CreateThread` and of `recv`, and whether a request uses the database once more or is done. -/
inductive Outside where
  | nothing
  | accept (socket : Option Socket)
  | createThread (created : Bool)
  | recv (received : Bool)
  | query
  | replied
  deriving DecidableEq

/-- One step of `main`. -/
def mainStep (outside : Outside) (threads : Threads) : Option Threads :=
  match threads.main, outside with
  | .looping, .nothing =>
    some (threads.mainAt (if threads.running then .accepting else .sweeping 0))
  | .accepting, .accept none =>
    -- the error is reported and the loop goes on, unless `running` was cleared
    some (threads.mainAt (if threads.running then .looping else .sweeping 0))
  | .accepting, .accept (some socket) =>
    if socket ≠ 0 ∧ threads.isOpen socket = false then
      some ((threads.record (.accepted socket)).mainAt (.accepted socket))
    else none
  | .accepted socket, .nothing =>
    if threads.clientsMutex = none then
      some ((threads.enterMutex .main).mainAt (.searching socket 0))
    else none
  | .searching socket index, .nothing =>
    if index < maxClients then
      if threads.clientSockets index = 0 then some (threads.mainAt (.vacant socket index))
      else some (threads.mainAt (.searching socket (index + 1)))
    else some (threads.mainAt (.searched socket index))
  | .vacant socket index, .nothing =>
    some ((threads.setSocket index socket).mainAt (.searched socket index))
  | .searched socket index, .nothing =>
    some (threads.leaveMutex.mainAt (.creating socket index))
  | .creating socket index, .nothing =>
    if index = maxClients then some ((threads.closeSocket socket).mainAt .looping) else none
  | .creating socket index, .createThread true =>
    if index = maxClients then none
    else some { threads with
      main := .looping
      handlers := threads.handlers ++ [⟨index, socket, 0, .created⟩] }
  | .creating socket index, .createThread false =>
    if index = maxClients then none
    else some ((threads.closeSocket (threads.clientSockets index)).mainAt (.clearing socket index))
  | .clearing _ index, .nothing => some ((threads.setSocket index 0).mainAt .looping)
  | .sweeping index, .nothing =>
    if index < maxClients then
      if threads.clientSockets index = 0 then some (threads.mainAt (.sweeping (index + 1)))
      else some (threads.mainAt (.occupied index))
    else some (threads.mainAt .closingServer)
  | .occupied index, .nothing =>
    some ((threads.closeSocket (threads.clientSockets index)).mainAt (.sweeping (index + 1)))
  | .closingServer, .nothing => some (threads.mainAt .closingDb)
  | .closingDb, .nothing => some ((threads.record .closedDb).mainAt .deletingMutex)
  | .deletingMutex, .nothing => some ((threads.record .deletedMutex).mainAt .returning)
  | .returning, .nothing => some (threads.mainAt .returned)
  | _, _ => none

/-- One step of a handler. -/
def handlerStep (number : Nat) (handler : Handler) (outside : Outside) (threads : Threads) :
    Option Threads :=
  match handler.stage, outside with
  | .created, .nothing =>
    let clientSocket := threads.clientSockets handler.slot
    some (threads.handlerAt number { handler with clientSocket } .looping)
  | .looping, .nothing =>
    some (threads.handlerAt number handler (if threads.running then .receiving else .leaving))
  | .receiving, .recv received =>
    some (threads.handlerAt number handler (if received then .answering else .leaving))
  | .answering, .query => some (threads.record .usedDb)
  | .answering, .replied => some (threads.handlerAt number handler .looping)
  | .leaving, .nothing =>
    if threads.clientsMutex = none then
      some ((threads.enterMutex (.handler number)).handlerAt number handler (.scanning 0))
    else none
  | .scanning index, .nothing =>
    if index < maxClients then
      if threads.clientSockets index = handler.clientSocket then
        some (threads.handlerAt number handler (.matched index))
      else some (threads.handlerAt number handler (.scanning (index + 1)))
    else some (threads.handlerAt number handler .unlocking)
  | .matched index, .nothing =>
    some ((threads.setSocket index 0).handlerAt number handler .unlocking)
  | .unlocking, .nothing => some (threads.leaveMutex.handlerAt number handler .closing)
  | .closing, .nothing =>
    some ((threads.closeSocket handler.clientSocket).handlerAt number handler .returned)
  | _, _ => none

/-! ### What a step can be -/

/-- The steps of `main`, one by one. -/
inductive MainMove (threads : Threads) : Threads → Prop where
  | tests (stand : threads.main = .looping) :
      MainMove threads (threads.mainAt (if threads.running then .accepting else .sweeping 0))
  | fails (stand : threads.main = .accepting) :
      MainMove threads (threads.mainAt (if threads.running then .looping else .sweeping 0))
  | accepts (socket : Socket) (stand : threads.main = .accepting) (nonzero : socket ≠ 0)
      (fresh : threads.isOpen socket = false) :
      MainMove threads ((threads.record (.accepted socket)).mainAt (.accepted socket))
  | enters (socket : Socket) (stand : threads.main = .accepted socket)
      (free : threads.clientsMutex = none) :
      MainMove threads ((threads.enterMutex .main).mainAt (.searching socket 0))
  | finds (socket : Socket) (index : Nat) (stand : threads.main = .searching socket index)
      (bound : index < maxClients) (free : threads.clientSockets index = 0) :
      MainMove threads (threads.mainAt (.vacant socket index))
  | passes (socket : Socket) (index : Nat) (stand : threads.main = .searching socket index)
      (bound : index < maxClients) :
      MainMove threads (threads.mainAt (.searching socket (index + 1)))
  | exhausts (socket : Socket) (index : Nat) (stand : threads.main = .searching socket index)
      (bound : ¬ index < maxClients) :
      MainMove threads (threads.mainAt (.searched socket index))
  | fills (socket : Socket) (index : Nat) (stand : threads.main = .vacant socket index) :
      MainMove threads ((threads.setSocket index socket).mainAt (.searched socket index))
  | leaves (socket : Socket) (index : Nat) (stand : threads.main = .searched socket index) :
      MainMove threads (threads.leaveMutex.mainAt (.creating socket index))
  | refuses (socket : Socket) (stand : threads.main = .creating socket maxClients) :
      MainMove threads ((threads.closeSocket socket).mainAt .looping)
  | creates (socket : Socket) (index : Nat) (stand : threads.main = .creating socket index)
      (place : index ≠ maxClients) :
      MainMove threads { threads with
        main := .looping
        handlers := threads.handlers ++ [⟨index, socket, 0, .created⟩] }
  | givesUp (socket : Socket) (index : Nat) (stand : threads.main = .creating socket index)
      (place : index ≠ maxClients) :
      MainMove threads
        ((threads.closeSocket (threads.clientSockets index)).mainAt (.clearing socket index))
  | clears (socket : Socket) (index : Nat) (stand : threads.main = .clearing socket index) :
      MainMove threads ((threads.setSocket index 0).mainAt .looping)
  | skips (index : Nat) (stand : threads.main = .sweeping index) (bound : index < maxClients)
      (free : threads.clientSockets index = 0) :
      MainMove threads (threads.mainAt (.sweeping (index + 1)))
  | meets (index : Nat) (stand : threads.main = .sweeping index) (bound : index < maxClients)
      (taken : threads.clientSockets index ≠ 0) :
      MainMove threads (threads.mainAt (.occupied index))
  | swept (index : Nat) (stand : threads.main = .sweeping index) (bound : ¬ index < maxClients) :
      MainMove threads (threads.mainAt .closingServer)
  | closes (index : Nat) (stand : threads.main = .occupied index) :
      MainMove threads
        ((threads.closeSocket (threads.clientSockets index)).mainAt (.sweeping (index + 1)))
  | closesServer (stand : threads.main = .closingServer) :
      MainMove threads (threads.mainAt .closingDb)
  | closesDb (stand : threads.main = .closingDb) :
      MainMove threads ((threads.record .closedDb).mainAt .deletingMutex)
  | deletesMutex (stand : threads.main = .deletingMutex) :
      MainMove threads ((threads.record .deletedMutex).mainAt .returning)
  | returns (stand : threads.main = .returning) : MainMove threads (threads.mainAt .returned)

theorem mainMove_of_step {outside : Outside} {before after : Threads}
    (stepped : mainStep outside before = some after) : MainMove before after := by
  unfold mainStep at stepped
  split at stepped
  case h_1 stand => exact Option.some.inj stepped ▸ .tests stand
  case h_2 stand => exact Option.some.inj stepped ▸ .fails stand
  case h_3 socket stand =>
    split at stepped
    · rename_i fresh
      exact Option.some.inj stepped ▸ .accepts socket stand fresh.1 fresh.2
    · cases stepped
  case h_4 socket stand =>
    split at stepped
    · rename_i free
      exact Option.some.inj stepped ▸ .enters socket stand free
    · cases stepped
  case h_5 socket index stand =>
    split at stepped
    · rename_i bound
      split at stepped
      · rename_i free
        exact Option.some.inj stepped ▸ .finds socket index stand bound free
      · exact Option.some.inj stepped ▸ .passes socket index stand bound
    · rename_i bound
      exact Option.some.inj stepped ▸ .exhausts socket index stand bound
  case h_6 socket index stand => exact Option.some.inj stepped ▸ .fills socket index stand
  case h_7 socket index stand => exact Option.some.inj stepped ▸ .leaves socket index stand
  case h_8 socket index stand =>
    split at stepped
    · rename_i full
      subst full
      exact Option.some.inj stepped ▸ .refuses socket stand
    · cases stepped
  case h_9 socket index stand =>
    split at stepped
    · cases stepped
    · rename_i place
      exact Option.some.inj stepped ▸ .creates socket index stand place
  case h_10 socket index stand =>
    split at stepped
    · cases stepped
    · rename_i place
      exact Option.some.inj stepped ▸ .givesUp socket index stand place
  case h_11 socket index stand => exact Option.some.inj stepped ▸ .clears socket index stand
  case h_12 index stand =>
    split at stepped
    · rename_i bound
      split at stepped
      · rename_i free
        exact Option.some.inj stepped ▸ .skips index stand bound free
      · rename_i taken
        exact Option.some.inj stepped ▸ .meets index stand bound taken
    · rename_i bound
      exact Option.some.inj stepped ▸ .swept index stand bound
  case h_13 index stand => exact Option.some.inj stepped ▸ .closes index stand
  case h_14 stand => exact Option.some.inj stepped ▸ .closesServer stand
  case h_15 stand => exact Option.some.inj stepped ▸ .closesDb stand
  case h_16 stand => exact Option.some.inj stepped ▸ .deletesMutex stand
  case h_17 stand => exact Option.some.inj stepped ▸ .returns stand
  case h_18 => cases stepped

/-- The steps of a handler, one by one. -/
inductive HandlerMove (threads : Threads) (number : Nat) (handler : Handler) : Threads → Prop where
  | reads (stage : handler.stage = .created) :
      HandlerMove threads number handler (threads.handlerAt number
        { handler with clientSocket := threads.clientSockets handler.slot } .looping)
  | tests (stage : handler.stage = .looping) :
      HandlerMove threads number handler (threads.handlerAt number handler
        (if threads.running then .receiving else .leaving))
  | receives (received : Bool) (stage : handler.stage = .receiving) :
      HandlerMove threads number handler (threads.handlerAt number handler
        (if received then .answering else .leaving))
  | queries (stage : handler.stage = .answering) :
      HandlerMove threads number handler (threads.record .usedDb)
  | replies (stage : handler.stage = .answering) :
      HandlerMove threads number handler (threads.handlerAt number handler .looping)
  | enters (stage : handler.stage = .leaving) (free : threads.clientsMutex = none) :
      HandlerMove threads number handler
        ((threads.enterMutex (.handler number)).handlerAt number handler (.scanning 0))
  | finds (index : Nat) (stage : handler.stage = .scanning index) (bound : index < maxClients)
      (holds : threads.clientSockets index = handler.clientSocket) :
      HandlerMove threads number handler (threads.handlerAt number handler (.matched index))
  | passes (index : Nat) (stage : handler.stage = .scanning index) (bound : index < maxClients)
      (other : threads.clientSockets index ≠ handler.clientSocket) :
      HandlerMove threads number handler
        (threads.handlerAt number handler (.scanning (index + 1)))
  | exhausts (index : Nat) (stage : handler.stage = .scanning index)
      (bound : ¬ index < maxClients) :
      HandlerMove threads number handler (threads.handlerAt number handler .unlocking)
  | clears (index : Nat) (stage : handler.stage = .matched index) :
      HandlerMove threads number handler
        ((threads.setSocket index 0).handlerAt number handler .unlocking)
  | leaves (stage : handler.stage = .unlocking) :
      HandlerMove threads number handler (threads.leaveMutex.handlerAt number handler .closing)
  | closes (stage : handler.stage = .closing) :
      HandlerMove threads number handler
        ((threads.closeSocket handler.clientSocket).handlerAt number handler .returned)

theorem handlerMove_of_step {outside : Outside} {before after : Threads} {number : Nat}
    {handler : Handler} (stepped : handlerStep number handler outside before = some after) :
    HandlerMove before number handler after := by
  unfold handlerStep at stepped
  split at stepped
  case h_1 stage => exact Option.some.inj stepped ▸ .reads stage
  case h_2 stage => exact Option.some.inj stepped ▸ .tests stage
  case h_3 received stage => exact Option.some.inj stepped ▸ .receives received stage
  case h_4 stage => exact Option.some.inj stepped ▸ .queries stage
  case h_5 stage => exact Option.some.inj stepped ▸ .replies stage
  case h_6 stage =>
    split at stepped
    · rename_i free
      exact Option.some.inj stepped ▸ .enters stage free
    · cases stepped
  case h_7 index stage =>
    split at stepped
    · rename_i bound
      split at stepped
      · rename_i holds
        exact Option.some.inj stepped ▸ .finds index stage bound holds
      · rename_i other
        exact Option.some.inj stepped ▸ .passes index stage bound other
    · rename_i bound
      exact Option.some.inj stepped ▸ .exhausts index stage bound
  case h_8 index stage => exact Option.some.inj stepped ▸ .clears index stage
  case h_9 stage => exact Option.some.inj stepped ▸ .leaves stage
  case h_10 stage => exact Option.some.inj stepped ▸ .closes stage
  case h_11 => cases stepped

/-- Whose turn it is. `signal_handler` clears `running` at any moment. -/
inductive Turn where
  | signal
  | main (outside : Outside)
  | handler (number : Nat) (outside : Outside)
  deriving DecidableEq

/-- One step of the process, which ends when `main` returns. -/
def Threads.step (threads : Threads) (turn : Turn) : Option Threads :=
  if threads.main = .returned then none
  else
    match turn with
    | .signal => some { threads with running := false }
    | .main outside => mainStep outside threads
    | .handler number outside =>
      (threads.handlers[number]?).bind fun handler => handlerStep number handler outside threads

/-- The steps as a transition system. -/
def ThreadStep (before : Threads) (turn : Turn) (after : Threads) : Prop :=
  before.step turn = some after

/-- A step is the signal, a step of `main` or a step of a handler, and `main` has not returned. -/
theorem step_cases {before after : Threads} {turn : Turn} (stepped : ThreadStep before turn after) :
    before.main ≠ .returned ∧
      (after = { before with running := false } ∨ MainMove before after ∨
        ∃ (number : Nat) (handler : Handler), before.handlers[number]? = some handler ∧
          HandlerMove before number handler after) := by
  unfold ThreadStep Threads.step at stepped
  split at stepped
  · cases stepped
  · rename_i alive
    refine ⟨alive, ?_⟩
    cases turn with
    | signal => exact .inl (Option.some.inj stepped).symm
    | main outside => exact .inr (.inl (mainMove_of_step stepped))
    | handler number outside =>
      obtain ⟨handler, found, moved⟩ := Option.bind_eq_some_iff.mp stepped
      exact .inr (.inr ⟨number, handler, found, handlerMove_of_step moved⟩)

/-- The state that a schedule of turns leads to. -/
def Threads.reached (turns : List Turn) : Threads :=
  (turns.foldlM Threads.step .start).getD .start

theorem runs_reached (turns : List Turn)
    (defined : (turns.foldlM Threads.step .start).isSome) :
    Runs ThreadStep .start turns (.reached turns) := by
  obtain ⟨threads, follows⟩ := Option.isSome_iff_exists.mp defined
  rw [Threads.reached, follows]
  exact Runs.of_foldlM follows

end SchoolMeals
