/-
This file runs one client and its server side by side. The handler of the client
sends a request and then receives once: it accepts what has arrived, or its
`select` times out and it returns to the menu. The server takes the requests in
their order and answers after any delay, and an answer takes any time to arrive.
An answer says nothing about the request it belongs to, so a handler accepts the
answer to its own request exactly when no answer to a request given up before is
still to come.
-/

import SchoolMeals.Network
import SchoolMeals.Answering
import SchoolMeals.Library.Turns

namespace SchoolMeals

open CText Interaction Transition

/-! ### The connection -/

/-- A message between client and server, with the number of the handler call it belongs to. The
number is not part of the message: no end reads it. -/
structure Message where
  call : Nat
  text : Bytes

/-- The store of the server, the handler call that waits for its reply, and the messages on
their way: requests not yet handled, replies not yet arrived, and replies not yet read. -/
structure Connection where
  store : Store
  calls : Nat
  waiting : Option Nat
  requests : List Message
  replies : List Message
  arrived : List Message

def Connection.start (store : Store) : Connection := ⟨store, 0, none, [], [], []⟩

/-- What the handler that waits makes of the replies in its socket. -/
def Connection.receive (connection : Connection) : Option (Bool × Bytes) × Wire Unit :=
  Program.run (Wire.answer fun _ remote => ([], remote)) receiveResponse
    ⟨connection.arrived.map Message.text, ()⟩

inductive ConnectionEvent where
  | send (text : Bytes)
  | serve (call : Nat) (replies : List Reply)
  | deliver
  | accept (call answered : Nat)
  | giveUp (call : Nat)

/-- A message is one chunk; its text is never empty and fits the buffer of `recv`. -/
def IsChunk (text : Bytes) : Prop := text ≠ [] ∧ text.length ≤ bufferSize - 1

inductive ConnectionStep : Connection → ConnectionEvent → Connection → Prop where
  | send {connection : Connection} {text : Bytes} (free : connection.waiting = none)
      (chunk : IsChunk text) :
      ConnectionStep connection (.send text)
        { connection with
          calls := connection.calls + 1
          waiting := some connection.calls
          requests := connection.requests ++ [⟨connection.calls, text⟩] }
  | serve {connection : Connection} {request : Message} {rest : List Message} {locals : Locals}
      {around : Surroundings} {served : World} (queued : connection.requests = request :: rest)
      (serves : serve ⟨request.text, locals, around⟩ connection.store = served) :
      ConnectionStep connection (.serve request.call served.sent)
        { connection with
          store := served.store
          requests := rest
          replies := connection.replies ++ served.sent.map fun reply => ⟨request.call, reply.text⟩ }
  | deliver {connection : Connection} {reply : Message} {rest : List Message}
      (queued : connection.replies = reply :: rest) :
      ConnectionStep connection .deliver
        { connection with
          replies := rest
          arrived := connection.arrived ++ [reply] }
  | accept {connection : Connection} {call : Nat} {reply : Message} {rest : List Message}
      {response : Bytes} (waits : connection.waiting = some call)
      (queued : connection.arrived = reply :: rest)
      (received : connection.receive = (some (true, response), ⟨rest.map Message.text, ()⟩)) :
      ConnectionStep connection (.accept call reply.call)
        { connection with
          waiting := none
          arrived := rest }
  | giveUp {connection : Connection} {call : Nat} {response : Bytes} {wire : Wire Unit}
      (waits : connection.waiting = some call)
      (received : connection.receive = (some (false, response), wire)) :
      ConnectionStep connection (.giveUp call)
        { connection with waiting := none }

/-! ### Requests and replies keep their order -/

/-- A request is answered at most once. -/
theorem length_sent_le (arrival : Arrival) (store : Store) :
    (serve arrival store).sent.length ≤ 1 := by
  show (outcomeOf arrival.around store
    (handleClient arrival.locals arrival.received)).replies.length ≤ 1
  unfold handleClient
  cases parseRequest arrival.received with
  | none => exact Nat.le_refl 1
  | some request =>
    show (outcomeOf arrival.around store (dispatch arrival.locals request)).replies.length ≤ 1
    rw [answers_dispatch arrival.around store arrival.locals request]
    split
    · exact Nat.zero_le 1
    · exact Nat.le_refl 1

/-- The calls whose reply is still to be read, in the order in which they were made. -/
def Connection.turns (connection : Connection) : Turns.State where
  calls := connection.calls
  waiting := connection.waiting
  queue := (connection.arrived ++ (connection.replies ++ connection.requests)).map Message.call

def ConnectionEvent.turn : ConnectionEvent → Turns.Event
  | .send _ => .call
  | .serve call [] => .drop call
  | .serve _ (_ :: _) => .idle
  | .deliver => .idle
  | .accept call answered => .accept call answered
  | .giveUp call => .giveUp call

/-- The connection is an instance of calls that take turns. -/
theorem turns_step (before : Connection) (event : ConnectionEvent) (after : Connection)
    (step : ConnectionStep before event after) :
    Turns.Step before.turns event.turn after.turns := by
  cases step with
  | send free chunk =>
    have called : Turns.Step before.turns .call _ := .call free
    simpa [Connection.turns, ConnectionEvent.turn] using called
  | @serve request rest locals around served queued serves =>
    have atMostOnce : served.sent.length ≤ 1 := serves ▸ length_sent_le _ _
    have waiting : before.turns.queue =
        (before.arrived ++ before.replies).map Message.call ++ request.call ::
          rest.map Message.call := by
      simp [Connection.turns, queued]
    rcases replied : served.sent with _ | ⟨reply, _ | ⟨second, more⟩⟩
    · have dropped : Turns.Step before.turns (.drop request.call) _ := .drop waiting
      simpa [Connection.turns, ConnectionEvent.turn] using dropped
    · have stays : Turns.Step before.turns .idle _ := .idle
      simpa [Connection.turns, ConnectionEvent.turn, queued] using stays
    · rw [replied] at atMostOnce
      exact absurd atMostOnce (by simp)
  | deliver queued =>
    have stays : Turns.Step before.turns .idle _ := .idle
    simpa [Connection.turns, ConnectionEvent.turn, queued] using stays
  | @accept call reply rest response waits queued received =>
    have first : before.turns.queue = reply.call ::
        (rest ++ (before.replies ++ before.requests)).map Message.call := by
      simp [Connection.turns, queued]
    exact .accept waits first
  | giveUp waits _ => exact .giveUp waits

theorem turns_runs {store : Store} {events : List ConnectionEvent} {last : Connection}
    (runs : Runs ConnectionStep (Connection.start store) events last) :
    Runs Turns.Step Turns.start (events.map ConnectionEvent.turn) last.turns :=
  runs.simulate Connection.turns ConnectionEvent.turn turns_step

/-! ### Whose reply a handler accepts -/

/-- Every handler accepts the reply to the request it sent. -/
def AcceptsOwn (events : List ConnectionEvent) : Prop :=
  ∀ call answered, .accept call answered ∈ events → answered = call

/-- When a handler accepts a reply, the server has handled every request given up before, and has
answered none of them. -/
def NoneLate (events : List ConnectionEvent) : Prop :=
  ∀ before call answered, before ++ [.accept call answered] <+: events →
    ∀ late, .giveUp late ∈ before → .serve late [] ∈ before

@[simp]
theorem turn_eq_accept_iff (event : ConnectionEvent) (call answered : Nat) :
    event.turn = .accept call answered ↔ event = .accept call answered := by
  rcases event with _ | ⟨_, _ | _⟩ | _ | _ | _ <;> simp [ConnectionEvent.turn]

@[simp]
theorem turn_eq_giveUp_iff (event : ConnectionEvent) (call : Nat) :
    event.turn = .giveUp call ↔ event = .giveUp call := by
  rcases event with _ | ⟨_, _ | _⟩ | _ | _ | _ <;> simp [ConnectionEvent.turn]

@[simp]
theorem turn_eq_drop_iff (event : ConnectionEvent) (call : Nat) :
    event.turn = .drop call ↔ event = .serve call [] := by
  rcases event with _ | ⟨_, _ | _⟩ | _ | _ | _ <;> simp [ConnectionEvent.turn]

theorem acceptsOwn_iff (events : List ConnectionEvent) :
    AcceptsOwn events ↔ Turns.Paired (events.map ConnectionEvent.turn) := by
  simp [AcceptsOwn, Turns.Paired]

theorem noneLate_iff (events : List ConnectionEvent) :
    NoneLate events ↔ Turns.Settled (events.map ConnectionEvent.turn) := by
  constructor
  · rintro noneLate before call answered ⟨later, split⟩ late gaveUp
    obtain ⟨front, rest, rfl, image, _⟩ := List.map_eq_append_iff.mp split.symm
    obtain ⟨first, newest, rfl, rfl, isLast⟩ := List.map_eq_append_iff.mp image
    obtain ⟨event, rfl, isAccept⟩ := List.map_eq_singleton_iff.mp isLast
    obtain rfl := (turn_eq_accept_iff event call answered).mp isAccept
    have silent := noneLate first call answered (List.prefix_append _ _) late
    simp only [List.mem_map, turn_eq_giveUp_iff, exists_eq_right, turn_eq_drop_iff] at gaveUp ⊢
    exact silent gaveUp
  · intro settled before call answered isPrefix late gaveUp
    have image := settled (before.map ConnectionEvent.turn) call answered
      (by simpa [ConnectionEvent.turn] using isPrefix.map ConnectionEvent.turn) late
    simp only [List.mem_map, turn_eq_giveUp_iff, exists_eq_right, turn_eq_drop_iff] at image
    exact image gaveUp

/-- Every handler accepts its own reply exactly when none accepts one while another is late. -/
theorem acceptsOwn_iff_noneLate {store : Store} {events : List ConnectionEvent} {last : Connection}
    (runs : Runs ConnectionStep (Connection.start store) events last) :
    AcceptsOwn events ↔ NoneLate events := by
  rw [acceptsOwn_iff, noneLate_iff]
  exact Turns.paired_iff_settled (turns_runs runs)

/-! ### Two runs -/

/-- One reply to a request. -/
theorem step_serve {connection : Connection} {call : Nat} {rest : List Message} {reply : Reply}
    (arrival : Arrival) (queued : connection.requests = ⟨call, arrival.received⟩ :: rest)
    (sent : (serve arrival connection.store).sent = [reply]) :
    ∃ store, ConnectionStep connection (.serve call [reply])
      { connection with
        store := store
        requests := rest
        replies := connection.replies ++ [⟨call, reply.text⟩] } := by
  have step := ConnectionStep.serve queued (rfl : serve arrival connection.store = _)
  rw [sent] at step
  exact ⟨_, step⟩

/-- A reply that has arrived is accepted. -/
theorem step_accept {connection : Connection} {call owner : Nat} {reply : Reply}
    {rest : List Message} (waits : connection.waiting = some call) (wellFormed : reply.WellFormed)
    (queued : connection.arrived = ⟨owner, reply.text⟩ :: rest) :
    ConnectionStep connection (.accept call owner)
      { connection with
        waiting := none
        arrived := rest } := by
  have received : connection.receive = (some (true, reply.text), ⟨rest.map Message.text, ()⟩) := by
    rw [Connection.receive, queued]
    exact receives_chunk _ _ () wellFormed.text_eq.2.1 wellFormed.text_eq.2.2 wellFormed.complete
  exact .accept waits queued received

/-- Without a reply in the socket the handler gives up. -/
theorem step_giveUp {connection : Connection} {call : Nat}
    (waits : connection.waiting = some call) (empty : connection.arrived = []) :
    ConnectionStep connection (.giveUp call) { connection with waiting := none } := by
  have received : connection.receive = (some (false, responseTimedOut), ⟨[], ()⟩) := by
    rw [Connection.receive, empty]
    rfl
  exact .giveUp waits received

def sampleMealRequest : Bytes := requestMeal (utf8 "B10") (utf8 "7010569") (utf8 "20240603")

def sampleDeletion : Bytes := requestText cmdDelete [utf8 "user1"]

def sampleMealReply : Reply := failure errMealNotFound

/-- A meal is asked for and the reply is accepted. -/
def sampleEvents : List ConnectionEvent :=
  [.send sampleMealRequest, .serve 0 [sampleMealReply], .deliver, .accept 0 0]

/-- NEIS is slow: the handler gives up, and the next one accepts the reply about the meal. -/
def lateEvents : List ConnectionEvent :=
  [.send sampleMealRequest, .giveUp 0, .send sampleDeletion, .serve 0 [sampleMealReply], .deliver,
    .accept 1 0]

/-- The request of the first handler call is sent. -/
def sampleSent : Connection := ⟨initDb, 1, some 0, [⟨0, sampleMealRequest⟩], [], []⟩

theorem runs_sampleSent :
    Runs ConnectionStep (.start initDb) [.send sampleMealRequest] sampleSent :=
  Runs.nil.snoc (.send rfl ⟨by decide, by decide⟩)

/-- The second request is sent while the first is on its way. -/
def lateSent : Connection :=
  ⟨initDb, 2, some 1, [⟨0, sampleMealRequest⟩, ⟨1, sampleDeletion⟩], [], []⟩

theorem runs_lateSent : Runs ConnectionStep (.start initDb)
    [.send sampleMealRequest, .giveUp 0, .send sampleDeletion] lateSent :=
  (runs_sampleSent.snoc (step_giveUp rfl rfl)).snoc (.send rfl ⟨by decide, by decide⟩)

theorem sampleMealRequest_answered :
    (serve (.calm sampleMealRequest) initDb).sent = [sampleMealReply] := by
  decide

theorem sampleMealReply_wellFormed : sampleMealReply.WellFormed :=
  ⟨by decide, by decide, by decide⟩

theorem runs_sampleEvents : ∃ last, Runs ConnectionStep (.start initDb) sampleEvents last := by
  have queued : sampleSent.requests = ⟨0, (Arrival.calm sampleMealRequest).received⟩ :: [] := rfl
  obtain ⟨store, served⟩ := step_serve (.calm sampleMealRequest) queued sampleMealRequest_answered
  exact ⟨_, ((runs_sampleSent.snoc served).snoc (.deliver rfl)).snoc
    (step_accept rfl sampleMealReply_wellFormed rfl)⟩

theorem runs_lateEvents : ∃ last, Runs ConnectionStep (.start initDb) lateEvents last := by
  have queued : lateSent.requests =
      ⟨0, (Arrival.calm sampleMealRequest).received⟩ :: [⟨1, sampleDeletion⟩] := rfl
  obtain ⟨store, served⟩ := step_serve (.calm sampleMealRequest) queued sampleMealRequest_answered
  exact ⟨_, ((runs_lateSent.snoc served).snoc (.deliver rfl)).snoc
    (step_accept rfl sampleMealReply_wellFormed rfl)⟩

/-- A handler that waits for its reply accepts it. -/
theorem acceptsOwn_sample : AcceptsOwn sampleEvents ↔ NoneLate sampleEvents :=
  runs_sampleEvents.elim fun _ runs => acceptsOwn_iff_noneLate runs

/-- A deletion is reported as a meal that was not found. -/
theorem accepts_late : (∃ last, Runs ConnectionStep (.start initDb) lateEvents last) ∧
    ¬ AcceptsOwn lateEvents :=
  ⟨runs_lateEvents, fun acceptsOwn => absurd (acceptsOwn 1 0 (by simp [lateEvents])) (by decide)⟩

end SchoolMeals
