/-
This file lets the passes of the clients overlap. While one client waits for its
reply, others read, send and receive; only the request of a pass reaches the
server, and whatever else a pass does keeps to its own wire. The server is taken
to serve a request when it arrives, as if one after the other. So the passes
might as well follow each other, and what holds of the service with one pass at
a time holds of the clients side by side, on the same ideal network.
-/

import SchoolMeals.EndToEnd
import SchoolMeals.Library.Overlap

namespace SchoolMeals

open CText Interaction Transition Overlap

/-! ### Passes as jobs -/

/-- A pass that has read its input, with what the server's stack and surroundings are when its
request is served. -/
structure Errand where
  input : PassInput
  array : ResponseArray
  locals : Locals
  around : Surroundings

/-- What `Wire.answer` does to the chunks of one client and to the store. -/
def answerErrand (errand : Errand) (request : ClientCall) (state : List Bytes × Store) :
    request.Answer × List Bytes × Store :=
  let answered := Wire.answer (serverReact errand.locals errand.around) request ⟨state.1, state.2⟩
  (answered.1, answered.2.incoming, answered.2.remote)

/-- The clients and their passes: a pass reads its input first, then makes its network calls, and
leaves the client for the next pass. -/
def clientOffice : Office Terminal Errand ClientCall ClientCall.Answer PassResult (List Bytes) Store
    where
  starts terminal errand program := terminal.client.running = true ∧
    (∃ rounds menuLocals, menuLocals.response = errand.array ∧
      readPass rounds menuLocals terminal.client = some errand.input) ∧
    program = errand.input.action.perform errand.array terminal.client.session
  own terminal := terminal.incoming
  ends _ errand result incoming := ⟨⟨result.session, errand.input.choice, errand.input.stdin,
    errand.input.action.goesOn⟩, incoming⟩
  answer := answerErrand

/-! ### What a pass shares -/

section Shares

variable (errand : Errand)

/-- Whatever is not sent keeps to the client. -/
theorem apart_of_silent (request : ClientCall) (silent : request.speaks = false)
    (incoming : List Bytes) : ∃ given middle, ∀ store : Store,
      answerErrand errand request (incoming, store) = (given, middle, store) := by
  cases request with
  | selectWrite => exact ⟨true, incoming, fun _ => rfl⟩
  | send data => cases silent
  | selectRead => exact ⟨!incoming.isEmpty, incoming, fun _ => rfl⟩
  | recv room =>
    cases incoming with
    | nil => exact ⟨some ⟨[], Nat.zero_le room⟩, [], fun _ => rfl⟩
    | cons chunk later =>
      exact ⟨some ⟨chunk.take room, List.length_take_le room chunk⟩,
        if chunk.length ≤ room then later else chunk.drop room :: later, fun _ => rfl⟩

theorem once_sendData {text : Bytes} (nonempty : text ≠ []) {next : Bool → Client PassResult}
    (listens : ∀ sent, Listens (next sent)) (incoming : List Bytes) :
    Once (answerErrand errand) (sendData text >>= next) incoming := by
  cases text with
  | nil => exact absurd rfl nonempty
  | cons byte data =>
    have ready : ∀ store : Store, answerErrand errand .selectWrite (incoming, store) =
        (true, incoming, store) := fun _ => rfl
    refine .apart ready (.shares fun store => ?_)
    have sentAll : sendLoop data.length ((byte :: data).drop (byte :: data).length) =
        .finished true := by
      rw [List.drop_length]
      cases data.length <;> rfl
    show ∃ result last, Alone (answerErrand errand)
      (sendLoop data.length ((byte :: data).drop (byte :: data).length) >>= next) _ result last
    rw [sentAll]
    exact alone_of_within (apart_of_silent errand) (listens true) _

/-- A request starts with its command. -/
theorem nonempty_of_sent {call : HandlerCall} {text : Bytes} (sent : call.sent = some text) :
    text ≠ [] := by
  cases call with
  | register id pw eduOffice schoolName =>
    have request : handleRegister id pw eduOffice schoolName = some text := sent
    rw [handleRegister] at request
    split at request
    · cases request
    · cases request
      exact ChangeReply.handleAddUser_ne_nil id pw eduOffice schoolName
  | login | addUser | updateUser | deleteUser | meal | mealsPeriod =>
    obtain rfl := Option.some.inj sent
    simp only [handleLogin, handleAddUser, handleUpdateUser, handleDeleteUser, requestMeal,
      requestMealsPeriod, List.append_assoc]
    exact ChangeReply.snprintf_ne_nil (by decide)

/-- A pass shares at most the sending of its request. -/
theorem once_perform (array : ResponseArray) (session : Session) (action : MenuAction)
    (incoming : List Bytes) :
    Once (answerErrand errand) (action.perform array session) incoming := by
  cases action with
  | calls call =>
    cases sent : call.sent with
    | none =>
      rw [MenuAction.perform, perform_unsent sent]
      exact .finished _ _
    | some text =>
      obtain ⟨next, same, listens⟩ := asks_perform sent array session
      rw [MenuAction.perform, same]
      exact once_sendData errand (nonempty_of_sent sent) listens incoming
  | logout | nothing | exit => exact .finished _ _

theorem run_answerErrand {Result : Type} (program : Client Result) (incoming : List Bytes)
    (store : Store) :
    Program.run (answerErrand errand) program (incoming, store) =
      ((Program.run (Wire.answer (serverReact errand.locals errand.around)) program
          ⟨incoming, store⟩).1,
        (Program.run (Wire.answer (serverReact errand.locals errand.around)) program
          ⟨incoming, store⟩).2.incoming,
        (Program.run (Wire.answer (serverReact errand.locals errand.around)) program
          ⟨incoming, store⟩).2.remote) :=
  Program.run_view (fun wire : Wire Store => (wire.incoming, wire.remote))
    (fun _ _ => rfl) program ⟨incoming, store⟩

end Shares

/-! ### Passes that follow each other -/

section Serial

variable {Index : Type}

def serviceOf (serial : Serial Index Terminal Store) : Service Index :=
  ⟨serial.parties, serial.shared⟩

def serialOf (service : Service Index) : Serial Index Terminal Store :=
  ⟨service.terminals, service.store⟩

def passOf (done : Done Index Errand PassResult) : ServicePass Index :=
  ⟨done.index, done.job.input.action, done.result.told, done.job.around⟩

/-- The clients side by side, each between two passes or within one. -/
abbrev Clients (Index : Type) : Type :=
  State Index Terminal Errand ClientCall ClientCall.Answer PassResult (List Bytes) Store

/-- All clients are between two passes. -/
abbrev Service.clients (service : Service Index) : Clients Index := (serialOf service).state

variable [DecidableEq Index]

/-- A job that is done in one go is a pass of the service. -/
theorem serviceStep_of_serialStep {before after : Serial Index Terminal Store}
    {done : Done Index Errand PassResult} (step : SerialStep clientOffice before done after) :
    ServiceStep (serviceOf before) (passOf done) (serviceOf after) := by
  cases step with
  | @job index errand program result last store starts ran =>
    obtain ⟨running, ⟨rounds, menuLocals, same, reads⟩, rfl⟩ := starts
    have walked := (run_answerErrand errand _ _ _).symm.trans ran
    generalize outcome : Program.run (Wire.answer (serverReact errand.locals errand.around)) _ _ =
      served at walked
    obtain ⟨given, incoming, remote⟩ := served
    cases walked
    rw [← same] at outcome
    exact .pass running reads outcome

theorem serialStep_of_serviceStep {before after : Service Index} {pass : ServicePass Index}
    (step : ServiceStep before pass after) : ∃ done, passOf done = pass ∧
      SerialStep clientOffice (serialOf before) done (serialOf after) := by
  cases step with
  | @pass index rounds menuLocals locals around input result wire running reads ran =>
    refine ⟨⟨index, ⟨input, menuLocals.response, locals, around⟩, result⟩, rfl,
      .job ⟨running, ⟨rounds, menuLocals, rfl, reads⟩, rfl⟩ ?_⟩
    have walked := run_answerErrand ⟨input, menuLocals.response, locals, around⟩
      (input.action.perform menuLocals.response (before.terminals index).client.session)
      (before.terminals index).incoming before.store
    rw [ran] at walked
    exact walked

end Serial

/-! ### Whole runs -/

section Runs

variable {Index : Type} [DecidableEq Index] {start : Service Index}
  {events : List (Overlap.Event Index Errand PassResult)} {state : Clients Index}

/-- The passes that are done, in their order. -/
def passesOf (notes : Notes Index Errand PassResult) : List (ServicePass Index) :=
  (notes.filterMap Prod.snd).map passOf

theorem single_clientOffice (party : Terminal) (errand : Errand) (program : Client PassResult)
    (starts : clientOffice.starts party errand program) :
    Once (clientOffice.answer errand) program (clientOffice.own party) := by
  obtain ⟨-, -, rfl⟩ := starts
  exact once_perform errand _ _ _ _

/-- A run of overlapping passes, with the run of the service that its passes make. -/
theorem matched_of_runs (runs : Runs (Overlap.Step clientOffice) start.clients events state) :
    ∃ (notes : Notes Index Errand PassResult) (service : Service Index),
      notes.map Prod.fst = events ∧ Between notes ∧
      Runs ServiceStep start (passesOf notes) service ∧
      Matches clientOffice state (serialOf service) events (notes.filterMap Prod.snd) := by
  obtain ⟨notes, serial, same, done, agree, between⟩ := serializes single_clientOffice runs
  exact ⟨notes, serviceOf serial, same, between,
    done.simulate serviceOf passOf fun _ _ _ => serviceStep_of_serialStep, agree⟩

/-- However the passes of the clients overlap, they might as well have followed each other, each
done between its beginning and its end: with the same store, and for whoever is between two passes
with the same client, the same wire and the same results. -/
theorem serialized_of_overlap (runs : Runs (Overlap.Step clientOffice) start.clients events state) :
    ∃ (notes : Notes Index Errand PassResult) (service : Service Index),
      notes.map Prod.fst = events ∧ Between notes ∧
      Runs ServiceStep start (passesOf notes) service ∧
      service.store = state.shared ∧
      ∀ index terminal, state.phases index = .free terminal →
        service.terminals index = terminal ∧
          doneBy index (notes.filterMap Prod.snd) = endedBy index events := by
  obtain ⟨notes, service, same, between, done, agree⟩ := matched_of_runs runs
  exact ⟨notes, service, same, between, done, agree.shared.symm, fun _ _ free => agree.free free⟩

/-- The surroundings of every pass that is begun are regular. -/
def RegularErrands (events : List (Overlap.Event Index Errand PassResult)) : Prop :=
  ∀ index errand, .begins index errand ∈ events → errand.around.Regular

variable {choice : Index → Int} {stdin : Index → Bytes}

end Runs

/-! ### A sample run -/

/-- One client registers a user and the other one logs in with it, both at once. -/
structure Overlapped (one two : Done Bool Errand PassResult)
    (events : List (Overlap.Event Bool Errand PassResult))
    (state : Clients Bool) : Prop where
  registers : passOf one = registrationPass
  enters : passOf two = entryPass
  regular : RegularErrands (.begins one.index one.job :: .begins two.index two.job :: events)
  ended : .ends one.index one.job one.result ∈ events ∧
    .ends two.index two.job two.result ∈ events
  free : ∀ index, ∃ terminal, state.phases index = .free terminal
  runs : Runs (Overlap.Step clientOffice) (Service.start (fun _ => 0) sampleStdin).clients
    (.begins one.index one.job :: .begins two.index two.job :: events) state

theorem regular_sampleErrand {done : Done Bool Errand PassResult} {pass : ServicePass Bool}
    (is : passOf done = pass) (same : pass.around = registrationPass.around) :
    done.job.around.Regular := by
  have around : done.job.around = pass.around := congrArg ServicePass.around is
  rw [around, same]
  exact regular_calm

theorem overlapped_sample : ∃ one two events state, Overlapped one two events state := by
  obtain ⟨middle, service, -, runs, step, -⟩ := runs_entryPass
  obtain ⟨one, registers, first⟩ := serialStep_of_serviceStep runs.singleton
  obtain ⟨two, enters, second⟩ := serialStep_of_serviceStep step
  have apart : two.index ≠ one.index := by
    rw [show one.index = true from congrArg ServicePass.index registers,
      show two.index = false from congrArg ServicePass.index enters]
    decide
  obtain ⟨events, ended, endedToo, quiet, whole⟩ := overlaps first second apart
  refine ⟨one, two, events, _, registers, enters, ?_, ⟨ended, endedToo⟩, fun index => ⟨_, rfl⟩,
    whole⟩
  rintro index errand member
  rcases List.mem_cons.mp member with same | member
  · cases same
    exact regular_sampleErrand registers rfl
  · rcases List.mem_cons.mp member with same | member
    · cases same
      exact regular_sampleErrand enters rfl
    -- Behind the two beginnings there are calls and ends only.
    · exact absurd rfl (quiet _ member _ _)

/-- Two passes that overlap might as well have followed each other. -/
theorem serialized_sample : ∃ one two events state, Overlapped one two events state ∧
    ∃ (notes : Notes Bool Errand PassResult) (service : Service Bool),
      notes.map Prod.fst = .begins one.index one.job :: .begins two.index two.job :: events ∧
      Between notes ∧
      Runs ServiceStep (.start (fun _ => 0) sampleStdin) (passesOf notes) service ∧
      service.store = state.shared := by
  obtain ⟨one, two, events, state, overlapped⟩ := overlapped_sample
  obtain ⟨notes, service, same, between, done, shared, -⟩ := serialized_of_overlap overlapped.runs
  exact ⟨one, two, events, state, overlapped, notes, service, same, between, done, shared⟩

end SchoolMeals
