/-
This file gives the server's calls their effect and runs one request. SQLite
enforces the schema and otherwise does what the statement says, unless it
reports a fault of its own; a fault leaves the store as it was. What the source
does not contain stays open: the answers of NEIS, the faults, and what
`sqlite3_exec` makes of a text that is not one plain `INSERT` into `users`.

A session is a list of requests, each finished before the next, newest first.
-/

import SchoolMeals.Server

namespace SchoolMeals

open CText Interaction

/-- A failure SQLite reports on its own account: while preparing, or at the first step. -/
inductive Fault where
  | prepare | step
  deriving DecidableEq

/-- Everything outside the program that one request meets. Faults are given by the number of
the call within the request. -/
structure Surroundings where
  sqliteFault : Nat → Option Fault
  runScript : Store → Bytes → Bool × Store
  schoolCodes : Bytes → Option SchoolCodes
  meal : Bytes → Bytes → Bytes → Option Bytes
  meals : Bytes → Bytes → Bytes → Bytes → Option Bytes

/-- SQLite reports no fault at this call of the request. -/
def Surroundings.quiet (around : Surroundings) (call : Nat) : Bool :=
  (around.sqliteFault call).isNone

/-- The head of the statement `add_user` formats. -/
def insertUserHead : Bytes :=
  utf8 "INSERT INTO users (id, pw, role, edu_office, school_name) VALUES ("

/-- The statement that such a text stands for. -/
def insertUser (id pw role eduOffice schoolName : Bytes) : Statement :=
  .insert .users
    [(.id, id), (.pw, pw), (.role, role), (.eduOffice, eduOffice), (.schoolName, schoolName)]

/-- `sqlite3_exec` without a fault. -/
def execText (around : Surroundings) (store : Store) (text : Bytes) : Bool × Store :=
  match SqlText.readInsert insertUserHead 4 text with
  | some [id, pw, role, eduOffice, schoolName] =>
    let (result, after) := store.execute (insertUser id pw role eduOffice schoolName)
    (result.isDone, after)
  | _ => around.runScript store text

/-- The answer to one call and the store it leaves. -/
def respond (around : Surroundings) (fault : Option Fault) :
    (request : Call) → Store → request.Answer × Store
  | .sqlite statement, store =>
    match fault with
    | some .prepare => (.unprepared, store)
    | some .step => (if statement.prepares schema then .failed else .unprepared, store)
    | none => store.execute statement
  | .sqliteExec text, store =>
    match fault with
    | some _ => (false, store)
    | none => execText around store text
  | .resolveSchoolCode schoolName, store => (around.schoolCodes schoolName, store)
  | .getMealFromNeis eduOffice schoolCode date, store =>
    (around.meal eduOffice schoolCode date, store)
  | .getMealsPeriodFromNeis eduOffice schoolCode startDate endDate, store =>
    (around.meals eduOffice schoolCode startDate endDate, store)
  | .sendResponse _, store => ((), store)

/-! ### One request -/

/-- The store, the number of calls made and the replies sent. -/
structure World where
  store : Store
  calls : Nat
  sent : List Reply

/-- The world a request starts in. -/
def World.start (store : Store) : World := ⟨store, 0, []⟩

/-- One more call, which leaves this store. -/
def World.step (world : World) (store : Store) : World := ⟨store, world.calls + 1, world.sent⟩

/-- One more call, which sends this reply. -/
def World.send (world : World) (reply : Reply) : World :=
  ⟨world.store, world.calls + 1, world.sent ++ [reply]⟩

/-- The replies sent once a call is made. -/
def World.sentAfter (world : World) : Call → List Reply
  | .sendResponse reply => world.sent ++ [reply]
  | _ => world.sent

/-- The handler of a single run. -/
def answer (around : Surroundings) (request : Call) (world : World) : request.Answer × World :=
  let (given, store) := respond around (around.sqliteFault world.calls) request world.store
  (given, ⟨store, world.calls + 1, world.sentAfter request⟩)

/-- A request as it reaches the server. -/
structure Arrival where
  received : Bytes
  locals : Locals
  around : Surroundings

/-- One pass of the request loop. -/
def serve (arrival : Arrival) (store : Store) : World :=
  (Program.run (answer arrival.around) (handleClient arrival.locals arrival.received)
    (World.start store)).2

/-- The request was answered with success. -/
def World.Succeeds (world : World) : Prop := ∃ reply ∈ world.sent, reply.status = respSuccess

instance (world : World) : Decidable world.Succeeds := by
  unfold World.Succeeds
  infer_instance

/-! ### Sessions -/

/-- A request together with the replies it got. -/
structure Entry where
  arrival : Arrival
  replies : List Reply

/-- The store after a session from the empty schema. -/
def storeAfter : List Arrival → Store
  | [] => initDb
  | arrival :: earlier => (serve arrival (storeAfter earlier)).store

/-- The session with its replies. -/
def history : List Arrival → List Entry
  | [] => []
  | arrival :: earlier =>
    ⟨arrival, (serve arrival (storeAfter earlier)).sent⟩ :: history earlier

/-! ### A calm server -/

/-- Surroundings without faults, in which every school has the same codes. -/
def Surroundings.calm (codes : SchoolCodes) : Surroundings where
  sqliteFault _ := none
  runScript store _ := (false, store)
  schoolCodes _ := some codes
  meal _ _ _ := none
  meals _ _ _ _ := none

def Locals.zeroed : Locals := ⟨User.zero, User.zero, fun _ => ⟨[], [], [], []⟩⟩

/-- A request to a calm server. -/
def Arrival.calm (received : Bytes) : Arrival :=
  ⟨received, Locals.zeroed, Surroundings.calm ⟨utf8 "B10", utf8 "7010569"⟩⟩

/-! ### Rules for running the server -/

section Rules

variable (around : Surroundings) (world : World)

/-- SQLite reports no fault at the next call. -/
def World.quiet : Bool := around.quiet world.calls

@[simp] theorem World.step_calls (store : Store) : (world.step store).calls = world.calls + 1 := rfl
@[simp] theorem World.step_store (store : Store) : (world.step store).store = store := rfl
@[simp] theorem World.step_sent (store : Store) : (world.step store).sent = world.sent := rfl
@[simp] theorem World.send_store (reply : Reply) : (world.send reply).store = world.store := rfl
@[simp] theorem World.send_sent (reply : Reply) :
    (world.send reply).sent = world.sent ++ [reply] := rfl

@[simp] theorem run_sendResponse (status : Nat) (message data : Bytes) :
    Program.run (answer around) (sendResponse status message data) world =
      (some (), world.send ⟨status, message, data⟩) := rfl

@[simp] theorem run_resolveSchoolCode (schoolName : Bytes) :
    Program.run (answer around) (resolveSchoolCode schoolName) world =
      (some (around.schoolCodes schoolName), world.step world.store) := rfl

@[simp] theorem run_getMealFromNeis (eduOffice schoolCode date : Bytes) :
    Program.run (answer around) (getMealFromNeis eduOffice schoolCode date) world =
      (some (around.meal eduOffice schoolCode date), world.step world.store) := rfl

@[simp] theorem run_getMealsPeriodFromNeis (eduOffice schoolCode startDate endDate : Bytes) :
    Program.run (answer around)
        (getMealsPeriodFromNeis eduOffice schoolCode startDate endDate) world =
      (some (around.meals eduOffice schoolCode startDate endDate), world.step world.store) := rfl

theorem run_sqlite (statement : Statement) :
    Program.run (answer around) (sqlite statement) world =
      (some (respond around (around.sqliteFault world.calls) (.sqlite statement) world.store).1,
        world.step
          (respond around (around.sqliteFault world.calls) (.sqlite statement) world.store).2) :=
  rfl

theorem run_sqliteExec (text : Bytes) :
    Program.run (answer around) (sqliteExec text) world =
      (some (respond around (around.sqliteFault world.calls) (.sqliteExec text) world.store).1,
        world.step
          (respond around (around.sqliteFault world.calls) (.sqliteExec text) world.store).2) := rfl

/-- Without a fault a statement does what SQLite does with it. -/
theorem run_sqlite_quiet (statement : Statement) (quiet : world.quiet around = true) :
    Program.run (answer around) (sqlite statement) world =
      (some (world.store.execute statement).1, world.step (world.store.execute statement).2) := by
  have none : around.sqliteFault world.calls = none := Option.isNone_iff_eq_none.mp quiet
  rw [run_sqlite, none]
  rfl

/-- With a fault a statement reports no row, does not complete and changes nothing. -/
theorem run_sqlite_fault (statement : Statement) (fault : world.quiet around = false) :
    ∃ result : StepResult, (result = .unprepared ∨ result = .failed) ∧
      Program.run (answer around) (sqlite statement) world =
        (some result, world.step world.store) := by
  unfold World.quiet Surroundings.quiet at fault
  cases kind : around.sqliteFault world.calls with
  | none =>
    rw [kind] at fault
    cases fault
  | some kind' =>
    cases kind' with
    | prepare => exact ⟨.unprepared, Or.inl rfl, by rw [run_sqlite, kind]; rfl⟩
    | step =>
      refine ⟨if statement.prepares schema then .failed else .unprepared, ?_,
        by rw [run_sqlite, kind]; rfl⟩
      split
      · exact Or.inr rfl
      · exact Or.inl rfl

end Rules

end SchoolMeals
