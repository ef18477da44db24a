/-
This file puts the clients and the server together. In a pass a client sends at
most one request; the server answers it with one reply or none, and the client
has taken the reply off the wire when its pass ends. What a pass tells its user
and what it leaves in the store are said here, call by call, for a store that
holds accounts and nothing else.

The clients are those that the server has accepted, so none of them is refused
at `MAX_CLIENTS`, and the network between them is ideal: the server serves a
request within the client's own call of `send`, a reply is one chunk, and it is
there before the client waits for it. Split replies, late ones and refused
clients have files of their own.
-/

import SchoolMeals.Conduct
import SchoolMeals.OwnSchool
import SchoolMeals.Registration

namespace SchoolMeals

open CText Interaction Relational

/-! ### The clients and their server -/

/-- A client, with the chunks on their way to it. -/
structure Terminal where
  client : ClientState
  incoming : List Bytes

/-- The clients, and the store of the server they all talk to. -/
structure Service (Index : Type) where
  terminals : Index → Terminal
  store : Store

def Service.start {Index : Type} (choice : Index → Int) (stdin : Index → Bytes) : Service Index :=
  ⟨fun index => ⟨.start (choice index) (stdin index), []⟩, initDb⟩

/-- A pass of one of the clients: what it came to, whether it told its user of a success, and what
SQLite and NEIS did meanwhile. -/
structure ServicePass (Index : Type) where
  index : Index
  action : MenuAction
  told : Bool
  around : Surroundings

/-- The passes of the clients, one at a time. -/
inductive ServiceStep {Index : Type} [DecidableEq Index] :
    Service Index → ServicePass Index → Service Index → Prop where
  | pass {service : Service Index} {index : Index} {rounds : Nat} {menuLocals : MenuLocals}
      {locals : Locals} {around : Surroundings} {input : PassInput} {result : PassResult}
      {wire : Wire Store} (running : (service.terminals index).client.running = true)
      (reads : readPass rounds menuLocals (service.terminals index).client = some input)
      (ran : Program.run (Wire.answer (serverReact locals around))
        (input.action.perform menuLocals.response (service.terminals index).client.session)
        ⟨(service.terminals index).incoming, service.store⟩ = (some result, wire)) :
      ServiceStep service ⟨index, input.action, result.told, around⟩
        ⟨Function.update service.terminals index
          ⟨⟨result.session, input.choice, input.stdin, input.action.goesOn⟩, wire.incoming⟩,
          wire.remote⟩

/-! ### What the server reads -/

/-- The operands the server finds in the request of a call. -/
def HandlerCall.read (call : HandlerCall) : List Bytes :=
  CText.fields cmdDelimiter (trailing cmdDelimiter call.fields)

/-- The command is the first field, whatever the operands are. -/
theorem fields_command {command : Bytes} (isCommand : IsToken cmdDelimiter command)
    (operands : List Bytes) :
    CText.fields cmdDelimiter (requestText command operands) =
      command :: CText.fields cmdDelimiter (trailing cmdDelimiter operands) := by
  cases operands with
  | nil =>
    rw [requestText, show trailing cmdDelimiter [] = [] from rfl, List.append_nil,
      fields_singleton isCommand, fields_nil]
  | cons first operands =>
    rw [requestText, trailing_cons, List.append_assoc cmdDelimiter, ← List.append_assoc command,
      fields_delimited isCommand, fields_gap _ fun _ member => member]

/-- A token comes through as it is, whatever stands behind it. -/
theorem fields_trailing_cons {token : Bytes} (isToken : IsToken cmdDelimiter token)
    (later : List Bytes) :
    CText.fields cmdDelimiter (trailing cmdDelimiter (token :: later)) =
      token :: CText.fields cmdDelimiter (trailing cmdDelimiter later) := by
  rw [trailing_cons, List.append_assoc, fields_gap _ fun _ member => member]
  exact fields_command isToken later

section Sent

variable {session : Session} {call : HandlerCall} {text : Bytes}

theorem parseRequest_sent (allowed : call.Allowed session) (ends : session.Ends)
    (sent : call.sent = some text) :
    parseRequest text = some ⟨call.command, bindOperands call.command call.read⟩ := by
  have operands := ends_operands allowed ends
  have zeroFree : 0 ∉ requestText call.command call.fields :=
    zeroFree_requestText (HandlerCall.isToken_command call).2
      (HandlerCall.zeroFree_fields fun operand member => (operands operand member).1)
  refine parseRequest_of_fields ?_
  rw [HandlerCall.sent_eq sent (fits_of_ends operands), cString_of_zeroFree _ zeroFree]
  exact fields_command (HandlerCall.isToken_command call).1 call.fields

/-- The server finds what it looks for in the request of a user who is added, whatever school was
typed. -/
theorem read_account {id pw eduOffice schoolName : Bytes} (idToken : id ≠ [] ∧ 47 ∉ id)
    (pwToken : pw ≠ [] ∧ 47 ∉ pw) (officeToken : eduOffice ≠ [] ∧ 47 ∉ eduOffice) :
    CText.fields cmdDelimiter (trailing cmdDelimiter [id, pw, eduOffice, schoolName]) =
      id :: pw :: eduOffice :: CText.fields cmdDelimiter schoolName := by
  rw [fields_trailing_cons ((isToken_iff id).mpr idToken),
    fields_trailing_cons ((isToken_iff pw).mpr pwToken),
    fields_trailing_cons ((isToken_iff eduOffice).mpr officeToken), trailing_cons,
    List.append_assoc, fields_gap _ fun _ member => member,
    show trailing cmdDelimiter [] = [] from rfl, List.append_nil]

end Sent

/-! ### What the client hears -/

/-- What `receive_response` makes of the reply, or of none. -/
def heard (reply : Option Reply) : Bool × Bytes :=
  (reply.map fun reply => (true, reply.text)).getD (false, responseTimedOut)

section Heard

variable {locals : Locals} {around : Surroundings} {store : Store} {request : Bytes}
  {reply : Option Reply}

/-- Behind a request nothing is left on the wire. -/
theorem receives_served (wellFormed : ∀ given ∈ reply, given.WellFormed)
    (sent : (serve ⟨request, locals, around⟩ store).sent = reply.toList) :
    Program.run (Wire.answer (serverReact locals around)) receiveResponse
        (Wire.deliver (serverReact locals around) ⟨[], store⟩ request) =
      (some (heard reply), ⟨[], (serve ⟨request, locals, around⟩ store).store⟩) := by
  have delivered : Wire.deliver (serverReact locals around) ⟨[], store⟩ request =
      ⟨reply.toList.map Reply.text, (serve ⟨request, locals, around⟩ store).store⟩ := by
    rw [Wire.deliver, serverReact, sent]
    rfl
  rw [delivered]
  cases reply with
  | none => rfl
  | some reply =>
    have given := wellFormed reply rfl
    exact receives_chunk (serverReact locals around) [] _ given.text_eq.2.1 given.text_eq.2.2
      given.complete

/-- A call that ends with what it makes of an exchange, and keeps the session. -/
theorem run_exchange_served {Result : Type} (nonempty : request ≠ []) (unsent unanswered : Result)
    (read : Bytes → Result) (next : Result → PassResult)
    (wellFormed : ∀ given ∈ reply, given.WellFormed)
    (sent : (serve ⟨request, locals, around⟩ store).sent = reply.toList) :
    Program.run (Wire.answer (serverReact locals around))
        (exchange request unsent unanswered read >>= fun result => .finished (next result))
        ⟨[], store⟩ =
      (some (next ((reply.map fun reply => read reply.text).getD unanswered)),
        ⟨[], (serve ⟨request, locals, around⟩ store).store⟩) := by
  have ran := run_exchange (serverReact locals around) unsent unanswered read nonempty
    (receives_served wellFormed sent)
  rw [Program.run_bind_of_some _ _ ran]
  cases reply <;> rfl

end Heard

/-! ### A store of accounts -/

/-- NEIS finds codes that a registration can keep, and the meals it finds are strings. -/
structure Surroundings.Regular (around : Surroundings) : Prop where
  codes : ∀ schoolName, ∀ codes ∈ around.schoolCodes schoolName, codes.Extractable
  meal : ∀ eduCode schoolCode date, ∀ text ∈ around.meal eduCode schoolCode date, 0 ∉ text
  meals : ∀ eduCode schoolCode startDate endDate,
    ∀ text ∈ around.meals eduCode schoolCode startDate endDate, 0 ∉ text

/-- The users of the store are these accounts, and nobody is linked to anybody. -/
structure Keeps (store : Store) (accounts : Bytes → Option Account) : Prop where
  row : ∀ id, userRow store id = (accounts id).map (accountRow id)
  extractable : ∀ id account, accounts id = some account → account.2.Extractable
  children : store.tables .children = []

theorem keeps_initDb : Keeps initDb fun _ => none := ⟨fun _ => rfl, nofun, rfl⟩

theorem Keeps.unreferenced {store : Store} {accounts : Bytes → Option Account}
    (keeps : Keeps store accounts) (id : Bytes) : isReferenced store id = false := by
  rw [isReferenced, keeps.children]
  rfl

/-- A registration that fits is written under the name it gives. -/
theorem Keeps.free_iff {store : Store} {accounts : Bytes → Option Account} {id pw : Bytes}
    {codes : SchoolCodes} (keeps : Keeps store accounts)
    (fits : id.length ≤ 19 ∧ pw.length ≤ 19 ∧ codes.Plain) :
    userRow store (generalUser id pw codes).id = none ↔ accounts id = none := by
  rw [generalUser_of_fits fits.1 fits.2.1 fits.2.2]
  show userRow store id = none ↔ _
  rw [keeps.row, Option.map_eq_none_iff]

/-- A change of users makes the accounts what its marks make of them. -/
theorem Keeps.apply {store : Store} {accounts : Bytes → Option Account}
    (keeps : Keeps store accounts) {arrival : Arrival} (admissible : arrival.Admissible)
    (regular : arrival.around.Regular) {change : Change} (asked : arrival.demand = some change)
    (possible : change.Possible store) (ofUsers : ∀ childId parentId,
      change ≠ .link childId parentId ∧ change ≠ .unlink childId parentId) :
    Keeps (change.apply store) fun id => (accountMark id change).apply (accounts id) where
  row id := userRow_apply admissible id asked store (accounts id) possible (keeps.row id)
  extractable id account found := by
    obtain ⟨request, parsed, asks⟩ := Arrival.asks asked
    cases change with
    | register other pw codes | update other pw codes =>
      obtain ⟨_, _, _, name, _, resolved⟩ := asks
      have new : codes.Extractable := regular.codes name codes resolved
      by_cases same : other = id
      · rw [accountMark, if_pos same] at found
        first
        | obtain rfl := Option.some.inj found
          exact new
        | obtain ⟨_, _, rfl⟩ := Option.map_eq_some_iff.mp found
          exact new
      · rw [accountMark, if_neg same] at found
        exact keeps.extractable id account found
    | delete other =>
      by_cases same : other = id
      · rw [accountMark, if_pos same] at found
        cases found
      · rw [accountMark, if_neg same] at found
        exact keeps.extractable id account found
    | link childId parentId => exact absurd rfl (ofUsers childId parentId).1
    | unlink childId parentId => exact absurd rfl (ofUsers childId parentId).2
  children := by
    cases change with
    | register | update | delete =>
      exact (Store.execute_tables store _ (by simp [Statement.target, insertUser])).trans
        keeps.children
    | link childId parentId => exact absurd rfl (ofUsers childId parentId).1
    | unlink childId parentId => exact absurd rfl (ofUsers childId parentId).2

/-- The change a call asks for, given what schools resolve to. -/
def HandlerCall.change (schoolCodes : Bytes → Option SchoolCodes) : HandlerCall → Option Change
  | register id pw _ schoolName | addUser id pw _ schoolName =>
    ((CText.fields cmdDelimiter schoolName).head?.bind schoolCodes).map (.register id pw)
  | updateUser id pw _ schoolName =>
    ((CText.fields cmdDelimiter schoolName).head?.bind schoolCodes).map (.update id pw)
  | deleteUser id => some (.delete id)
  | login .. | meal .. | mealsPeriod .. => none

section Changes

variable {session : Session} {call : HandlerCall} {text : Bytes} {locals : Locals}
  {around : Surroundings}

/-- What the server reads of a user who is registered, added or updated. -/
structure ReadsAccount (call : HandlerCall) (id pw schoolName : Bytes) : Prop where
  idValid : isValidId id = true
  pwValid : isValidPassword pw = true
  read : ∃ eduOffice, call.read = id :: pw :: eduOffice :: CText.fields cmdDelimiter schoolName

theorem readsAccount_of_register {id pw eduOffice schoolName : Bytes}
    (allowed : (HandlerCall.register id pw eduOffice schoolName).Allowed session)
    (sent : (HandlerCall.register id pw eduOffice schoolName).sent = some text) :
    ReadsAccount (.register id pw eduOffice schoolName) id pw schoolName := by
  cases allowed with
  | register _ idValid pwValid _ _ =>
    have valid : isValidEduOffice eduOffice = true := by
      by_contra invalid
      rw [HandlerCall.sent, handleRegister, if_pos (by simpa using invalid)] at sent
      cases sent
    exact ⟨idValid, pwValid, eduOffice, read_account (token_of_isValidId idValid)
      (token_of_isValidPassword pwValid) (token_of_isValidEduOffice valid)⟩

theorem readsAccount_of_account {id pw eduOffice schoolName : Bytes}
    (account : IsAccount id pw eduOffice schoolName) :
    ReadsAccount (.addUser id pw eduOffice schoolName) id pw schoolName ∧
      ReadsAccount (.updateUser id pw eduOffice schoolName) id pw schoolName :=
  have read := read_account (token_of_isValidId account.id) (token_of_isValidPassword account.pw)
    (token_of_getEduOfficeCode account.office.1)
  ⟨⟨account.id, account.pw, eduOffice, read⟩, ⟨account.id, account.pw, eduOffice, read⟩⟩

theorem demand_account (schoolCodes : Bytes → Option SchoolCodes)
    (change : Bytes → Bytes → SchoolCodes → Change) {id pw eduOffice schoolName : Bytes} :
    demandRecord schoolCodes change (some id) (some pw) (some eduOffice)
        (CText.fields cmdDelimiter schoolName)[0]? =
      ((CText.fields cmdDelimiter schoolName).head?.bind schoolCodes).map (change id pw) := by
  cases CText.fields cmdDelimiter schoolName <;> rfl

/-- The server finds the change in the request. -/
theorem demand_sent (allowed : call.Allowed session) (ends : session.Ends)
    (sent : call.sent = some text) :
    (⟨text, locals, around⟩ : Arrival).demand = call.change around.schoolCodes := by
  have parsed := parseRequest_sent allowed ends sent
  rw [Arrival.demand]
  show (parseRequest text).bind _ = _
  rw [parsed, Option.bind_some]
  cases allowed with
  | register nobody idValid pwValid office school =>
    obtain ⟨eduOffice, read⟩ :=
      (readsAccount_of_register (.register nobody idValid pwValid office school) sent).read
    rw [read]
    exact demand_account _ _
  | addUser _ account =>
    obtain ⟨eduOffice, read⟩ := (readsAccount_of_account account).1.read
    rw [read]
    exact demand_account _ _
  | updateUser _ account =>
    obtain ⟨eduOffice, read⟩ := (readsAccount_of_account account).2.read
    rw [read]
    exact demand_account _ _
  | @deleteUser id _ idValid =>
    have read : (HandlerCall.deleteUser id).read = _ :=
      fields_trailing_cons ((isToken_iff id).mpr (token_of_isValidId idValid)) []
    rw [read]
    rfl
  | login | ownMeal | otherMeal | ownMeals | otherMeals => rfl

/-- What the client sends is what the server's sessions take for granted. -/
theorem admissible_sent (allowed : call.Allowed session) (ends : session.Ends)
    (sent : call.sent = some text) (regular : around.Regular) :
    (⟨text, locals, around⟩ : Arrival).Admissible := by
  refine ⟨fun request parsed writes => ?_, fun schoolName codes resolved =>
    (regular.codes schoolName codes resolved).toPlain⟩
  obtain rfl := Option.some.inj ((parseRequest_sent allowed ends sent).symm.trans parsed)
  have checked : ∀ {id pw schoolName : Bytes}, ReadsAccount call id pw schoolName →
      call.command = cmdRegisterGeneral ∨ call.command = cmdUpdate →
        (∀ given ∈ (bindOperands call.command call.read).id, isValidId given = true) ∧
          ∀ given ∈ (bindOperands call.command call.read).pw, isValidPassword given = true := by
    rintro id pw schoolName ⟨idValid, pwValid, eduOffice, read⟩ command
    rw [read]
    rcases command with named | named <;> rw [named] <;>
      exact ⟨fun given same => Option.some.inj same ▸ idValid,
        fun given same => Option.some.inj same ▸ pwValid⟩
  have others : ∀ command ∈ [cmdLogin, cmdDelete, cmdGetMeal, cmdGetMultiMeal],
      command ∉ [cmdRegisterGeneral, cmdUpdate] := by decide
  cases allowed with
  | register nobody idValid pwValid office school =>
    exact checked
      (readsAccount_of_register (.register nobody idValid pwValid office school) sent) (.inl rfl)
  | addUser _ account => exact checked (readsAccount_of_account account).1 (.inl rfl)
  | updateUser _ account => exact checked (readsAccount_of_account account).2 (.inr rfl)
  | login | deleteUser | ownMeal | otherMeal | ownMeals | otherMeals =>
    exact absurd writes (others _ (by simp [HandlerCall.command]))

end Changes

/-! ### Replies to changes -/

/-- A request that changes users is answered with one of their replies, or not at all. -/
abbrev AnsweredBy (world : World) (reply : Option ChangeReply) : Prop :=
  world.sent = (reply.map ChangeReply.reply).toList

theorem wellFormed_changeReply (reply : Option ChangeReply) :
    ∀ given ∈ reply.map ChangeReply.reply, given.WellFormed := by
  rintro given member
  obtain ⟨reply, -, rfl⟩ := Option.mem_map.mp member
  exact reply.wellFormed

theorem succeeds_iff_of_answeredBy {world : World} {reply : Option ChangeReply}
    (answered : AnsweredBy world reply) :
    world.Succeeds ↔ reply.any (·.successful) = true := by
  rw [World.Succeeds, answered]
  cases reply with
  | none =>
    exact iff_of_false (fun succeeds => List.not_mem_nil succeeds.choose_spec.1)
      Bool.false_ne_true
  | some reply =>
    have status : reply.reply.status = respSuccess ↔ reply.successful = true := by
      have same := reply.status_eq_iff
      exact_mod_cast same
    simpa using status

/-- A registration that succeeds is answered with the message that the handlers know. -/
theorem isRegisterOk_iff {around : Surroundings} {store : Store} {operands : List Bytes}
    {reply : ChangeReply} (given : registrationReply around store operands = some reply) :
    reply.IsRegisterOk ↔ reply.successful = true := by
  refine ⟨And.left, fun successful => ⟨successful, ?_⟩⟩
  rcases operands with _ | ⟨id, _ | ⟨pw, _ | ⟨eduOffice, _ | ⟨schoolName, more⟩⟩⟩⟩
  iterate 4
    obtain rfl := Option.some.inj given
    cases successful
  rw [registrationReply] at given
  split at given
  · obtain rfl := Option.some.inj given
    cases successful
  · split at given
    · obtain rfl := Option.some.inj given
      cases successful
    · split at given
      · obtain rfl := Option.some.inj given
        rfl
      · cases given

def updatedReply : ChangeReply := ⟨true, respUpdateOk, by decide, by decide, by decide, by decide⟩

def databaseReply : ChangeReply := ⟨false, respDbError, by decide, by decide, by decide, by decide⟩

section Replies

variable (around : Surroundings) (store : Store)

theorem answered_update : ∀ id pw eduOffice schoolName : Option Bytes,
    ∃ reply : Option ChangeReply,
      (outcomeOf around store (update id pw eduOffice schoolName)).replies =
        (reply.map ChangeReply.reply).toList
  | none, _, _, _ | some _, none, _, _ | some _, some _, none, _ | some _, some _, some _, none =>
    ⟨some invalidReply, rfl⟩
  | some id, some pw, some eduOffice, some schoolName => by
    rw [outcomeOf_update, updateOutcome]
    cases around.schoolCodes schoolName with
    | none => exact ⟨some unknownSchoolReply, rfl⟩
    | some codes =>
      dsimp only
      split
      · exact ⟨none, rfl⟩
      · split
        · exact ⟨some updatedReply, rfl⟩
        · exact ⟨some databaseReply, rfl⟩

/-- No reply to a deletion has the message that the client takes for a success. -/
theorem answered_delete : ∀ id : Option Bytes, ∃ reply : ChangeReply,
    (outcomeOf around store (delete id)).replies = [reply.reply] ∧ reply.message ≠ utf8 "1"
  | none => ⟨invalidReply, rfl, by decide⟩
  | some id => by
    rw [outcomeOf_delete, deleteOutcome]
    split
    · exact ⟨ChangeReply.deletedReply, rfl, by decide⟩
    · exact ⟨databaseReply, rfl, by decide⟩

end Replies

/-! ### How a pass is served -/

section Served

variable {session : Session} {call : HandlerCall} {text : Bytes} {locals : Locals}
  {around : Surroundings} {store : Store}

/-- The server serves the call that was sent. -/
theorem serve_sent (allowed : call.Allowed session) (ends : session.Ends)
    (sent : call.sent = some text) :
    (serve ⟨text, locals, around⟩ store).outcome =
      outcomeOf around store (dispatch locals
        ⟨call.command, bindOperands call.command call.read⟩) := by
  show outcomeOf around store (handleClient locals text) = _
  rw [handleClient, parseRequest_sent allowed ends sent]

section Dispatch

variable (locals : Locals) (operands : List Bytes)

theorem dispatch_login : dispatch locals ⟨cmdLogin, bindOperands cmdLogin operands⟩ =
    login locals operands[0]? operands[1]? := rfl

theorem dispatch_update : dispatch locals ⟨cmdUpdate, bindOperands cmdUpdate operands⟩ =
    update operands[0]? operands[1]? operands[2]? operands[3]? := rfl

theorem dispatch_delete : dispatch locals ⟨cmdDelete, bindOperands cmdDelete operands⟩ =
    delete operands[0]? := rfl

theorem dispatch_getMeal : dispatch locals ⟨cmdGetMeal, bindOperands cmdGetMeal operands⟩ =
    getMealOf operands[0]? operands[1]? operands[2]? := rfl

theorem dispatch_getMultiMeal :
    dispatch locals ⟨cmdGetMultiMeal, bindOperands cmdGetMultiMeal operands⟩ =
      getMultiMeal operands[0]? operands[1]? operands[2]? := rfl

end Dispatch

/-- A call in a pass, over a wire on which nothing is left. -/
def HandlerCall.Runs (call : HandlerCall) (locals : Locals) (around : Surroundings)
    (array : ResponseArray) (session : Session) (store : Store) (result : PassResult)
    (after : Store) : Prop :=
  Program.run (Wire.answer (serverReact locals around)) (call.perform array session) ⟨[], store⟩ =
    (some result, ⟨[], after⟩)

/-- What a handler tells of an exchange that the server answered with such a reply. -/
theorem runs_exchange {Result : Type} {request : Bytes} (nonempty : request ≠ [])
    (array : ResponseArray) (unsent unanswered : Result) (read : Bytes → Result)
    (told : Result → Bool) {reply : Option ChangeReply}
    (sent : AnsweredBy (serve ⟨request, locals, around⟩ store) reply)
    (program : call.perform array session = exchange request unsent unanswered read >>=
      fun result => .finished ⟨session, told result⟩)
    (untold : told unanswered = false)
    (tells : ∀ given, reply = some given →
      (told (read given.reply.text) = true ↔ given.successful = true)) :
    ∃ said, call.Runs locals around array session store ⟨session, said⟩
        (serve ⟨request, locals, around⟩ store).store ∧
      (said = true ↔ (serve ⟨request, locals, around⟩ store).Succeeds) := by
  have ran := run_exchange_served nonempty unsent unanswered read
    (fun result => PassResult.mk session (told result)) (wellFormed_changeReply reply) sent
  rw [← program] at ran
  refine ⟨_, ran, ?_⟩
  rw [succeeds_iff_of_answeredBy sent]
  cases reply with
  | none => exact iff_of_false (untold ▸ Bool.false_ne_true) Bool.false_ne_true
  | some given => exact tells given rfl

theorem tells_readRegister {operands : List Bytes} (array : ResponseArray) {reply : ChangeReply}
    (given : registrationReply around store operands = some reply) :
    (readRegister (strcpyInto array.bytes reply.reply.text)).returned = true ↔
      reply.successful = true := by
  rw [← isRegisterOk_iff given, reply.readRegister_eq]
  split
  · rename_i isOk
    exact iff_of_true rfl isOk
  · rename_i notOk
    split <;> exact iff_of_false Bool.false_ne_true notOk

theorem tells_readAddUser {operands : List Bytes} (array : ResponseArray) {reply : ChangeReply}
    (given : registrationReply around store operands = some reply) :
    ((readAddUser (strcpyInto array.bytes reply.reply.text)).returned &&
        (readAddUser (strcpyInto array.bytes reply.reply.text)).status = respSuccess) = true ↔
      reply.successful = true := by
  have status := reply.status_eq_iff
  rw [reply.readAddUser_eq]
  split
  · rename_i isOk
    simp [status, isOk.1]
  · rename_i notOk
    exact iff_of_false Bool.false_ne_true fun successful =>
      notOk ((isRegisterOk_iff given).mpr successful)

theorem tells_readUpdateUser (array : ResponseArray) (reply : ChangeReply) :
    ((readUpdateUser (strcpyInto array.bytes reply.reply.text)).returned &&
        (readUpdateUser (strcpyInto array.bytes reply.reply.text)).status = respSuccess) = true ↔
      reply.successful = true := by
  have status := reply.status_eq_iff
  rw [reply.readUpdateUser_eq]
  simp [status]

section Handlers

variable (array : ResponseArray) (id pw : Bytes) {eduOffice : Bytes} (schoolName : Bytes)

/-- The user is told what the server says of the request with this text. -/
def HandlerCall.TellsSuccess (call : HandlerCall) (locals : Locals) (around : Surroundings)
    (array : ResponseArray) (session : Session) (store : Store) (text : Bytes) : Prop :=
  ∃ told, call.Runs locals around array session store ⟨session, told⟩
      (serve ⟨text, locals, around⟩ store).store ∧
    (told = true ↔ (serve ⟨text, locals, around⟩ store).Succeeds)

theorem runs_register (valid : isValidEduOffice eduOffice = true) :
    (HandlerCall.register id pw eduOffice schoolName).TellsSuccess locals around array session
      store (handleAddUser id pw eduOffice schoolName) := by
  have program : (HandlerCall.register id pw eduOffice schoolName).perform array session =
      exchange (handleAddUser id pw eduOffice schoolName) ⟨false, some registerUnsent⟩
          ⟨false, some registerUnanswered⟩
          (fun text => readRegister (strcpyInto array.bytes text)) >>=
        fun told => .finished ⟨session, told.returned⟩ := by
    show (Client.handleRegister array id pw eduOffice schoolName >>= _) = _
    unfold Client.handleRegister
    rw [ChangeReply.handleRegister_of_valid id pw schoolName valid]
    rfl
  refine runs_exchange (ChangeReply.handleAddUser_ne_nil id pw eduOffice schoolName) array
    ⟨false, some registerUnsent⟩ ⟨false, some registerUnanswered⟩
    (fun text => readRegister (strcpyInto array.bytes text)) Told.returned
    (serve_handleAddUser locals around store id pw eduOffice schoolName) program rfl ?_
  intro given found
  exact tells_readRegister array found

theorem runs_addUser :
    (HandlerCall.addUser id pw eduOffice schoolName).TellsSuccess locals around array session
      store (handleAddUser id pw eduOffice schoolName) := by
  refine runs_exchange (ChangeReply.handleAddUser_ne_nil id pw eduOffice schoolName) array
    ⟨false, respError, communicationError⟩ ⟨false, respError, noAnswer⟩
    (fun text => readAddUser (strcpyInto array.bytes text))
    (fun change => change.returned && change.status = respSuccess)
    (serve_handleAddUser locals around store id pw eduOffice schoolName) rfl rfl ?_
  intro given found
  exact tells_readAddUser array found

theorem runs_updateUser {reply : Option ChangeReply}
    (sent : AnsweredBy
      (serve ⟨handleUpdateUser id pw eduOffice schoolName, locals, around⟩ store) reply) :
    (HandlerCall.updateUser id pw eduOffice schoolName).TellsSuccess locals around array session
      store (handleUpdateUser id pw eduOffice schoolName) := by
  have nonempty : handleUpdateUser id pw eduOffice schoolName ≠ [] := by
    simp only [handleUpdateUser, List.append_assoc]
    exact ChangeReply.snprintf_ne_nil (by decide)
  exact runs_exchange nonempty array
    ⟨false, respError, communicationError⟩ ⟨false, respError, noAnswer⟩
    (fun text => readUpdateUser (strcpyInto array.bytes text))
    (fun change => change.returned && change.status = respSuccess) sent rfl rfl
    fun _ _ => tells_readUpdateUser array _

/-- A deletion is never told, because the message is taken for the status. -/
theorem runs_deleteUser {reply : ChangeReply}
    (sent : (serve ⟨handleDeleteUser id, locals, around⟩ store).sent = [reply.reply])
    (message : reply.message ≠ utf8 "1") :
    (HandlerCall.deleteUser id).Runs locals around array session store ⟨session, false⟩
      (serve ⟨handleDeleteUser id, locals, around⟩ store).store := by
  have nonempty : handleDeleteUser id ≠ [] := by
    rw [handleDeleteUser, List.append_assoc]
    exact ChangeReply.snprintf_ne_nil (by decide)
  have ran := run_exchange_served nonempty ⟨false, some communicationError⟩ ⟨false, some noAnswer⟩
    (fun text => readDeleteUser (strcpyInto array.bytes text))
    (fun told => PassResult.mk session told.returned) (wellFormed_changeReply (some reply)) sent
  have untold : (readDeleteUser (strcpyInto array.bytes reply.reply.text)).returned = false := by
    rw [reply.readDeleteUser_eq]
    exact decide_eq_false message
  rw [Option.map_some, Option.map_some, Option.getD_some, untold] at ran
  exact ran

end Handlers

/-- Only a registration with an unknown office is not sent, and it is not told of a success. -/
theorem runs_unsent (array : ResponseArray) (unsent : call.sent = none) :
    call.Runs locals around array session store ⟨session, false⟩ store := by
  rw [HandlerCall.Runs, perform_unsent unsent]
  rfl

/-- Users are told that they were registered, added or updated exactly when the server says so,
and never that they were deleted. -/
theorem runs_change (allowed : call.Allowed session) (ends : session.Ends)
    (sent : call.sent = some text) (changes : call.command ∈ changing) (array : ResponseArray) :
    ∃ told, call.Runs locals around array session store ⟨session, told⟩
        (serve ⟨text, locals, around⟩ store).store ∧
      (told = true ↔ call.command ≠ cmdDelete ∧
        (serve ⟨text, locals, around⟩ store).Succeeds) := by
  have served : (serve ⟨text, locals, around⟩ store).outcome = _ :=
    serve_sent allowed ends sent
  have others : ∀ command ∈ [cmdLogin, cmdGetMeal, cmdGetMultiMeal], command ∉ changing := by
    decide
  have spoken : call.command ≠ cmdDelete →
      call.TellsSuccess locals around array session store text → ∃ told,
        call.Runs locals around array session store ⟨session, told⟩
          (serve ⟨text, locals, around⟩ store).store ∧
        (told = true ↔ call.command ≠ cmdDelete ∧
          (serve ⟨text, locals, around⟩ store).Succeeds) :=
    fun other ⟨told, runs, tells⟩ => ⟨told, runs, tells.trans (and_iff_right other).symm⟩
  cases allowed with
  | @register id pw eduOffice schoolName =>
    have valid : isValidEduOffice eduOffice = true := by
      by_contra invalid
      rw [HandlerCall.sent, handleRegister, if_pos (by simpa using invalid)] at sent
      cases sent
    obtain rfl : handleAddUser id pw eduOffice schoolName = text := Option.some.inj
      ((ChangeReply.handleRegister_of_valid id pw schoolName valid).symm.trans sent)
    exact spoken (by decide : cmdRegisterGeneral ≠ cmdDelete)
      (runs_register array id pw schoolName valid)
  | @addUser id pw eduOffice schoolName =>
    obtain rfl : handleAddUser id pw eduOffice schoolName = text := Option.some.inj sent
    exact spoken (by decide : cmdRegisterGeneral ≠ cmdDelete)
      (runs_addUser array id pw schoolName)
  | @updateUser id pw eduOffice schoolName =>
    obtain rfl : handleUpdateUser id pw eduOffice schoolName = text := Option.some.inj sent
    rw [HandlerCall.command, dispatch_update] at served
    obtain ⟨reply, replies⟩ := answered_update around store _ _ _ _
    exact spoken (by decide : cmdUpdate ≠ cmdDelete)
      (runs_updateUser array id pw schoolName ((World.sent_of_outcome served).trans replies))
  | @deleteUser id =>
    obtain rfl : handleDeleteUser id = text := Option.some.inj sent
    rw [HandlerCall.command, dispatch_delete] at served
    obtain ⟨reply, replies, message⟩ := answered_delete around store _
    have deletes : (HandlerCall.deleteUser id).command = cmdDelete := by rw [HandlerCall.command]
    refine ⟨false, runs_deleteUser array id ((World.sent_of_outcome served).trans replies)
      message, iff_of_false Bool.false_ne_true fun deleted => deleted.1 deletes⟩
  | login | ownMeal | otherMeal | ownMeals | otherMeals =>
    exact absurd changes (others _ (by simp [HandlerCall.command]))

/-! ### Logins and meals -/

/-- A login is answered with the columns of the account whose secret it gives, if SQLite works,
and otherwise with an error. -/
inductive LoginServed (around : Surroundings) (accounts : Bytes → Option Account)
    (store : Store) (beyond : User) (name secret : Option Bytes) (outcome : Outcome) : Prop where
  | found {id pw : Bytes} {codes : SchoolCodes} (given : name = some id ∧ secret = some pw)
      (known : accounts id = some (pw, codes))
      (quiet : around.quiet 0 = true ∧ around.quiet 1 = true)
      (same : outcome = ⟨store, [success respLoginOk
        (loginData (copiedUser beyond (accountRow id (pw, codes))))]⟩)
  | refused {message : Bytes}
      (unknown : around.quiet 0 = true → around.quiet 1 = true → ∀ id pw codes, name = some id →
        secret = some pw → accounts id ≠ some (pw, codes))
      (isMessage : message ∈ [errInvalidLogin, respDbError, respInvalidRequest])
      (same : outcome = refusal store message)

theorem loginServed {accounts : Bytes → Option Account} (keeps : Keeps store accounts) :
    ∀ name secret : Option Bytes, LoginServed around accounts store locals.user name secret
      (outcomeOf around store (login locals name secret))
  | none, _ => .refused (fun _ _ _ _ _ none => nomatch none) (by decide) rfl
  | some _, none => .refused (fun _ _ _ _ _ _ none => nomatch none) (by decide) rfl
  | some id, some pw => by
    have row := keeps.row id
    rw [outcomeOf_login, loginOutcome, row]
    cases found : accounts id with
    | none =>
      refine .refused (fun _ _ other pw codes same _ known => ?_) (by decide)
        (if_neg (by simp))
      rw [← Option.some.inj same, found] at known
      cases known
    | some account =>
      obtain ⟨secret, codes⟩ := account
      have password : (accountRow id (secret, codes) .pw = some pw) = (secret = pw) :=
        propext Option.some_inj
      have unknown : ¬ (around.quiet 0 = true ∧ around.quiet 1 = true ∧ secret = pw) →
          around.quiet 0 = true → around.quiet 1 = true → ∀ name word places, some id = some name →
            some pw = some word → accounts name ≠ some (word, places) := by
        rintro no first second name word places sameId samePw known
        obtain rfl := Option.some.inj sameId
        obtain rfl := Option.some.inj samePw
        rw [found] at known
        exact no ⟨first, second, congrArg Prod.fst (Option.some.inj known)⟩
      simp only [Option.map_some, Option.any_some, password]
      cases first : around.quiet 0 with
      | false => exact .refused (unknown fun all => by simp [first] at all) (by decide) rfl
      | true =>
        by_cases same : secret = pw
        · subst same
          rw [Bool.true_and, if_pos (decide_eq_true rfl)]
          cases second : around.quiet 1 with
          | false => exact .refused (unknown fun all => by simp [second] at all) (by decide) rfl
          | true => exact .found ⟨rfl, rfl⟩ found ⟨first, second⟩ rfl
        · exact .refused (unknown fun all => same all.2.2) (by decide)
            (if_neg (by simp [same]))

/-- The session of a client that shows this name, with the school of an account. -/
def accountSession (shown : Bytes) (codes : SchoolCodes) : Session :=
  ⟨shown, roleGeneral, codes.eduCode, codes.schoolCode⟩

theorem loginSession_eq {id : Bytes} {codes : SchoolCodes} (ends : EndsWithin maxIdLen id)
    (extractable : codes.Extractable) :
    loginSession id codes.eduCode codes.schoolCode roleGeneral = accountSession id codes := by
  obtain ⟨edu, school⟩ := extractable.carried
  have eduShort : codes.eduCode.length ≤ maxEduOfficeLen - 1 := Nat.le_succ_of_le edu.2
  have schoolShort : codes.schoolCode.length ≤ maxSchoolNameLen - 1 := Nat.le_succ_of_le school.2
  have roleShort : roleGeneral.length ≤ maxRoleLen - 1 := by decide
  rw [loginSession]
  simp only [strncpy_zeroed]
  rw [List.take_of_length_le eduShort, List.take_of_length_le schoolShort,
    List.take_of_length_le (Nat.le_sub_one_of_lt ends.2), List.take_of_length_le roleShort]
  rfl

/-- The reply to a login is read as the session of the account. -/
theorem readLogin_success {id pw name : Bytes} {codes : SchoolCodes} (beyond : User)
    (ends : EndsWithin maxIdLen id) (extractable : codes.Extractable) :
    (success respLoginOk
        (loginData (copiedUser beyond (accountRow name (pw, codes))))).WellFormed ∧
      ∃ left, readLogin id session (success respLoginOk
          (loginData (copiedUser beyond (accountRow name (pw, codes))))).text =
        ⟨true, accountSession id codes, left⟩ := by
  have data := loginData_accountRow beyond name pw extractable.toPlain
  have delimiterFree : 0 ∉ cmdDelimiter ∧ 0 ∉ roleGeneral := by decide
  have dataFree : 0 ∉ loginData (copiedUser beyond (accountRow name (pw, codes))) := by
    rw [data]
    simp [extractable.zeroFree, delimiterFree]
  obtain ⟨edu, school⟩ := extractable.carried
  have isRole : IsRole roleGeneral := .inl rfl
  obtain ⟨roleToken, -, -⟩ := isRole.plain
  have columns : CText.fields cmdDelimiter
      (loginData (copiedUser beyond (accountRow name (pw, codes)))) =
        [codes.eduCode, codes.schoolCode, roleGeneral] := by
    rw [data, List.append_assoc (codes.eduCode ++ cmdDelimiter),
      List.append_assoc (codes.eduCode ++ cmdDelimiter), fields_delimited edu.1,
      fields_delimited school.1, fields_singleton roleToken]
  have messageLength : respLoginOk.length = 16 := by decide
  have dataFits := length_loginData_le (copiedUser beyond (accountRow name (pw, codes)))
  have read := @fields_success respLoginOk
    (loginData (copiedUser beyond (accountRow name (pw, codes)))) (by decide) (by omega)
  rw [columns] at read
  refine ⟨⟨(by decide : respSuccess < 2147483648), (by decide : 0 ∉ respLoginOk), dataFree⟩,
    cutByStrtok cmdDelimiter (success respLoginOk
      (loginData (copiedUser beyond (accountRow name (pw, codes))))).text, ?_⟩
  rw [readLogin_of_fields id session read (by decide), loginSession_eq ends extractable]

theorem refused_wellFormed : ∀ message ∈ [errInvalidLogin, respDbError, respInvalidRequest],
    (failure message).WellFormed ∧ tellsSuccess (failure message).text = false := by
  intro message member
  have zeroFree : ∀ message ∈ [errInvalidLogin, respDbError, respInvalidRequest],
      0 ∉ message := by decide
  have refused : ∀ message ∈ [errInvalidLogin, respDbError, respInvalidRequest],
      tellsSuccess (failure message).text = false := by decide
  exact ⟨⟨(by decide : respError < 2147483648), zeroFree message member, List.not_mem_nil⟩,
    refused message member⟩

theorem runs_handleLogin {id pw : Bytes} (array : ResponseArray) {reply : Reply}
    (wellFormed : reply.WellFormed)
    (served : (serve ⟨handleLogin id pw, locals, around⟩ store).outcome = ⟨store, [reply]⟩) :
    (HandlerCall.login id pw).Runs locals around array session store
      ⟨(readLogin id session reply.text).session, (readLogin id session reply.text).returned⟩
      store := by
  obtain ⟨after, sent⟩ := World.of_outcome served
  have received := @receives_served locals around store (handleLogin id pw) (some reply)
    (fun given same => Option.some.inj same ▸ wellFormed) sent
  rw [after] at received
  have ran := run_handleLogin (serverReact locals around) id pw session ⟨[], store⟩ received
  exact Program.run_bind_of_some _ _ ran

/-- A login shows the name that was typed, with the school of the account whose name and secret
the server reads; or it is refused. -/
theorem runs_login {id pw : Bytes} (array : ResponseArray) {accounts : Bytes → Option Account}
    (keeps : Keeps store accounts) (allowed : (HandlerCall.login id pw).Allowed session)
    (ends : session.Ends) :
    (∃ name secret codes, (HandlerCall.login id pw).read[0]? = some name ∧
        (HandlerCall.login id pw).read[1]? = some secret ∧
        accounts name = some (secret, codes) ∧
        (around.quiet 0 = true ∧ around.quiet 1 = true) ∧
        (HandlerCall.login id pw).Runs locals around array session store
          ⟨accountSession id codes, true⟩ store) ∨
      ((around.quiet 0 = true → around.quiet 1 = true → ∀ name secret codes,
          (HandlerCall.login id pw).read[0]? = some name →
          (HandlerCall.login id pw).read[1]? = some secret →
            accounts name ≠ some (secret, codes)) ∧
        (HandlerCall.login id pw).Runs locals around array session store ⟨session, false⟩
          store) := by
  have idEnds : EndsWithin maxIdLen id := by
    cases allowed with
    | login _ idEnds _ => exact idEnds
  have served := @serve_sent session (.login id pw) (handleLogin id pw) locals around store
    allowed ends rfl
  rw [HandlerCall.command, dispatch_login] at served
  cases @loginServed locals around store accounts keeps (HandlerCall.login id pw).read[0]?
    (HandlerCall.login id pw).read[1]? with
  | @found name secret codes given known quiet same =>
    obtain ⟨wellFormed, left, read⟩ := @readLogin_success session id secret name codes locals.user
      idEnds (keeps.extractable name _ known)
    have runs := @runs_handleLogin session locals around store id pw array _ wellFormed
      (served.trans same)
    rw [read] at runs
    exact Or.inl ⟨name, secret, codes, given.1, given.2, known, quiet, runs⟩
  | @refused message unknown isMessage same =>
    obtain ⟨wellFormed, refused⟩ := refused_wellFormed message isMessage
    have runs := @runs_handleLogin session locals around store id pw array _ wellFormed
      (served.trans same)
    rw [readLogin_of_refused id session refused] at runs
    exact Or.inr ⟨unknown, runs⟩

theorem failure_wellFormed {message : Bytes} (zeroFree : 0 ∉ message) :
    (failure message).WellFormed :=
  ⟨(by decide : respError < 2147483648), zeroFree, List.not_mem_nil⟩

theorem success_wellFormed {message data : Bytes} (zeroFree : 0 ∉ message) (dataFree : 0 ∉ data) :
    (success message data).WellFormed :=
  ⟨(by decide : respSuccess < 2147483648), zeroFree, dataFree⟩

theorem mealServed (regular : around.Regular) : ∀ eduOffice schoolName date : Option Bytes,
    ∃ reply : Reply, reply.WellFormed ∧
      outcomeOf around store (getMealOf eduOffice schoolName date) = ⟨store, [reply]⟩
  | none, _, _ | some _, none, _ | some _, some _, none =>
    ⟨failure respInvalidRequest, failure_wellFormed (by decide), rfl⟩
  | some eduOffice, some schoolName, some date => by
    refine ⟨_, ?_, outcomeOf_getMealOf around store eduOffice schoolName date⟩
    rw [mealReply]
    split
    · exact failure_wellFormed (by decide)
    · split
      · exact failure_wellFormed (by decide)
      · rename_i meal found
        exact success_wellFormed (by decide) (regular.meal _ _ _ meal found)

theorem mealsServed (regular : around.Regular) : ∀ eduOffice schoolName period : Option Bytes,
    ∃ reply : Reply, reply.WellFormed ∧
      outcomeOf around store (getMultiMeal eduOffice schoolName period) = ⟨store, [reply]⟩
  | none, _, _ | some _, none, _ | some _, some _, none =>
    ⟨failure respInvalidRequest, failure_wellFormed (by decide), rfl⟩
  | some eduOffice, some schoolName, some period => by
    rw [outcomeOf_getMultiMeal, multiMealOutcome]
    split
    · exact ⟨_, failure_wellFormed (by decide), rfl⟩
    · split
      · exact ⟨_, failure_wellFormed (by decide), rfl⟩
      · split
        · exact ⟨_, failure_wellFormed (by decide), rfl⟩
        · rename_i meals found
          exact ⟨_, success_wellFormed (by decide) (regular.meals _ _ _ _ meals found), rfl⟩

theorem run_mealQuery_served {reply : Reply} (nonempty : text ≠ []) (wellFormed : reply.WellFormed)
    (served : (serve ⟨text, locals, around⟩ store).outcome = ⟨store, [reply]⟩) :
    Program.run (Wire.answer (serverReact locals around)) (mealQuery text) ⟨[], store⟩ =
      (some (true, reply.text), ⟨[], store⟩) := by
  obtain ⟨after, sent⟩ := World.of_outcome served
  have received := @receives_served locals around store text (some reply)
    (fun given same => Option.some.inj same ▸ wellFormed) sent
  rw [after] at received
  rw [mealQuery, Program.run_bind_of_some _ _ (run_sendData _ nonempty ⟨[], store⟩)]
  exact received

/-- Every meal query is told as a success, and changes nothing. -/
theorem runs_meal (allowed : call.Allowed session) (ends : session.Ends) (array : ResponseArray)
    (regular : around.Regular) (asks : call.command = cmdGetMeal ∨ call.command = cmdGetMultiMeal) :
    call.Runs locals around array session store ⟨session, true⟩ store := by
  have others : ∀ command ∈ [cmdLogin, cmdRegisterGeneral, cmdUpdate, cmdDelete],
      ¬ (command = cmdGetMeal ∨ command = cmdGetMultiMeal) := by decide
  cases call with
  | meal eduOffice schoolName date =>
    have served := @serve_sent session (.meal eduOffice schoolName date) _ locals around store
      allowed ends rfl
    rw [HandlerCall.command, dispatch_getMeal] at served
    obtain ⟨reply, wellFormed, same⟩ := @mealServed around store regular
      (HandlerCall.meal eduOffice schoolName date).read[0]?
      (HandlerCall.meal eduOffice schoolName date).read[1]?
      (HandlerCall.meal eduOffice schoolName date).read[2]?
    have nonempty : requestMeal eduOffice schoolName date ≠ [] := by
      simp only [requestMeal, List.append_assoc]
      exact ChangeReply.snprintf_ne_nil (by decide)
    have ran := run_mealQuery_served nonempty wellFormed (served.trans same)
    exact Program.run_bind_of_some _ _ ran
  | mealsPeriod eduOffice schoolName startDate endDate =>
    have served := @serve_sent session (.mealsPeriod eduOffice schoolName startDate endDate) _
      locals around store allowed ends rfl
    rw [HandlerCall.command, dispatch_getMultiMeal] at served
    obtain ⟨reply, wellFormed, same⟩ := @mealsServed around store regular
      (HandlerCall.mealsPeriod eduOffice schoolName startDate endDate).read[0]?
      (HandlerCall.mealsPeriod eduOffice schoolName startDate endDate).read[1]?
      (HandlerCall.mealsPeriod eduOffice schoolName startDate endDate).read[2]?
    have nonempty : requestMealsPeriod eduOffice schoolName startDate endDate ≠ [] := by
      simp only [requestMealsPeriod, List.append_assoc]
      exact ChangeReply.snprintf_ne_nil (by decide)
    have ran := run_mealQuery_served nonempty wellFormed (served.trans same)
    exact Program.run_bind_of_some _ _ ran
  | login | register | addUser | updateUser | deleteUser =>
    exact absurd asks (others _ (by simp [HandlerCall.command]))

end Served

end SchoolMeals
