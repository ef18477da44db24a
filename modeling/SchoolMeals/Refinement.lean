/-
This file shows that the clients and their server are a directory of accounts.
Every pass of a client is an event of the directory: somebody enters or is
turned away, registers or is refused, changes or removes an account, leaves, or
nothing happens. The store holds the accounts of the directory, the session of a
client is the one the directory has for it, and what users are told is what has
happened.
-/

import SchoolMeals.Service
import SchoolMeals.Library.Directory

namespace SchoolMeals

open CText Interaction Journal Transition

abbrev AccountDirectory (Index : Type) : Type := Directory.State Index Bytes Bytes SchoolCodes

abbrev AccountEvent (Index : Type) : Type := Directory.Event Index Bytes Bytes SchoolCodes

/-! ### The event of a pass -/

section Events

variable {Index : Type}

/-- The change that a call asks for, if it is sent at all. -/
def HandlerCall.asked (schoolCodes : Bytes → Option SchoolCodes) (call : HandlerCall) :
    Option Change :=
  call.sent.bind fun _ => call.change schoolCodes

/-- A change of users is made unless SQLite fails or a registration finds its name taken. -/
def changeEvent (around : Surroundings) (told : Bool) : Change → AccountEvent Index
  | .register id pw codes =>
    if told then .registers id pw codes else if around.quiet 2 then .refused id else .nothing
  | .update id pw codes => if around.quiet 2 then .changes id pw codes else .nothing
  | .delete id => if around.quiet 0 then .removes id else .nothing
  | .link .. | .unlink .. => .nothing

/-- A login lets a user in or turns him away, unless SQLite fails. -/
def loginEvent (around : Surroundings) (told : Bool) (index : Index) (shown name secret : Bytes) :
    AccountEvent Index :=
  if told then .enters index shown name secret
  else if around.quiet 0 && around.quiet 1 then .turnedAway name secret
  else .nothing

def HandlerCall.event (around : Surroundings) (told : Bool) (index : Index) :
    HandlerCall → AccountEvent Index
  | login id pw => ((HandlerCall.login id pw).read[0]?.bind fun name =>
      (HandlerCall.login id pw).read[1]?.map (loginEvent around told index id name)).getD .nothing
  | call => ((call.asked around.schoolCodes).map (changeEvent around told)).getD .nothing

def ServicePass.event (pass : ServicePass Index) : AccountEvent Index :=
  match pass.action with
  | .calls call => call.event pass.around pass.told pass.index
  | .logout => .leaves pass.index
  | .nothing | .exit => .nothing

/-- The events that users are told of. Nobody is told of a removal. -/
def IsTold : AccountEvent Index → Prop
  | .enters .. | .leaves _ | .registers .. | .changes .. => True
  | .turnedAway .. | .refused _ | .removes _ | .nothing => False

def MenuAction.asksMeal (action : MenuAction) : Prop :=
  ∃ call, action = .calls call ∧ (call.command = cmdGetMeal ∨ call.command = cmdGetMultiMeal)

/-- A login that nobody is told of turns somebody away, or nothing happens. -/
theorem event_refusedLogin (around : Surroundings) (index : Index) (id pw : Bytes) :
    (HandlerCall.login id pw).event around false index = .nothing ∨
      ∃ name secret, (HandlerCall.login id pw).read[0]? = some name ∧
        (HandlerCall.login id pw).read[1]? = some secret ∧
        (around.quiet 0 = true ∧ around.quiet 1 = true) ∧
        (HandlerCall.login id pw).event around false index = .turnedAway name secret := by
  rw [HandlerCall.event]
  cases (HandlerCall.login id pw).read[0]? with
  | none => exact Or.inl rfl
  | some name =>
    cases (HandlerCall.login id pw).read[1]? with
    | none => exact Or.inl rfl
    | some secret =>
      show loginEvent around false index id name secret = _ ∨ _
      rw [loginEvent, if_neg Bool.false_ne_true]
      split
      · rename_i quiet
        exact Or.inr ⟨name, secret, rfl, rfl, by simpa using quiet, by
          show loginEvent around false index id name secret = _
          rw [loginEvent, if_neg Bool.false_ne_true, if_pos quiet]⟩
      · exact Or.inl rfl

/-- The calls that ask for a change of users. -/
inductive HandlerCall.Asks (schoolCodes : Bytes → Option SchoolCodes) :
    HandlerCall → Change → Prop where
  | register {id pw eduOffice schoolName name : Bytes} {codes : SchoolCodes}
      (named : (CText.fields cmdDelimiter schoolName).head? = some name)
      (known : schoolCodes name = some codes) :
      Asks schoolCodes (.register id pw eduOffice schoolName) (.register id pw codes)
  | addUser {id pw eduOffice schoolName name : Bytes} {codes : SchoolCodes}
      (named : (CText.fields cmdDelimiter schoolName).head? = some name)
      (known : schoolCodes name = some codes) :
      Asks schoolCodes (.addUser id pw eduOffice schoolName) (.register id pw codes)
  | update {id pw eduOffice schoolName name : Bytes} {codes : SchoolCodes}
      (named : (CText.fields cmdDelimiter schoolName).head? = some name)
      (known : schoolCodes name = some codes) :
      Asks schoolCodes (.updateUser id pw eduOffice schoolName) (.update id pw codes)
  | delete {id : Bytes} : Asks schoolCodes (.deleteUser id) (.delete id)

theorem asks_of_change {call : HandlerCall} {schoolCodes : Bytes → Option SchoolCodes}
    {change : Change} (asks : call.change schoolCodes = some change) :
    call.Asks schoolCodes change := by
  cases call with
  | register | addUser | updateUser =>
    obtain ⟨codes, found, rfl⟩ := Option.map_eq_some_iff.mp asks
    obtain ⟨name, named, known⟩ := Option.bind_eq_some_iff.mp found
    constructor <;> assumption
  | deleteUser id =>
    cases asks
    exact .delete
  | login | meal | mealsPeriod => cases asks

theorem event_change {call : HandlerCall} (other : call.command ≠ cmdLogin)
    (around : Surroundings) (told : Bool) (index : Index) :
    call.event around told index =
      ((call.asked around.schoolCodes).map (changeEvent around told)).getD .nothing := by
  cases call with
  | login => exact absurd rfl other
  | register | addUser | updateUser | deleteUser | meal | mealsPeriod => rfl

theorem noLogin_of_changes {call : HandlerCall} (changes : call.command ∈ changing) :
    call.command ≠ cmdLogin :=
  fun same => (by decide : cmdLogin ∉ changing) (same ▸ changes)

/-- What the event of a pass can be. -/
inductive ServicePass.Means (pass : ServicePass Index) : AccountEvent Index → Prop where
  | enters {pw shown name secret : Bytes} (told : pass.told = true)
      (calls : pass.action = .calls (.login shown pw))
      (hasName : (HandlerCall.login shown pw).read[0]? = some name)
      (hasSecret : (HandlerCall.login shown pw).read[1]? = some secret) :
      Means pass (.enters pass.index shown name secret)
  | turnedAway {name secret : Bytes} (untold : pass.told = false) :
      Means pass (.turnedAway name secret)
  | change {call : HandlerCall} {change : Change} (calls : pass.action = .calls call)
      (asked : call.asked pass.around.schoolCodes = some change) :
      Means pass (changeEvent pass.around pass.told change)
  | leaves (logout : pass.action = .logout) : Means pass (.leaves pass.index)
  | nothing : Means pass .nothing

theorem event_calls {pass : ServicePass Index} {call : HandlerCall}
    (calls : pass.action = .calls call) :
    pass.event = call.event pass.around pass.told pass.index := by
  rw [ServicePass.event, calls]

theorem noLogin_of_asked {call : HandlerCall} {schoolCodes : Bytes → Option SchoolCodes}
    {change : Change} (asked : call.asked schoolCodes = some change) :
    call.command ≠ cmdLogin ∧ call.change schoolCodes = some change := by
  obtain ⟨text, -, asks⟩ := Option.bind_eq_some_iff.mp asked
  have others : ∀ command ∈ [cmdRegisterGeneral, cmdUpdate, cmdDelete], command ≠ cmdLogin := by
    decide
  refine ⟨?_, asks⟩
  cases call with
  | login | meal | mealsPeriod => cases asks
  | register | addUser | updateUser | deleteUser =>
    exact others _ (by simp [HandlerCall.command])

theorem event_asked {pass : ServicePass Index} {call : HandlerCall} {change : Change}
    (calls : pass.action = .calls call)
    (asked : call.asked pass.around.schoolCodes = some change) :
    pass.event = changeEvent pass.around pass.told change := by
  rw [event_calls calls, event_change (noLogin_of_asked asked).1, asked]
  rfl

theorem means_asked {pass : ServicePass Index} {call : HandlerCall}
    (calls : pass.action = .calls call) (other : call.command ≠ cmdLogin) :
    pass.Means pass.event := by
  rw [event_calls calls, event_change other]
  cases asked : call.asked pass.around.schoolCodes with
  | none => exact .nothing
  | some change => exact .change calls asked

theorem means_login {pass : ServicePass Index} {id pw : Bytes}
    (calls : pass.action = .calls (.login id pw)) : pass.Means pass.event := by
  rw [event_calls calls]
  cases told : pass.told with
  | false =>
    rcases event_refusedLogin pass.around pass.index id pw with nothing | ⟨_, _, -, -, -, away⟩
    · rw [nothing]
      exact .nothing
    · rw [away]
      exact .turnedAway told
  | true =>
    rw [HandlerCall.event]
    cases hasName : (HandlerCall.login id pw).read[0]? with
    | none => exact .nothing
    | some name =>
      cases hasSecret : (HandlerCall.login id pw).read[1]? with
      | none => exact .nothing
      | some secret => exact .enters told calls hasName hasSecret

theorem means_event (pass : ServicePass Index) : pass.Means pass.event := by
  have others : ∀ command ∈ [cmdRegisterGeneral, cmdUpdate, cmdDelete, cmdGetMeal,
      cmdGetMultiMeal], command ≠ cmdLogin := by decide
  cases acts : pass.action with
  | calls call =>
    cases call with
    | login id pw => exact means_login acts
    | register | addUser | updateUser | deleteUser | meal | mealsPeriod =>
      exact means_asked acts (others _ (by simp [HandlerCall.command]))
  | logout =>
    rw [ServicePass.event, acts]
    exact .leaves acts
  | nothing | exit =>
    rw [ServicePass.event, acts]
    exact .nothing

/-- Changes of users concern nobody's session. -/
theorem concerns_changeEvent (around : Surroundings) (told : Bool) (change : Change)
    (client : Index) : ¬ (changeEvent around told change : AccountEvent Index).Concerns client := by
  cases change with
  | register id pw codes =>
    rw [changeEvent]
    split
    · exact fun no => no
    · split <;> exact fun no => no
  | update id pw codes | delete id =>
    rw [changeEvent]
    split <;> exact fun no => no
  | link | unlink => exact fun no => no

/-- An event of a pass concerns nobody but its client. -/
theorem concerns_event {pass : ServicePass Index} {client : Index}
    (concerns : pass.event.Concerns client) : pass.index = client := by
  have means := means_event pass
  generalize pass.event = event at means concerns
  cases means with
  | enters | leaves => exact concerns
  | change => exact absurd concerns (concerns_changeEvent _ _ _ _)
  | turnedAway | nothing => cases concerns

/-- The session of a client that the directory knows. -/
def sessionOf : Option (Bytes × SchoolCodes) → Session
  | none => Session.empty
  | some (shown, codes) => accountSession shown codes

/-- A session that a login can open. -/
def Opened (session : Option (Bytes × SchoolCodes)) : Prop :=
  ∀ shown codes, session = some (shown, codes) → EndsWithin maxIdLen shown ∧ codes.Extractable

theorem ends_sessionOf {session : Option (Bytes × SchoolCodes)} (opened : Opened session) :
    (sessionOf session).Ends := by
  rcases session with _ | ⟨shown, codes⟩
  · exact .empty
  · obtain ⟨shownEnds, extractable⟩ := opened shown codes rfl
    obtain ⟨edu, school⟩ := extractable.carried
    exact ⟨shownEnds, (by decide : EndsWithin maxRoleLen roleGeneral),
      ⟨extractable.zeroFree.1, Nat.lt_of_le_of_lt edu.2 (by decide)⟩,
      ⟨extractable.zeroFree.2, Nat.lt_of_le_of_lt school.2 (by decide)⟩⟩

/-- The directory is what the clients and the server hold between two passes. -/
structure Represents (service : Service Index) (directory : AccountDirectory Index) : Prop where
  wires : ∀ index, (service.terminals index).incoming = []
  keeps : Keeps service.store directory.account
  session : ∀ index, (service.terminals index).client.session = sessionOf (directory.session index)
  opened : ∀ index, Opened (directory.session index)

theorem represents_start (choice : Index → Int) (stdin : Index → Bytes) :
    Represents (.start choice stdin) (.empty : AccountDirectory Index) :=
  ⟨fun _ => rfl, keeps_initDb, fun _ => rfl, fun _ => nofun⟩

variable [DecidableEq Index]

/-- What a pass leaves is what its event makes of the directory, and the user is told so. -/
structure Performs (directory : AccountDirectory Index) (pass : ServicePass Index)
    (session : Session) (store : Store) : Prop where
  admits : directory.Admits pass.event
  keeps : Keeps store (directory.after pass.event).account
  session : session = sessionOf ((directory.after pass.event).session pass.index)
  opened : Opened ((directory.after pass.event).session pass.index)
  told : pass.told = true ↔ IsTold pass.event ∨ pass.action.asksMeal

section Performs

variable {directory : AccountDirectory Index} {index : Index} {session : Session} {store : Store}
  {around : Surroundings} {locals : Locals} {call : HandlerCall} {text : Bytes}

/-- An event that leaves the directory as it is, and that nobody is told of. -/
theorem Performs.unchanged {pass : ServicePass Index} {event : AccountEvent Index}
    (is : pass.event = event) (keeps : Keeps store directory.account)
    (same : session = sessionOf (directory.session pass.index))
    (opened : Opened (directory.session pass.index)) (admits : directory.Admits event)
    (idle : directory.after event = directory) (untold : ¬ IsTold event)
    (told : pass.told = true ↔ pass.action.asksMeal) : Performs directory pass session store where
  admits := by rw [is]; exact admits
  keeps := by rw [is, idle]; exact keeps
  session := by rw [is, idle]; exact same
  opened := by rw [is, idle]; exact opened
  told := by rw [is, or_iff_right untold]; exact told

/-- An event that leaves the sessions as they are. -/
theorem Performs.changed {pass : ServicePass Index} {event : AccountEvent Index}
    (is : pass.event = event) (keeps : Keeps store (directory.after event).account)
    (same : session = sessionOf (directory.session pass.index))
    (opened : Opened (directory.session pass.index)) (admits : directory.Admits event)
    (kept : (directory.after event).session = directory.session)
    (told : pass.told = true ↔ IsTold event) (noMeal : ¬ pass.action.asksMeal) :
    Performs directory pass session store where
  admits := by rw [is]; exact admits
  keeps := by rw [is]; exact keeps
  session := by rw [is, kept]; exact same
  opened := by rw [is, kept]; exact opened
  told := by rw [is, or_iff_left noMeal]; exact told

theorem asksMeal_calls :
    (MenuAction.calls call).asksMeal ↔ call.command = cmdGetMeal ∨ call.command = cmdGetMultiMeal :=
  ⟨fun ⟨_, equal, meal⟩ => by cases equal; exact meal, fun meal => ⟨call, rfl, meal⟩⟩

/-! ### Logins -/

theorem performs_login {id pw : Bytes} (array : ResponseArray)
    (keeps : Keeps store directory.account)
    (same : session = sessionOf (directory.session index))
    (opened : Opened (directory.session index))
    (allowed : (HandlerCall.login id pw).Allowed session) :
    ∃ result after, (HandlerCall.login id pw).Runs locals around array session store result after ∧
      Performs directory ⟨index, .calls (.login id pw), result.told, around⟩ result.session
        after := by
  have ends : session.Ends := same ▸ ends_sessionOf opened
  have noMeal : ¬ (MenuAction.calls (.login id pw)).asksMeal := by
    rw [asksMeal_calls]
    exact (by decide : ¬ (cmdLogin = cmdGetMeal ∨ cmdLogin = cmdGetMultiMeal))
  rcases @runs_login session locals around store id pw array directory.account keeps allowed ends
    with ⟨name, secret, codes, hasName, hasSecret, known, -, runs⟩ | ⟨unknown, runs⟩
  · have idEnds : EndsWithin maxIdLen id := by
      cases allowed with
      | login _ idEnds _ => exact idEnds
    have enters : (⟨index, .calls (.login id pw), true, around⟩ : ServicePass Index).event =
        .enters index id name secret := by
      show (HandlerCall.login id pw).event around true index = _
      rw [HandlerCall.event, hasName, hasSecret]
      rfl
    have now := Directory.session_enters index id secret known
    refine ⟨_, _, runs, ?_, ?_, ?_, ?_, ?_⟩ <;> rw [enters]
    · exact ⟨codes, known⟩
    · exact keeps
    · rw [now]
      rfl
    · rw [now]
      intro shown place equal
      obtain ⟨rfl, rfl⟩ := Prod.mk.inj (Option.some.inj equal)
      exact ⟨idEnds, keeps.extractable name _ known⟩
    · exact iff_of_true rfl (Or.inl trivial)
  · have told : false = true ↔ (MenuAction.calls (.login id pw)).asksMeal :=
      iff_of_false Bool.false_ne_true noMeal
    rcases event_refusedLogin around index id pw with
      nothing | ⟨name, secret, hasName, hasSecret, quiet, away⟩
    · exact ⟨_, _, runs, .unchanged nothing keeps same opened trivial rfl (fun no => no) told⟩
    · have admits : directory.Admits (.turnedAway name secret) :=
        fun codes => unknown quiet.1 quiet.2 name secret codes hasName hasSecret
      exact ⟨_, _, runs, .unchanged away keeps same opened admits rfl (fun no => no) told⟩

/-! ### Changes -/

/-- A change that is accepted is admitted as its event, which marks the accounts as it does. -/
theorem event_accepted {schoolCodes : Bytes → Option SchoolCodes} {change : Change} {told : Bool}
    (asks : call.change schoolCodes = some change) (keeps : Keeps store directory.account)
    (accepted : change.Accepted around store)
    (fits : ∀ id pw codes, change = .register id pw codes →
      id.length ≤ 19 ∧ pw.length ≤ 19 ∧ codes.Plain)
    (tells : told = true ↔ call.command ≠ cmdDelete) :
    directory.Admits (changeEvent around told change : AccountEvent Index) ∧
      (∀ id, Directory.mark id (changeEvent around told change : AccountEvent Index) =
        accountMark id change) ∧
      (told = true ↔ IsTold (changeEvent around told change : AccountEvent Index)) ∧
      (directory.after (changeEvent around told change)).session = directory.session := by
  have spoken : ∀ command ∈ [cmdRegisterGeneral, cmdUpdate], command ≠ cmdDelete := by decide
  cases asks_of_change asks with
  | @register id pw _ _ _ codes | @addUser id pw _ _ _ codes =>
    obtain rfl := tells.mpr (spoken _ (by simp [HandlerCall.command]))
    rw [changeEvent, if_pos rfl]
    exact ⟨(keeps.free_iff (fits id pw codes rfl)).mp accepted.2.2, fun _ => rfl,
      iff_of_true rfl trivial, rfl⟩
  | update =>
    rw [changeEvent, if_pos accepted.2]
    exact ⟨trivial, fun _ => rfl,
      iff_of_true (tells.mpr (spoken _ (by simp [HandlerCall.command]))) trivial, rfl⟩
  | delete =>
    rw [changeEvent, if_pos accepted.1]
    exact ⟨trivial, fun _ => rfl, iff_of_false (fun yes => tells.mp yes rfl) fun no => no, rfl⟩

/-- A change that is not accepted is no change of the directory. -/
theorem event_unaccepted {change : Change} (keeps : Keeps store directory.account)
    (unaccepted : ¬ change.Accepted around store)
    (fits : ∀ id pw codes, change = .register id pw codes →
      id.length ≤ 19 ∧ pw.length ≤ 19 ∧ codes.Plain) :
    directory.Admits (changeEvent around false change : AccountEvent Index) ∧
      directory.after (changeEvent around false change) = directory ∧
      ¬ IsTold (changeEvent around false change : AccountEvent Index) := by
  cases change with
  | register id pw codes =>
    rw [changeEvent, if_neg Bool.false_ne_true]
    split
    · rename_i quiet
      refine ⟨?_, rfl, fun no => no⟩
      show (directory.account id).isSome = true
      by_contra free
      rw [Option.not_isSome_iff_eq_none] at free
      have row : userRow store id = none := by rw [keeps.row, free]; rfl
      refine unaccepted ⟨?_, quiet, (keeps.free_iff (fits id pw codes rfl)).mpr free⟩
      rw [row]
      exact Bool.and_false _
    · exact ⟨trivial, rfl, fun no => no⟩
  | update id pw codes =>
    have faulty : ¬ around.quiet 2 = true := by
      intro quiet
      refine unaccepted ⟨?_, quiet⟩
      rw [keeps.row]
      cases directory.account id with
      | none => exact Bool.and_false _
      | some account => exact Bool.and_false _
    rw [changeEvent, if_neg faulty]
    exact ⟨trivial, rfl, fun no => no⟩
  | delete id =>
    have faulty : ¬ around.quiet 0 = true := fun quiet => unaccepted ⟨quiet, keeps.unreferenced id⟩
    rw [changeEvent, if_neg faulty]
    exact ⟨trivial, rfl, fun no => no⟩
  | link | unlink => exact ⟨trivial, rfl, fun no => no⟩

theorem performs_change (array : ResponseArray) (regular : around.Regular)
    (keeps : Keeps store directory.account)
    (same : session = sessionOf (directory.session index))
    (opened : Opened (directory.session index)) (allowed : call.Allowed session)
    (sent : call.sent = some text) (changes : call.command ∈ changing) :
    ∃ result after, call.Runs locals around array session store result after ∧
      Performs directory ⟨index, .calls call, result.told, around⟩ result.session after := by
  have ends : session.Ends := same ▸ ends_sessionOf opened
  have meals : ∀ command ∈ changing, ¬ (command = cmdGetMeal ∨ command = cmdGetMultiMeal) := by
    decide
  have noMeal : ¬ (MenuAction.calls call).asksMeal :=
    fun meal => meals _ changes (asksMeal_calls.mp meal)
  have admissible := @admissible_sent session call text locals around allowed ends sent regular
  have demand := @demand_sent session call text locals around allowed ends sent
  have settles := serve_settles ⟨text, locals, around⟩ store admissible.quoteFree
    (parseRequest_sent allowed ends sent) changes
  obtain ⟨told, runs, tells⟩ := @runs_change session call text locals around store allowed ends
    sent changes array
  have event : (⟨index, .calls call, told, around⟩ : ServicePass Index).event =
      ((call.change around.schoolCodes).map (changeEvent around told)).getD .nothing := by
    refine (event_change (noLogin_of_changes changes) around told index).trans ?_
    rw [HandlerCall.asked, sent, Option.bind_some]
  have fits : ∀ change, call.change around.schoolCodes = some change → ∀ id pw codes,
      change = .register id pw codes → id.length ≤ 19 ∧ pw.length ≤ 19 ∧ codes.Plain := by
    rintro change asks id pw codes rfl
    exact admissible.fits (Or.inl (demand.trans asks))
  rw [demand] at settles
  refine ⟨_, _, runs, ?_⟩
  cases settles with
  | refused unaccepted stored error =>
    have untold : told = false := by
      rw [← Bool.not_eq_true, tells]
      exact fun spoken => error ((World.succeeds_iff _).mp spoken.2)
    subst untold
    have kept : Keeps (serve ⟨text, locals, around⟩ store).store directory.account := by
      rw [show (serve ⟨text, locals, around⟩ store).store = store from stored]
      exact keeps
    have told : false = true ↔ (MenuAction.calls call).asksMeal :=
      iff_of_false Bool.false_ne_true noMeal
    cases asks : call.change around.schoolCodes with
    | none =>
      rw [asks] at event
      exact .unchanged event kept same opened trivial rfl (fun no => no) told
    | some change =>
      rw [asks] at event
      obtain ⟨admits, idle, silent⟩ := @event_unaccepted Index _ directory store around change keeps
        (unaccepted change asks) (fits change asks)
      exact .unchanged event kept same opened admits idle silent told
  | made change asks accepted stored succeeds =>
    have spoken : told = true ↔ call.command ≠ cmdDelete :=
      tells.trans (and_iff_left ((World.succeeds_iff _).mpr succeeds))
    rw [asks] at event
    obtain ⟨admits, marks, heard, quiet⟩ := @event_accepted Index _ directory store around call _
      change told asks keeps accepted (fits change asks) spoken
    refine .changed event ?_ same opened admits quiet heard noMeal
    rw [show (serve ⟨text, locals, around⟩ store).store = change.apply store from stored]
    have applied := keeps.apply admissible regular (demand.trans asks) accepted.possible
      fun childId parentId => by cases asks_of_change asks <;> exact ⟨nofun, nofun⟩
    have accounts : (directory.after (changeEvent around told change)).account =
        fun id => (accountMark id change).apply (directory.account id) := by
      funext id
      rw [Directory.account_after, marks]
    show Keeps _ (directory.after (changeEvent around told change)).account
    rw [accounts]
    exact applied

/-! ### Every action -/

/-- The server serves whatever a session allows: the pass ends, nothing is left on the wire, and its
event is what has happened. -/
theorem performs_action {action : MenuAction} (array : ResponseArray) (regular : around.Regular)
    (keeps : Keeps store directory.account)
    (same : session = sessionOf (directory.session index))
    (opened : Opened (directory.session index)) (allowed : action.Allowed session) :
    ∃ result after, Program.run (Wire.answer (serverReact locals around))
        (action.perform array session) ⟨[], store⟩ = (some result, ⟨[], after⟩) ∧
      Performs directory ⟨index, action, result.told, around⟩ result.session after := by
  have silent : ∀ action : MenuAction, (∀ call, action ≠ .calls call) → ¬ action.asksMeal :=
    fun action others ⟨call, calls, _⟩ => others call calls
  cases action with
  | calls call =>
    by_cases changes : call.command ∈ changing
    · cases sent : call.sent with
      | none =>
        have meals : ∀ command ∈ changing,
            ¬ (command = cmdGetMeal ∨ command = cmdGetMultiMeal) := by decide
        have nothing : (⟨index, .calls call, false, around⟩ : ServicePass Index).event =
            .nothing := by
          refine (event_change (noLogin_of_changes changes) around false index).trans ?_
          rw [HandlerCall.asked, sent]
          rfl
        exact ⟨_, _, runs_unsent array sent, .unchanged nothing keeps same opened trivial rfl
          (fun no => no) (iff_of_false Bool.false_ne_true fun meal =>
            meals _ changes (asksMeal_calls.mp meal))⟩
      | some text => exact performs_change array regular keeps same opened allowed sent changes
    · have ends : session.Ends := same ▸ ends_sessionOf opened
      cases call with
      | login id pw => exact performs_login array keeps same opened allowed
      | meal eduOffice schoolName date =>
        exact ⟨_, _, runs_meal allowed ends array regular (Or.inl rfl),
          .unchanged rfl keeps same opened trivial rfl (fun no => no)
            (iff_of_true rfl (asksMeal_calls.mpr (Or.inl rfl)))⟩
      | mealsPeriod eduOffice schoolName startDate endDate =>
        exact ⟨_, _, runs_meal allowed ends array regular (Or.inr rfl),
          .unchanged rfl keeps same opened trivial rfl (fun no => no)
            (iff_of_true rfl (asksMeal_calls.mpr (Or.inr rfl)))⟩
      | register | addUser =>
        exact absurd (by decide : cmdRegisterGeneral ∈ changing) changes
      | updateUser => exact absurd (by decide : cmdUpdate ∈ changing) changes
      | deleteUser => exact absurd (by decide : cmdDelete ∈ changing) changes
  | logout =>
    have now := Directory.session_leaves directory index
    refine ⟨⟨handleLogout, true⟩, store, rfl, trivial, keeps, ?_, ?_, ?_⟩
    · show handleLogout = sessionOf ((directory.after (.leaves index)).session index)
      rw [now]
      rfl
    · show Opened ((directory.after (.leaves index)).session index)
      rw [now]
      exact nofun
    · exact iff_of_true rfl (Or.inl trivial)
  | nothing =>
    exact ⟨⟨session, false⟩, store, rfl, .unchanged rfl keeps same opened trivial rfl
      (fun no => no) (iff_of_false Bool.false_ne_true (silent _ nofun))⟩
  | exit =>
    exact ⟨⟨session, false⟩, store, rfl, .unchanged rfl keeps same opened trivial rfl
      (fun no => no) (iff_of_false Bool.false_ne_true (silent _ nofun))⟩

end Performs

/-! ### Steps and runs -/

variable {service after : Service Index} {pass : ServicePass Index}
  {directory : AccountDirectory Index}

/-- A pass leaves the other clients as they are. -/
theorem others_of_step (step : ServiceStep service pass after) {client : Index}
    (apart : client ≠ pass.index) : after.terminals client = service.terminals client := by
  obtain ⟨-, -, -⟩ := step
  exact Function.update_of_ne apart _ _

/-- A step of the service is a step of the directory, and the user is told what has happened. -/
theorem represents_step (regular : pass.around.Regular) (represents : Represents service directory)
    (step : ServiceStep service pass after) :
    Directory.Step directory pass.event (directory.after pass.event) ∧
      Represents after (directory.after pass.event) ∧
      (pass.told = true ↔ IsTold pass.event ∨ pass.action.asksMeal) := by
  obtain ⟨running, reads, ran⟩ := step
  rename_i index _ menuLocals locals around input result wire
  obtain ⟨other, stored, performed, performs⟩ := @performs_action Index _ directory index
    (service.terminals index).client.session service.store around locals input.action
    menuLocals.response regular represents.keeps (represents.session index)
    (represents.opened index) (allowed_readPass menuLocals reads)
  rw [represents.wires index, performed] at ran
  obtain ⟨given, rfl⟩ := Prod.mk.inj ran
  obtain rfl := Option.some.inj given
  have others : ∀ client, client ≠ index → ∀ event, event =
      (⟨index, input.action, other.told, around⟩ : ServicePass Index).event →
        (directory.after event).session client = directory.session client := by
    rintro client apart event rfl
    exact Directory.session_after fun concerns => apart (concerns_event concerns).symm
  refine ⟨⟨performs.admits, rfl⟩, ⟨?_, performs.keeps, ?_, ?_⟩, performs.told⟩
  · intro client
    dsimp only
    by_cases own : client = index
    · subst own
      rw [Function.update_self]
    · rw [Function.update_of_ne own]
      exact represents.wires client
  · intro client
    dsimp only
    by_cases own : client = index
    · subst own
      rw [Function.update_self]
      exact performs.session
    · rw [Function.update_of_ne own, others client own _ rfl]
      exact represents.session client
  · intro client
    by_cases own : client = index
    · subst own
      exact performs.opened
    · rw [others client own _ rfl]
      exact represents.opened client

section Told

variable {call : HandlerCall} {id pw name secret : Bytes} {codes : SchoolCodes}

/-- While SQLite works, a login succeeds exactly with the secret of the account. -/
theorem told_login (regular : pass.around.Regular) (represents : Represents service directory)
    (step : ServiceStep service pass after) (calls : pass.action = .calls (.login id pw))
    (hasName : (HandlerCall.login id pw).read[0]? = some name)
    (hasSecret : (HandlerCall.login id pw).read[1]? = some secret)
    (quiet : pass.around.quiet 0 = true ∧ pass.around.quiet 1 = true) :
    pass.told = true ↔ ∃ codes, directory.account name = some (secret, codes) := by
  obtain ⟨⟨admitted, -⟩, -, -⟩ := represents_step regular represents step
  have event : pass.event = loginEvent pass.around pass.told pass.index id name secret := by
    rw [event_calls calls, HandlerCall.event, hasName, hasSecret]
    rfl
  rw [event, loginEvent] at admitted
  cases told : pass.told with
  | true =>
    rw [told, if_pos rfl] at admitted
    exact iff_of_true rfl admitted
  | false =>
    rw [told, if_neg Bool.false_ne_true, if_pos (by simp [quiet])] at admitted
    exact iff_of_false Bool.false_ne_true fun ⟨codes, known⟩ => admitted codes known

/-- While SQLite works, a registration succeeds exactly under a name that is free. -/
theorem told_registration (regular : pass.around.Regular)
    (represents : Represents service directory) (step : ServiceStep service pass after)
    (calls : pass.action = .calls call)
    (asked : call.asked pass.around.schoolCodes = some (.register id pw codes))
    (quiet : pass.around.quiet 2 = true) :
    pass.told = true ↔ directory.account id = none := by
  obtain ⟨⟨admitted, -⟩, -, -⟩ := represents_step regular represents step
  rw [event_asked calls asked, changeEvent] at admitted
  cases told : pass.told with
  | true =>
    rw [told, if_pos rfl] at admitted
    exact iff_of_true rfl admitted
  | false =>
    rw [told, if_neg Bool.false_ne_true, if_pos quiet] at admitted
    refine iff_of_false Bool.false_ne_true fun free => ?_
    have taken : (directory.account id).isSome = true := admitted
    rw [free] at taken
    cases taken

end Told

section Runs

variable {choice : Index → Int} {stdin : Index → Bytes} {passes : List (ServicePass Index)}

/-- The service serves what a client reads. -/
theorem served (represents : Represents service directory) {index : Index} {rounds : Nat}
    {menuLocals : MenuLocals} {input : PassInput}
    (running : (service.terminals index).client.running = true)
    (reads : readPass rounds menuLocals (service.terminals index).client = some input)
    (locals : Locals) {around : Surroundings} (regularNow : around.Regular) :
    ∃ told after, ServiceStep service ⟨index, input.action, told, around⟩ after ∧
      Represents after
        (directory.after (⟨index, input.action, told, around⟩ : ServicePass Index).event) ∧
      (after.terminals index).client = ⟨sessionOf ((directory.after
        (⟨index, input.action, told, around⟩ : ServicePass Index).event).session index),
          input.choice, input.stdin, input.action.goesOn⟩ := by
  obtain ⟨result, stored, performed, performs⟩ := @performs_action Index _ directory index
    (service.terminals index).client.session service.store around locals input.action
    menuLocals.response regularNow represents.keeps (represents.session index)
    (represents.opened index) (allowed_readPass menuLocals reads)
  rw [← represents.wires index] at performed
  have step := ServiceStep.pass running reads performed
  refine ⟨_, _, step, (represents_step regularNow represents step).2.1, ?_⟩
  dsimp only
  rw [Function.update_self, performs.session]

end Runs

end Events

/-! ### A sample run -/

theorem regular_calm : (Surroundings.calm ⟨utf8 "B10", utf8 "7010569"⟩).Regular := by
  refine ⟨fun schoolName codes found => ?_, fun _ _ _ => nofun, fun _ _ _ _ => nofun⟩
  obtain rfl := Option.some.inj found
  exact ⟨⟨by decide, by decide, by decide, by decide⟩, by decide, by decide, by decide⟩

def registrationInput : Bytes := utf8 "2\nuser1\n1234\n서울특별시교육청\nSample School\n"

/-- Two clients: one registers a user, twice, and the other one logs in and deletes the user. -/
def sampleStdin (registers : Bool) : Bytes :=
  if registers then registrationInput ++ registrationInput
  else utf8 "1\nuser1\n1234\n3\n3\nuser1\n"

def registrationPass : ServicePass Bool :=
  ⟨true, .calls (.register (utf8 "user1") (utf8 "1234") (utf8 "서울특별시교육청")
    (utf8 "Sample School")), true, .calm ⟨utf8 "B10", utf8 "7010569"⟩⟩

theorem asked_registrationPass : (HandlerCall.register (utf8 "user1") (utf8 "1234")
      (utf8 "서울특별시교육청") (utf8 "Sample School")).asked
        registrationPass.around.schoolCodes =
    some (.register (utf8 "user1") (utf8 "1234") ⟨utf8 "B10", utf8 "7010569"⟩) := by
  decide

/-- Whenever its user is free, the first client registers him. -/
theorem step_registrationPass {service : Service Bool} {directory : AccountDirectory Bool}
    {choice : Int} {rest : Bytes} (represents : Represents service directory)
    (client : (service.terminals true).client =
      ⟨Session.empty, choice, registrationInput ++ rest, true⟩)
    (reads : readPass 1 .zeroed ⟨Session.empty, choice, registrationInput ++ rest, true⟩ =
      some ⟨registrationPass.action, 2, rest⟩)
    (free : directory.account (utf8 "user1") = none) :
    ∃ after, ServiceStep service registrationPass after ∧
      Represents after (directory.after registrationPass.event) ∧
      (after.terminals true).client =
        ⟨sessionOf ((directory.after registrationPass.event).session true), 2, rest, true⟩ := by
  obtain ⟨told, after, step, reached, left⟩ := @served Bool _ service directory represents true 1
    .zeroed ⟨registrationPass.action, 2, rest⟩ (by rw [client]) (by rw [client]; exact reads)
    .zeroed registrationPass.around regular_calm
  obtain rfl : told = true := (told_registration regular_calm represents step rfl
    asked_registrationPass rfl).mpr free
  exact ⟨after, step, reached, left⟩

theorem event_registrationPass : registrationPass.event =
    .registers (utf8 "user1") (utf8 "1234") ⟨utf8 "B10", utf8 "7010569"⟩ :=
  (event_asked rfl asked_registrationPass).trans rfl

theorem runs_registrationPass : ∃ service,
    Runs ServiceStep (.start (fun _ => 0) sampleStdin) [registrationPass] service ∧
      Represents service (Directory.State.empty.after registrationPass.event) ∧
      (service.terminals true).client = ⟨Session.empty, 2, registrationInput, true⟩ ∧
      (service.terminals false).client = .start 0 (sampleStdin false) := by
  obtain ⟨service, step, represents, left⟩ := @step_registrationPass
    (.start (fun _ => 0) sampleStdin) .empty 0 registrationInput (represents_start _ _) rfl
    (by decide) rfl
  rw [event_registrationPass] at left
  refine ⟨service, Runs.nil.snoc step, represents, left, ?_⟩
  rw [others_of_step step (by decide)]
  rfl

end SchoolMeals
