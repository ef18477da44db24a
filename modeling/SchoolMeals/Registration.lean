/-
This file compares the two handlers of the client that register a user. They send
the same request and read the same reply, each with case splits of its own: the
server says with a message that an identifier is taken, one handler knows the
message, and the other waits for a status that the server never sends. One of
them also refuses an education office that the other one sends.
-/

import SchoolMeals.RoundTrip
import SchoolMeals.UserHandlers

namespace SchoolMeals

open CText Interaction

/-! ### What became of a registration -/

/-- What a handler tells its caller about a registration. -/
inductive RegistrationClass where
  | registered
  | idTaken
  | otherFailure
  deriving DecidableEq

/-- What `handle_register` says: it returns true, or leaves its notice of a taken identifier. A text
that is not defined is no such notice. -/
def Told.registrationClass (told : Told) : RegistrationClass :=
  if told.returned then .registered
  else if told.response = some registerTaken then .idTaken
  else .otherFailure

theorem registrationClass_of_failed (response : Option Bytes) :
    Told.registrationClass ⟨false, response⟩ =
      if response = some registerTaken then .idTaken else .otherFailure := rfl

/-- What `handle_add_user` says: it returns true, or sets the status to `RESP_DUPLICATE`. -/
def UserChange.registrationClass (change : UserChange) : RegistrationClass :=
  if change.returned then .registered
  else if change.status = respDuplicate then .idTaken
  else .otherFailure

section Converse

variable (locals : Locals) (around : Surroundings) (store : Store)

/-- The result of a handler that talks to this server. -/
def converse {Result : Type} (handler : Client Result) : Option Result :=
  (Program.run (Wire.answer (serverReact locals around)) handler ⟨[], store⟩).1

/-- A handler whose request is answered with one reply, or with none. -/
theorem converse_exchange {Result : Type} {request : Bytes} (nonempty : request ≠ [])
    (unsent unanswered : Result) (read : Bytes → Result) {reply : Option Reply}
    (wellFormed : ∀ given ∈ reply, given.WellFormed)
    (sent : (serve ⟨request, locals, around⟩ store).sent = reply.toList) :
    converse locals around store (exchange request unsent unanswered read) =
      some ((reply.map fun reply => read reply.text).getD unanswered) := by
  have delivered : Wire.deliver (serverReact locals around) ⟨[], store⟩ request =
      ⟨reply.toList.map Reply.text, (serve ⟨request, locals, around⟩ store).store⟩ := by
    rw [Wire.deliver, serverReact, sent]
    rfl
  cases reply with
  | none =>
    have received : Program.run (Wire.answer (serverReact locals around)) receiveResponse
        ⟨[], (serve ⟨request, locals, around⟩ store).store⟩ = (some (false, responseTimedOut),
          ⟨[], (serve ⟨request, locals, around⟩ store).store⟩) := rfl
    rw [converse, run_exchange _ unsent unanswered read nonempty (delivered ▸ received)]
    rfl
  | some reply =>
    have given := wellFormed reply rfl
    have received := receives_chunk (serverReact locals around) []
      (serve ⟨request, locals, around⟩ store).store given.text_eq.2.1 given.text_eq.2.2
      given.complete
    rw [converse, run_exchange _ unsent unanswered read nonempty (delivered ▸ received)]
    rfl

/-! ### What the server answers -/

/-- The operands the server finds in the request of both handlers. -/
def registrationOperands (id pw eduOffice schoolName : Bytes) : List Bytes :=
  (fields cmdDelimiter (cString (handleAddUser id pw eduOffice schoolName))).tail

/-- The server refuses these operands because `is_user_exists` finds the first of them. -/
def refusesTaken : List Bytes → Bool
  | id :: _ :: _ :: _ :: _ => around.quiet 0 && (userRow store id).isSome
  | _ => false

/-- The server registers these operands. -/
def registersUser : List Bytes → Bool
  | id :: pw :: _ :: schoolName :: _ =>
    !(around.quiet 0 && (userRow store id).isSome) &&
      (around.schoolCodes schoolName).any fun codes =>
        (inserted around store (generalUser id pw codes)).1
  | _ => false

def invalidReply : ChangeReply :=
  ⟨false, respInvalidRequest, by decide, by decide, by decide, by decide⟩

def takenReply : ChangeReply := ⟨false, errIdDuplicate, by decide, by decide, by decide, by decide⟩

def unknownSchoolReply : ChangeReply :=
  ⟨false, schoolNotFound, by decide, by decide, by decide, by decide⟩

def registeredReply : ChangeReply :=
  ⟨true, respRegisterOk, by decide, by decide, by decide, by decide⟩

/-- The reply to a registration with these operands; a user that is not inserted gets none. -/
def registrationReply : List Bytes → Option ChangeReply
  | id :: pw :: _ :: schoolName :: _ =>
    if around.quiet 0 && (userRow store id).isSome then some takenReply
    else
      match around.schoolCodes schoolName with
      | none => some unknownSchoolReply
      | some codes =>
        if (inserted around store (generalUser id pw codes)).1 then some registeredReply else none
  | _ => some invalidReply

/-- The request is read as a registration, whatever its operands are. -/
theorem parseRequest_handleAddUser (id pw eduOffice schoolName : Bytes) :
    parseRequest (handleAddUser id pw eduOffice schoolName) =
      some ⟨cmdRegisterGeneral, bindOperands cmdRegisterGeneral
        (registrationOperands id pw eduOffice schoolName)⟩ := by
  have isCommand : IsToken cmdDelimiter cmdRegisterGeneral := by decide
  have headFree : 0 ∉ cmdRegisterGeneral ++ cmdDelimiter := by decide
  have short : (cmdRegisterGeneral ++ cmdDelimiter).length ≤ bufferSize - 1 := by decide
  have headed : ∀ rest, snprintf bufferSize (cmdRegisterGeneral ++ cmdDelimiter ++ rest) =
      cmdRegisterGeneral ++ cmdDelimiter ++
        rest.take (bufferSize - 1 - (cmdRegisterGeneral ++ cmdDelimiter).length) := by
    intro rest
    rw [snprintf, List.take_append, List.take_of_length_le short]
  obtain ⟨rest, written⟩ : ∃ rest, handleAddUser id pw eduOffice schoolName =
      cmdRegisterGeneral ++ cmdDelimiter ++ rest := by
    refine ⟨_, Eq.trans ?_ (headed (id ++ cmdDelimiter ++ pw ++ cmdDelimiter ++ eduOffice ++
      cmdDelimiter ++ schoolName))⟩
    simp only [handleAddUser, List.append_assoc]
  have read : fields cmdDelimiter (cString (handleAddUser id pw eduOffice schoolName)) =
      cmdRegisterGeneral :: registrationOperands id pw eduOffice schoolName := by
    rw [registrationOperands, written, cString_append rest headFree,
      fields_delimited isCommand]
    rfl
  exact parseRequest_of_fields read

theorem World.sent_of_outcome {world : World} {outcome : Outcome}
    (same : world.outcome = outcome) : world.sent = outcome.replies := by
  subst same
  rfl

theorem serve_handleAddUser (id pw eduOffice schoolName : Bytes) :
    (serve ⟨handleAddUser id pw eduOffice schoolName, locals, around⟩ store).sent =
      ((registrationReply around store
        (registrationOperands id pw eduOffice schoolName)).map ChangeReply.reply).toList := by
  generalize found : registrationOperands id pw eduOffice schoolName = operands
  have program : handleClient locals (handleAddUser id pw eduOffice schoolName) =
      registerGeneral operands[0]? operands[1]? operands[2]? operands[3]? := by
    rw [handleClient, parseRequest_handleAddUser, found]
    rfl
  have outcome : (serve ⟨handleAddUser id pw eduOffice schoolName, locals, around⟩ store).outcome =
      outcomeOf around store
        (registerGeneral operands[0]? operands[1]? operands[2]? operands[3]?) := by
    rw [serve, outcomeOf, program]
  rw [World.sent_of_outcome outcome]
  rcases operands with _ | ⟨first, _ | ⟨second, _ | ⟨third, _ | ⟨fourth, more⟩⟩⟩⟩
  · rfl
  · rfl
  · rfl
  · rfl
  · show (outcomeOf around store
      (registerGeneral (some first) (some second) (some third) (some fourth))).replies = _
    rw [outcomeOf_registerGeneral, registerOutcome, registrationReply]
    cases around.quiet 0 && (userRow store first).isSome with
    | true => rfl
    | false =>
      cases around.schoolCodes fourth with
      | none => rfl
      | some codes =>
        show (if (inserted around store (generalUser first second codes)).1 then
          [success respRegisterOk []] else []) = (Option.map ChangeReply.reply
            (if (inserted around store (generalUser first second codes)).1 then
              some registeredReply else none)).toList
        cases (inserted around store (generalUser first second codes)).1 <;> rfl

theorem wellFormed_registrationReply (operands : List Bytes) :
    ∀ given ∈ (registrationReply around store operands).map ChangeReply.reply,
      given.WellFormed := by
  rintro given member
  obtain ⟨reply, _, rfl⟩ := Option.mem_map.mp member
  exact reply.wellFormed

/-- The reply says that the identifier is taken exactly when the server refuses it for that, and
reports a success exactly when the server registers the user. -/
theorem registrationReply_spec (operands : List Bytes) :
    ((registrationReply around store operands).any (·.IsIdDuplicate) =
        refusesTaken around store operands) ∧
      (registrationReply around store operands).any (·.IsRegisterOk) =
        registersUser around store operands := by
  have invalid : decide invalidReply.IsIdDuplicate = false ∧
      decide invalidReply.IsRegisterOk = false := by decide
  have taken : decide takenReply.IsIdDuplicate = true ∧
      decide takenReply.IsRegisterOk = false := by decide
  have unknown : decide unknownSchoolReply.IsIdDuplicate = false ∧
      decide unknownSchoolReply.IsRegisterOk = false := by decide
  have success : decide registeredReply.IsIdDuplicate = false ∧
      decide registeredReply.IsRegisterOk = true := by decide
  match operands with
  | [] => exact invalid
  | [_] => exact invalid
  | [_, _] => exact invalid
  | [_, _, _] => exact invalid
  | id :: pw :: _ :: schoolName :: _ =>
    simp only [registrationReply, refusesTaken, registersUser]
    cases around.quiet 0 && (userRow store id).isSome with
    | true => exact taken
    | false =>
      cases around.schoolCodes schoolName with
      | none => exact unknown
      | some codes =>
        simp only [Option.any_some]
        cases (inserted around store (generalUser id pw codes)).1 with
        | false => exact ⟨rfl, rfl⟩
        | true => exact success

/-! ### What the handlers make of it -/

section Handlers

variable (array : ResponseArray) (id pw eduOffice schoolName : Bytes)

/-- `handle_add_user` knows a success and nothing else: the server never sends its status of a
taken identifier. -/
theorem converse_handleAddUser :
    ∃ change, converse locals around store
        (Client.handleAddUser array id pw eduOffice schoolName) = some change ∧
      change.registrationClass =
        if registersUser around store (registrationOperands id pw eduOffice schoolName) then
          .registered else .otherFailure := by
  have ran := converse_exchange locals around store
    (ChangeReply.handleAddUser_ne_nil id pw eduOffice schoolName)
    ⟨false, respError, communicationError⟩ ⟨false, respError, noAnswer⟩
    (fun text => readAddUser (strcpyInto array.bytes text))
    (wellFormed_registrationReply around store (registrationOperands id pw eduOffice schoolName))
    (serve_handleAddUser locals around store id pw eduOffice schoolName)
  rw [← (registrationReply_spec around store _).2]
  refine ⟨_, ran, ?_⟩
  cases registrationReply around store (registrationOperands id pw eduOffice schoolName) with
  | none => rfl
  | some reply =>
    simp only [Option.map_some, Option.getD_some, Option.any_some, decide_eq_true_eq]
    rw [reply.readAddUser_eq]
    by_cases isOk : reply.IsRegisterOk
    · rw [if_pos isOk, if_pos isOk]
      rfl
    · have notTaken : ¬ (reply.reply.status : Int) = respDuplicate := reply.status_ne_duplicate
      rw [if_neg isOk, if_neg isOk]
      exact if_neg notTaken

/-- `handle_register` knows the message of a taken identifier. -/
theorem converse_handleRegister {eduOffice : Bytes} (valid : isValidEduOffice eduOffice = true) :
    ∃ told, converse locals around store
        (Client.handleRegister array id pw eduOffice schoolName) = some told ∧
      told.registrationClass =
        if registersUser around store (registrationOperands id pw eduOffice schoolName) then
          .registered
        else if refusesTaken around store (registrationOperands id pw eduOffice schoolName) then
          .idTaken
        else .otherFailure := by
  have ran := converse_exchange locals around store
    (ChangeReply.handleAddUser_ne_nil id pw eduOffice schoolName)
    ⟨false, some registerUnsent⟩ ⟨false, some registerUnanswered⟩
    (fun text => readRegister (strcpyInto array.bytes text))
    (wellFormed_registrationReply around store (registrationOperands id pw eduOffice schoolName))
    (serve_handleAddUser locals around store id pw eduOffice schoolName)
  rw [← (registrationReply_spec around store _).1, ← (registrationReply_spec around store _).2,
    Client.handleRegister, ChangeReply.handleRegister_of_valid id pw schoolName valid]
  refine ⟨_, ran, ?_⟩
  cases registrationReply around store (registrationOperands id pw eduOffice schoolName) with
  | none =>
    exact (by decide : Told.registrationClass ⟨false, some registerUnanswered⟩ = .otherFailure)
  | some reply =>
    simp only [Option.map_some, Option.getD_some, Option.any_some, decide_eq_true_eq]
    rw [reply.readRegister_eq]
    by_cases isOk : reply.IsRegisterOk
    · rw [if_pos isOk, if_pos isOk]
      rfl
    · rw [if_neg isOk, if_neg isOk]
      by_cases isTaken : reply.IsIdDuplicate
      · rw [if_pos isTaken, if_pos isTaken]
        exact (registrationClass_of_failed _).trans (if_pos rfl)
      · rw [if_neg isTaken, if_neg isTaken]
        exact (registrationClass_of_failed _).trans (if_neg (Option.some_ne_none _).symm)

/-- An education office that is not valid is not sent at all. -/
theorem converse_handleRegister_of_invalid {eduOffice : Bytes}
    (invalid : isValidEduOffice eduOffice = false) :
    converse locals around store (Client.handleRegister array id pw eduOffice schoolName) =
      some ⟨false, some wrongOffice⟩ := by
  rw [Client.handleRegister, handleRegister, invalid]
  rfl

end Handlers

/-- Both handlers put what becomes of their registration into the same class, and both report an
identifier that the server finds taken. -/
def Agrees (registerArray addArray : ResponseArray) (id pw eduOffice schoolName : Bytes) : Prop :=
  ∃ told change,
    converse locals around store (Client.handleRegister registerArray id pw eduOffice schoolName) =
      some told ∧
    converse locals around store (Client.handleAddUser addArray id pw eduOffice schoolName) =
      some change ∧
    told.registrationClass = change.registrationClass ∧
    (refusesTaken around store (registrationOperands id pw eduOffice schoolName) = true →
      told.registrationClass = .idTaken ∧ change.registrationClass = .idTaken ∧
        change.status = respDuplicate)

/-- A user the server registers is not one whose identifier it finds taken. -/
theorem not_refusesTaken_of_registersUser (operands : List Bytes)
    (registers : registersUser around store operands = true) :
    refusesTaken around store operands = false := by
  match operands with
  | [] => rfl
  | [_] => rfl
  | [_, _] => rfl
  | [_, _, _] => rfl
  | id :: pw :: _ :: schoolName :: _ =>
    exact Bool.not_eq_true' _ ▸ (Bool.and_eq_true_iff.mp registers).1

/-- The handlers agree exactly when the server does not find the identifier taken and, where the
education office is not valid, does not register the user either. -/
theorem registrationsAgree_iff (registerArray addArray : ResponseArray)
    (id pw eduOffice schoolName : Bytes) :
    Agrees locals around store registerArray addArray id pw eduOffice schoolName ↔
      refusesTaken around store (registrationOperands id pw eduOffice schoolName) = false ∧
        (isValidEduOffice eduOffice = false →
          registersUser around store
            (registrationOperands id pw eduOffice schoolName) = false) := by
  obtain ⟨change, added, addClass⟩ :=
    converse_handleAddUser locals around store addArray id pw eduOffice schoolName
  obtain ⟨told, asked, registerClass⟩ : ∃ told, converse locals around store
      (Client.handleRegister registerArray id pw eduOffice schoolName) = some told ∧
      told.registrationClass =
        if isValidEduOffice eduOffice = false then .otherFailure
        else if registersUser around store (registrationOperands id pw eduOffice schoolName) then
          .registered
        else if refusesTaken around store (registrationOperands id pw eduOffice schoolName) then
          .idTaken
        else .otherFailure := by
    cases valid : isValidEduOffice eduOffice with
    | true => exact converse_handleRegister locals around store registerArray id pw schoolName valid
    | false =>
      exact ⟨_, converse_handleRegister_of_invalid locals around store registerArray id pw
        schoolName valid, rfl⟩
  have exclusive := not_refusesTaken_of_registersUser around store
    (registrationOperands id pw eduOffice schoolName)
  simp only [Agrees, asked, added, Option.some.injEq, exists_eq_left', exists_and_left,
    registerClass, addClass]
  -- the two classes and the two sides depend on three tests only
  cases registersUser around store (registrationOperands id pw eduOffice schoolName) <;>
    cases refusesTaken around store (registrationOperands id pw eduOffice schoolName) <;>
    cases isValidEduOffice eduOffice <;> simp at exclusive ⊢

end Converse

/-- A user who is already in the store is registered again: one handler reports an identifier that
is taken, the other one some failure. -/
theorem not_agrees_taken :
    ¬ Agrees .zeroed sampleAround (withUser initDb sampleUser) ChangeReply.zeroArray
      ChangeReply.zeroArray (utf8 "user1") (utf8 "1234") (utf8 "경기도교육청")
      (utf8 "부천중학교") := by
  rintro ⟨told, change, _, added, _, reported⟩
  have taken : refusesTaken sampleAround (withUser initDb sampleUser) (registrationOperands
      (utf8 "user1") (utf8 "1234") (utf8 "경기도교육청") (utf8 "부천중학교")) = true := by
    decide
  obtain ⟨other, same, otherClass⟩ := converse_handleAddUser .zeroed sampleAround
    (withUser initDb sampleUser) ChangeReply.zeroArray (utf8 "user1") (utf8 "1234")
    (utf8 "경기도교육청") (utf8 "부천중학교")
  obtain rfl := Option.some.inj (added.symm.trans same)
  rw [(reported taken).2.1] at otherClass
  split at otherClass <;> cases otherClass

end SchoolMeals
