/-
This file models the handlers of the client that change users, with what they
make of the reply. The tokens of a reply are addresses in the array it was
received in. Adding and updating leave their text in an array of their own, so
the reply stays as it was. Deleting moves the message to the beginning of the
array, where the status stands that it compares afterwards; registering writes
its heading over the message that it means to append, and what it prints then is
not defined.
-/

import SchoolMeals.Library.InPlace
import SchoolMeals.Handlers

namespace SchoolMeals

open CText Interaction

/-! ### What a handler leaves -/

/-- The array a caller passes for the text of a handler, with whatever it held before. -/
structure ResponseArray where
  bytes : Bytes
  size : bytes.length = bufferSize

/-- What a handler returns, and the text it leaves for the user where that is defined. -/
structure Told where
  returned : Bool
  response : Option Bytes
  deriving DecidableEq

/-- What `handle_add_user` and `handle_update_user` return and leave in `*status` and `message`. -/
structure UserChange where
  returned : Bool
  status : Int
  message : Bytes
  deriving DecidableEq

/-- A handler sends its request, receives one reply and reads it. -/
def exchange {Result : Type} (request : Bytes) (unsent unanswered : Result)
    (read : Bytes → Result) : Client Result := do
  if !(← sendData request) then return unsent
  else
    let response ← receiveResponse
    if !response.1 then return unanswered
    else return read response.2

/-- `strtok(response, CMD_DELIMITER)` and `strtok(NULL, CMD_DELIMITER)`. -/
def replyTokens (response : Bytes) : List (Option Nat) × Bytes :=
  strtokCalls cmdDelimiter 2 response 0

def noAnswer : Bytes := utf8 "서버 응답 없음"
def unreadable : Bytes := utf8 "서버 응답 파싱 오류"

/-! ### Adding and updating -/

/-- `RESP_DUPLICATE`. -/
def respDuplicate : Nat := 2

def userAdded : Bytes := utf8 "🎉 사용자가 성공적으로 추가되었습니다!"
def idTaken : Bytes := utf8 "⚠️ 입력한 아이디는 이미 사용 중입니다."
def addFailed : Bytes := utf8 "❌ 사용자 추가 실패: "

/-- The end of `handle_add_user`, with the reply in its own array. -/
def readAddUser (response : Bytes) : UserChange :=
  match replyTokens response with
  | ([some status, some msg], response) =>
    let code := atoi (stringAt response status)
    if code = respSuccess ∧ stringAt response msg = respRegisterOk then ⟨true, code, userAdded⟩
    else if code = respDuplicate then ⟨false, code, idTaken⟩
    else ⟨false, code, snprintf bufferSize (addFailed ++ stringAt response msg)⟩
  | _ => ⟨false, respError, unreadable⟩

/-- The end of `handle_update_user`, with the reply in its own array. -/
def readUpdateUser (response : Bytes) : UserChange :=
  match replyTokens response with
  | ([some status, some msg], response) =>
    let code := atoi (stringAt response status)
    ⟨code = respSuccess, code, snprintf bufferSize (stringAt response msg)⟩
  | _ => ⟨false, respError, unreadable⟩

/-! ### Deleting and registering -/

/-- The end of `handle_delete_user`: the message is printed to the array it stands in, and the
status is compared where it stood. -/
def readDeleteUser (response : Bytes) : Told :=
  match replyTokens response with
  | ([some status, some msg], response) =>
    let response := snprintfAt bufferSize response 0 msg
    ⟨stringAt response status = utf8 "1", some (stringAt response 0)⟩
  | _ => ⟨false, some unreadable⟩

def wrongOffice : Bytes :=
  utf8 "❌ 올바른 교육청 이름이 아닙니다.\n예시: 서울특별시교육청, 경기도교육청"
def registerUnsent : Bytes := utf8 "❌ 서버와의 통신 중 문제가 발생했습니다. 다시 시도해주세요."
def registerUnanswered : Bytes :=
  utf8 "❌ 서버로부터 응답을 받지 못했습니다. 네트워크를 확인해주세요."
def registerUnreadable : Bytes := utf8 "❌ 서버 응답 형식이 잘못되었습니다."
def registered : Bytes :=
  utf8 "🎉 회원가입이 성공적으로 완료되었습니다!\n이제 로그인하여 서비스를 이용해보세요."
def registerTaken : Bytes := idTaken ++ utf8 "\n다른 아이디를 입력해주세요."
def registerFailed : Bytes := utf8 "❌ 회원가입 중 오류 발생: "

/-- The end of `handle_register`: any other reply is printed to the array it stands in. -/
def readRegister (response : Bytes) : Told :=
  match replyTokens response with
  | ([some status, some message], response) =>
    let code := atoi (stringAt response status)
    if code = respSuccess ∧ stringAt response message = respRegisterOk then ⟨true, some registered⟩
    else if code = respError ∧ stringAt response message = errIdDuplicate then
      ⟨false, some registerTaken⟩
    else
      ⟨false, (snprintfBehind bufferSize registerFailed response 0 message).map (stringAt · 0)⟩
  | _ => ⟨false, some registerUnreadable⟩

/-! ### The handlers -/

namespace Client

def handleAddUser (array : ResponseArray) (id pw eduOffice schoolName : Bytes) :
    Client UserChange :=
  exchange (SchoolMeals.handleAddUser id pw eduOffice schoolName)
    ⟨false, respError, communicationError⟩ ⟨false, respError, noAnswer⟩ fun text =>
      readAddUser (strcpyInto array.bytes text)

def handleUpdateUser (array : ResponseArray) (id pw eduOffice schoolName : Bytes) :
    Client UserChange :=
  exchange (SchoolMeals.handleUpdateUser id pw eduOffice schoolName)
    ⟨false, respError, communicationError⟩ ⟨false, respError, noAnswer⟩ fun text =>
      readUpdateUser (strcpyInto array.bytes text)

def handleDeleteUser (array : ResponseArray) (id : Bytes) : Client Told :=
  exchange (SchoolMeals.handleDeleteUser id) ⟨false, some communicationError⟩
    ⟨false, some noAnswer⟩ fun text => readDeleteUser (strcpyInto array.bytes text)

def handleRegister (array : ResponseArray) (id pw eduOffice schoolName : Bytes) : Client Told :=
  match SchoolMeals.handleRegister id pw eduOffice schoolName with
  | none => return ⟨false, some wrongOffice⟩
  | some request => exchange request ⟨false, some registerUnsent⟩
      ⟨false, some registerUnanswered⟩ fun text => readRegister (strcpyInto array.bytes text)

end Client

/-! ### A reply that arrives whole -/

section Exchange

variable {Remote Result : Type} (react : Bytes → Remote → List Bytes × Remote) {request : Bytes}
  (unsent unanswered : Result) (read : Bytes → Result) {wire after : Wire Remote}

/-- A handler whose request is sent ends with what it makes of the response. -/
theorem run_exchange (nonempty : request ≠ []) {response : Bool × Bytes}
    (received : Program.run (Wire.answer react) receiveResponse (wire.deliver react request) =
      (some response, after)) :
    Program.run (Wire.answer react) (exchange request unsent unanswered read) wire =
      (some (if response.1 then read response.2 else unanswered), after) := by
  rw [exchange, Program.run_bind_of_some _ _ (run_sendData react nonempty wire)]
  show Program.run _ (receiveResponse >>= _) _ = _
  rw [Program.run_bind_of_some _ _ received]
  cases response with
  | mk arrived text => cases arrived <;> rfl

end Exchange

/-- The result of a handler whose request is answered with this reply. -/
def answered {Result : Type} (reply : Reply) (handler : Client Result) : Option Result :=
  (Program.run (Wire.answer (answeredBy reply)) handler ⟨[], ()⟩).1

theorem answered_exchange {Result : Type} {request : Bytes} (nonempty : request ≠ [])
    (unsent unanswered : Result) (read : Bytes → Result) {reply : Reply}
    (wellFormed : reply.WellFormed) :
    answered reply (exchange request unsent unanswered read) = some (read reply.text) := by
  have received := receives_chunk (answeredBy reply) [] () wellFormed.text_eq.2.1
    wellFormed.text_eq.2.2 wellFormed.complete
  have delivered : Wire.deliver (answeredBy reply) ⟨[], ()⟩ request = ⟨[reply.text], ()⟩ := rfl
  rw [answered, run_exchange (answeredBy reply) unsent unanswered read nonempty
    (delivered ▸ received)]
  rfl

/-- A reply to a request that changes users: a success or an error with a message that is one
token, and no data. -/
structure ChangeReply where
  successful : Bool
  message : Bytes
  nonempty : message ≠ []
  slashFree : 47 ∉ message
  zeroFree : 0 ∉ message
  short : message.length ≤ 1000

namespace ChangeReply

def reply (changeReply : ChangeReply) : Reply :=
  ⟨if changeReply.successful then respSuccess else respError, changeReply.message, []⟩

/-- The status as it is written. -/
def digit (changeReply : ChangeReply) : UInt8 := if changeReply.successful then 49 else 48

variable (reply : ChangeReply)

theorem wellFormed : reply.reply.WellFormed := by
  have status : (if reply.successful then respSuccess else respError) < 2147483648 := by
    split <;> decide
  exact ⟨status, reply.zeroFree, List.not_mem_nil⟩

theorem text_eq : reply.reply.text = [reply.digit] ++ cmdDelimiter ++ reply.message := by
  have status : utf8 (toString reply.reply.status) = [reply.digit] := by
    rw [ChangeReply.reply, digit]
    cases reply.successful with
    | true => exact (by decide : utf8 (toString respSuccess) = [49])
    | false => exact (by decide : utf8 (toString respError) = [48])
  have unwritten : ¬ reply.reply.data.length > 0 := Nat.lt_irrefl 0
  rw [Reply.text, if_neg unwritten, status]
  refine snprintf_of_fits _ _ ?_
  have short : reply.reply.message.length ≤ 1000 := reply.short
  simp only [List.length_append, List.length_singleton, length_cmdDelimiter, bufferSize]
  omega

/-- The array with the reply, whose first delimiter now ends the status. -/
def cutArray (array : ResponseArray) : Bytes :=
  [reply.digit] ++ 0 :: 47 :: (reply.message ++ 0 :: array.bytes.drop (reply.message.length + 4))

theorem replyTokens_eq (array : ResponseArray) :
    replyTokens (strcpyInto array.bytes reply.reply.text) =
      ([some 0, some 3], reply.cutArray array) := by
  have slashes : cmdDelimiter = [47, 47] := by decide
  have isDigit : IsToken cmdDelimiter [reply.digit] ∧ ¬0 = reply.digit := by
    rw [digit]
    cases reply.successful <;> decide
  have isMessage : IsToken cmdDelimiter reply.message :=
    (isToken_iff _).mpr ⟨reply.nonempty, reply.slashFree⟩
  have textFree : 0 ∉ [] ++ [reply.digit] ++ 47 :: (47 :: reply.message) := by
    simpa using ⟨isDigit.2, reply.zeroFree⟩
  have restFree : 0 ∉ [47] ++ reply.message := by simpa using reply.zeroFree
  have strcpied : strcpyInto array.bytes reply.reply.text =
      [reply.digit] ++ (47 :: 47 :: (reply.message ++
        0 :: array.bytes.drop (reply.message.length + 4))) := by
    rw [text_eq, strcpyInto_eq, slashes]
    simp [Nat.add_assoc, Nat.add_comm 3]
  have status : strtokAt cmdDelimiter (strcpyInto array.bytes reply.reply.text) 0 =
      (some 0, reply.cutArray array, 2) := by
    rw [strcpied, cutArray]
    simpa using strtokAt_cut [] (array.bytes.drop (reply.message.length + 4)) textFree
      (fun _ member => nomatch member) isDigit.1 (by decide)
  have message : strtokAt cmdDelimiter (reply.cutArray array) 2 =
      (some 3, reply.cutArray array, 3 + reply.message.length) := by
    rw [cutArray]
    simpa using strtokAt_last [reply.digit, 0]
      (array.bytes.drop (reply.message.length + 4)) restFree
      (List.forall_mem_singleton.mpr (by decide)) isMessage
  simp only [replyTokens, strtokCalls, status, message]

/-- The status and the message as the handlers read them. -/
theorem stringAt_cutArray (array : ResponseArray) :
    stringAt (reply.cutArray array) 0 = [reply.digit] ∧
      StringAt (reply.cutArray array) 3 reply.message := by
  have notZero : 0 ∉ [reply.digit] := by
    rw [digit]
    cases reply.successful <;> decide
  refine ⟨(stringAt_start notZero _).eq, [reply.digit, 0, 47],
    array.bytes.drop (reply.message.length + 4), by simp [cutArray], rfl, reply.zeroFree⟩

theorem atoi_digit : atoi [reply.digit] = reply.reply.status := by
  rw [digit, ChangeReply.reply]
  cases reply.successful with
  | true => exact (by decide : atoi [49] = respSuccess)
  | false => exact (by decide : atoi [48] = respError)

theorem status_eq :
    (reply.reply.status : Int) = if reply.successful then 1 else 0 := by
  show ((if reply.successful then respSuccess else respError : Nat) : Int) = _
  cases reply.successful <;> rfl

/-- The server sends the statuses of a success and of an error only. -/
theorem status_ne_duplicate : ¬ (reply.reply.status : Int) = respDuplicate := by
  rw [status_eq]
  cases reply.successful <;> decide

theorem status_eq_iff : (reply.reply.status : Int) = respSuccess ↔ reply.successful = true := by
  show ((if reply.successful then respSuccess else respError : Nat) : Int) = respSuccess ↔ _
  cases reply.successful <;> decide

/-- A success with the message of a registration. -/
def IsRegisterOk : Prop := reply.successful = true ∧ reply.message = respRegisterOk

/-- An error with the message of an identifier that is taken. -/
def IsIdDuplicate : Prop := reply.successful = false ∧ reply.message = errIdDuplicate

instance : Decidable reply.IsRegisterOk := inferInstanceAs (Decidable (_ ∧ _))

instance : Decidable reply.IsIdDuplicate := inferInstanceAs (Decidable (_ ∧ _))

/-- The handler returns whether the request succeeded, and leaves the message of the server. -/
def ReportedBy (returned : Bool) (text : Bytes) : Prop :=
  (returned = true ↔ reply.successful = true) ∧ text = reply.message

/-- The handler returns whether the user was registered, and otherwise leaves a text with the
message of the server, or with the notice that the identifier is taken. -/
def RegistrationReportedBy (returned : Bool) (text : Bytes) : Prop :=
  (returned = true ↔ reply.IsRegisterOk) ∧
    (¬ reply.IsRegisterOk → reply.message <:+: text ∨ idTaken <:+: text)

/-! ### What the handlers make of it -/

section Read

variable (array : ResponseArray)

theorem readUpdateUser_eq :
    readUpdateUser (strcpyInto array.bytes reply.reply.text) =
      ⟨reply.successful, reply.reply.status, reply.message⟩ := by
  obtain ⟨status, message⟩ := reply.stringAt_cutArray array
  have whole : snprintf bufferSize reply.message = reply.message :=
    snprintf_of_fits _ _ (Nat.le_trans reply.short (by decide))
  have returned : decide ((reply.reply.status : Int) = respSuccess) = reply.successful := by
    rw [Bool.eq_iff_iff, decide_eq_true_eq, status_eq_iff]
  simp only [readUpdateUser, replyTokens_eq, status, message.eq, atoi_digit, whole, returned]

theorem readAddUser_eq :
    readAddUser (strcpyInto array.bytes reply.reply.text) =
      if reply.IsRegisterOk then ⟨true, reply.reply.status, userAdded⟩
      else ⟨false, reply.reply.status, addFailed ++ reply.message⟩ := by
  obtain ⟨status, message⟩ := reply.stringAt_cutArray array
  have whole : snprintf bufferSize (addFailed ++ reply.message) = addFailed ++ reply.message := by
    refine snprintf_of_fits _ _ ?_
    have short := reply.short
    rw [List.length_append]
    exact Nat.le_trans (Nat.add_le_add_left short addFailed.length) (by decide)
  simp only [readAddUser, replyTokens_eq, status, message.eq, atoi_digit, whole, status_eq_iff,
    status_ne_duplicate, if_false]
  rfl

theorem readDeleteUser_eq :
    readDeleteUser (strcpyInto array.bytes reply.reply.text) =
      ⟨reply.message = utf8 "1", some reply.message⟩ := by
  obtain ⟨_, message⟩ := reply.stringAt_cutArray array
  have printed := stringAt_snprintfAt_down message
    (Nat.le_trans reply.short (by decide : 1000 ≤ bufferSize - 1))
  simp only [readDeleteUser, replyTokens_eq, printed]

theorem readRegister_eq :
    readRegister (strcpyInto array.bytes reply.reply.text) =
      if reply.IsRegisterOk then ⟨true, some registered⟩
      else if reply.IsIdDuplicate then ⟨false, some registerTaken⟩
      else ⟨false, none⟩ := by
  obtain ⟨status, message⟩ := reply.stringAt_cutArray array
  -- the message stands behind the status and its delimiter
  have overwritten := @snprintfBehind_overwritten bufferSize registerFailed (reply.cutArray array)
    0 3 (by decide) (by decide)
  have isError : ((reply.reply.status : Int) = respError) = (reply.successful = false) := by
    rw [reply.status_eq]
    cases reply.successful <;> decide
  simp only [readRegister, replyTokens_eq, status, message.eq, atoi_digit, status_eq_iff,
    overwritten, isError]
  rfl

end Read

/-! ### The four handlers -/

section Handlers

variable (array : ResponseArray) (id pw eduOffice schoolName : Bytes)

theorem snprintf_ne_nil {command rest : Bytes} (nonempty : command ≠ []) :
    snprintf bufferSize (command ++ rest) ≠ [] := by
  obtain ⟨byte, command, rfl⟩ := List.exists_cons_of_ne_nil nonempty
  exact List.cons_ne_nil _ _

theorem answered_handleDeleteUser :
    answered reply.reply (Client.handleDeleteUser array id) =
      some ⟨reply.message = utf8 "1", some reply.message⟩ := by
  have nonempty : handleDeleteUser id ≠ [] := by
    rw [handleDeleteUser, List.append_assoc]
    exact snprintf_ne_nil (by decide)
  rw [Client.handleDeleteUser, answered_exchange nonempty _ _ _ reply.wellFormed,
    readDeleteUser_eq]

theorem answered_handleUpdateUser :
    answered reply.reply (Client.handleUpdateUser array id pw eduOffice schoolName) =
      some ⟨reply.successful, reply.reply.status, reply.message⟩ := by
  have nonempty : handleUpdateUser id pw eduOffice schoolName ≠ [] := by
    simp only [handleUpdateUser, List.append_assoc]
    exact snprintf_ne_nil (by decide)
  rw [Client.handleUpdateUser, answered_exchange nonempty _ _ _ reply.wellFormed,
    readUpdateUser_eq]

theorem handleAddUser_ne_nil : handleAddUser id pw eduOffice schoolName ≠ [] := by
  simp only [handleAddUser, List.append_assoc]
  exact snprintf_ne_nil (by decide)

theorem answered_handleAddUser :
    answered reply.reply (Client.handleAddUser array id pw eduOffice schoolName) =
      some (if reply.IsRegisterOk then ⟨true, reply.reply.status, userAdded⟩
        else ⟨false, reply.reply.status, addFailed ++ reply.message⟩) := by
  rw [Client.handleAddUser, answered_exchange (handleAddUser_ne_nil id pw eduOffice schoolName) _ _
    _ reply.wellFormed, readAddUser_eq]

/-- Both handlers that register a user send the same request. -/
theorem handleRegister_of_valid {eduOffice : Bytes} (valid : isValidEduOffice eduOffice = true) :
    handleRegister id pw eduOffice schoolName =
      some (handleAddUser id pw eduOffice schoolName) := by
  rw [handleRegister, valid]
  rfl

theorem answered_handleRegister {eduOffice : Bytes} (valid : isValidEduOffice eduOffice = true) :
    answered reply.reply (Client.handleRegister array id pw eduOffice schoolName) =
      some (if reply.IsRegisterOk then ⟨true, some registered⟩
        else if reply.IsIdDuplicate then ⟨false, some registerTaken⟩
        else ⟨false, none⟩) := by
  rw [Client.handleRegister, handleRegister_of_valid id pw schoolName valid]
  exact (answered_exchange (handleAddUser_ne_nil id pw eduOffice schoolName) _ _ _
    reply.wellFormed).trans (by rw [readRegister_eq])

end Handlers

/-- Updating and adding report every reply as they should. Deleting takes the message for the
status, so it does when the message is the text of a success exactly for a success. Registering
does for the two replies it knows. -/
theorem tells_iff (array : ResponseArray) (reply : ChangeReply) (id pw eduOffice schoolName : Bytes)
    (valid : isValidEduOffice eduOffice = true) :
    ((∃ told text, answered reply.reply (Client.handleDeleteUser array id) = some told ∧
        told.response = some text ∧ reply.ReportedBy told.returned text) ↔
      (reply.message = utf8 "1" ↔ reply.successful = true)) ∧
    (∃ change, answered reply.reply (Client.handleUpdateUser array id pw eduOffice schoolName) =
        some change ∧ reply.ReportedBy change.returned change.message) ∧
    (∃ change, answered reply.reply (Client.handleAddUser array id pw eduOffice schoolName) =
        some change ∧ reply.RegistrationReportedBy change.returned change.message) ∧
    ((∃ told text, answered reply.reply (Client.handleRegister array id pw eduOffice schoolName) =
        some told ∧ told.response = some text ∧
          reply.RegistrationReportedBy told.returned text) ↔
      reply.IsRegisterOk ∨ reply.IsIdDuplicate) := by
  rw [answered_handleDeleteUser, answered_handleUpdateUser, answered_handleAddUser,
    answered_handleRegister reply array id pw schoolName valid]
  refine ⟨?_, ⟨_, rfl, Iff.rfl, rfl⟩, ?_, ?_⟩
  · simp only [Option.some.injEq, ↓existsAndEq, true_and, ReportedBy, and_true, decide_eq_true_eq]
  · refine ⟨_, rfl, ?_⟩
    split
    · rename_i isOk
      exact ⟨iff_of_true rfl isOk, fun notOk => absurd isOk notOk⟩
    · rename_i notOk
      exact ⟨iff_of_false Bool.false_ne_true notOk, fun _ =>
        .inl (List.suffix_append _ _).isInfix⟩
  · by_cases isOk : reply.IsRegisterOk
    · rw [if_pos isOk]
      exact iff_of_true ⟨_, registered, rfl, rfl, iff_of_true rfl isOk,
        fun notOk => absurd isOk notOk⟩ (.inl isOk)
    · rw [if_neg isOk]
      by_cases isTaken : reply.IsIdDuplicate
      · rw [if_pos isTaken]
        exact iff_of_true ⟨_, registerTaken, rfl, rfl, iff_of_false Bool.false_ne_true isOk,
          fun _ => .inr (List.prefix_append _ _).isInfix⟩ (.inr isTaken)
      · rw [if_neg isTaken]
        refine iff_of_false ?_ (not_or.mpr ⟨isOk, isTaken⟩)
        rintro ⟨told, text, found, undefined, _⟩
        obtain rfl := Option.some.inj found
        cases undefined

/-- The reply to a user who was deleted. -/
def deletedReply : ChangeReply :=
  ⟨true, respDeleteOk, by decide, by decide, by decide, by decide⟩

/-- An array of zero bytes. -/
def zeroArray : ResponseArray := ⟨List.replicate bufferSize 0, List.length_replicate⟩

/-- The handlers on that reply. -/
theorem tells_deleted :
    ((∃ told text, answered deletedReply.reply (Client.handleDeleteUser zeroArray
          (utf8 "user1")) = some told ∧ told.response = some text ∧
            deletedReply.ReportedBy told.returned text) ↔
        (deletedReply.message = utf8 "1" ↔ deletedReply.successful = true)) ∧
      (∃ change, answered deletedReply.reply (Client.handleUpdateUser zeroArray (utf8 "user1")
          (utf8 "1234") (utf8 "경기도교육청") (utf8 "부천중학교")) = some change ∧
        deletedReply.ReportedBy change.returned change.message) ∧
      (∃ change, answered deletedReply.reply (Client.handleAddUser zeroArray (utf8 "user1")
          (utf8 "1234") (utf8 "경기도교육청") (utf8 "부천중학교")) = some change ∧
        deletedReply.RegistrationReportedBy change.returned change.message) ∧
      ((∃ told text, answered deletedReply.reply (Client.handleRegister zeroArray (utf8 "user1")
          (utf8 "1234") (utf8 "경기도교육청") (utf8 "부천중학교")) = some told ∧
        told.response = some text ∧ deletedReply.RegistrationReportedBy told.returned text) ↔
      deletedReply.IsRegisterOk ∨ deletedReply.IsIdDuplicate) :=
  tells_iff zeroArray deletedReply (utf8 "user1") (utf8 "1234") (utf8 "경기도교육청")
    (utf8 "부천중학교") (by decide)

/-- A user who was deleted is reported as not deleted. -/
theorem not_tells_deleted :
    ¬ ∃ told text, answered deletedReply.reply (Client.handleDeleteUser zeroArray (utf8 "user1")) =
      some told ∧ told.response = some text ∧ deletedReply.ReportedBy told.returned text := by
  rw [answered_handleDeleteUser]
  rintro ⟨told, text, found, _, reported⟩
  obtain rfl := Option.some.inj found
  exact absurd (reported.1.mpr rfl) (by decide)

end ChangeReply

end SchoolMeals
