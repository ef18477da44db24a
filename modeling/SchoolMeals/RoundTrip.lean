/-
This file follows a user's row through a login: from the store into the reply of
the server, and from the reply into the session variables of the client. The
reply joins the fields with the delimiter and the client takes it apart with
`strtok`, which skips runs of slashes. The client ends up with the row exactly
when education office and school are non-empty, free of slashes and short enough
for the record of the server; the row of a parent, in which both are empty, is
never carried over.
-/

import SchoolMeals.Handlers
import SchoolMeals.Widths

namespace SchoolMeals

open CText Interaction

/-! ### Client and server together -/

/-- The server at the other end of the wire: it takes what it receives for one request, and its
replies go back as one chunk each. -/
def serverReact (locals : Locals) (around : Surroundings) (data : Bytes) (store : Store) :
    List Bytes × Store :=
  ((serve ⟨data, locals, around⟩ store).sent.map Reply.text,
    (serve ⟨data, locals, around⟩ store).store)

/-- A login of this client to that server. -/
def converseLogin (locals : Locals) (around : Surroundings) (store : Store) (id pw : Bytes)
    (session : Session) : Option LoginResult × Wire Store :=
  Program.run (Wire.answer (serverReact locals around)) (Client.handleLogin id pw session)
    ⟨[], store⟩

/-- The request of a login that fits is the one the server reads. -/
theorem handleLogin_eq (id pw : Operand) (idFits : id.text.length ≤ 19)
    (pwFits : pw.text.length ≤ 19) :
    handleLogin id.text pw.text = Operand.request cmdLogin [id, pw] := by
  have text : cmdLogin ++ cmdDelimiter ++ id.text ++ cmdDelimiter ++ pw.text =
      Operand.request cmdLogin [id, pw] := by
    simp [Operand.request, requestText, trailing]
  have command : cmdLogin.length = 5 := by decide
  rw [handleLogin, text, snprintf_of_fits]
  rw [← text]
  simp only [List.length_append, command, length_cmdDelimiter, bufferSize]
  omega

/-- When the server answers a login with one reply, the client reads that reply. -/
theorem converseLogin_of_reply (locals : Locals) (around : Surroundings) (store : Store)
    (id pw : Operand) (idFits : id.text.length ≤ 19) (pwFits : pw.text.length ≤ 19)
    (session : Session) {reply : Reply} (wellFormed : reply.WellFormed)
    (outcome : loginOutcome around store locals id.text pw.text = ⟨store, [reply]⟩) :
    converseLogin locals around store id.text pw.text session =
      (some (readLogin id.text session reply.text), ⟨[], store⟩) := by
  have served : (serve ⟨handleLogin id.text pw.text, locals, around⟩ store).outcome =
      ⟨store, [reply]⟩ := by
    have arrival : (⟨handleLogin id.text pw.text, locals, around⟩ : Arrival) =
        loginRequest id pw locals around := by
      rw [handleLogin_eq id pw idFits pwFits, loginRequest]
    rw [arrival, serve_loginRequest, outcome]
  obtain ⟨after, sent⟩ := World.of_outcome served
  have delivered : Wire.deliver (serverReact locals around) ⟨[], store⟩
      (handleLogin id.text pw.text) = ⟨[reply.text], store⟩ := by
    rw [Wire.deliver, serverReact, sent, after]
    rfl
  refine run_handleLogin (serverReact locals around) id.text pw.text session ⟨[], store⟩ ?_
  rw [delivered]
  exact receives_chunk _ [] store wellFormed.text_eq.2.1 wellFormed.text_eq.2.2 wellFormed.complete

/-! ### The reply to a login -/

/-- The fields of a success: its status, its message, and the fields of its data. -/
theorem fields_success {message data : Bytes} (isMessage : IsToken cmdDelimiter message)
    (fits : message.length + data.length ≤ 4000) :
    fields cmdDelimiter (success message data).text =
      utf8 "1" :: message :: fields cmdDelimiter data := by
  have statusLength : (utf8 "1").length = 1 := by decide
  have isStatus : IsToken cmdDelimiter (utf8 "1") := by decide
  have status : statusText respSuccess = utf8 "1" := by decide
  show fields cmdDelimiter (snprintf bufferSize (if data.length > 0 then
    statusText respSuccess ++ cmdDelimiter ++ message ++ cmdDelimiter ++ data
    else statusText respSuccess ++ cmdDelimiter ++ message)) = _
  rw [status]
  split
  · rw [snprintf_of_fits]
    · rw [List.append_assoc (utf8 "1" ++ cmdDelimiter),
        List.append_assoc (utf8 "1" ++ cmdDelimiter), fields_delimited isStatus,
        fields_delimited isMessage]
    · simp only [List.length_append, statusLength, length_cmdDelimiter, bufferSize]
      omega
  · rename_i empty
    obtain rfl := List.length_eq_zero_iff.mp (Nat.eq_zero_of_not_pos empty)
    rw [snprintf_of_fits]
    · rw [fields_delimited isStatus, fields_singleton isMessage, fields_nil]
    · simp only [List.length_append, statusLength, length_cmdDelimiter, bufferSize]
      omega

theorem length_fields_of_slashFree {text : Bytes} (slashFree : 47 ∉ text) :
    (fields cmdDelimiter text).length ≤ 1 := by
  by_cases empty : text = []
  · rw [empty]
    exact Nat.zero_le 1
  · rw [fields_singleton ((isToken_iff text).mpr ⟨empty, slashFree⟩)]
    exact Nat.le_refl 1

/-- The record `handle_register_parent` fills. -/
def parentUser (beyond : User) (id pw : Bytes) : User where
  id := strncpy id (maxIdLen - 1) []
  pw := strncpy pw (maxPwLen - 1) []
  name := beyond.name
  role := strncpy roleParent (maxRoleLen - 1) []
  eduOffice := []
  schoolName := []

/-- The roles that a registration writes. -/
def IsRole (role : Bytes) : Prop := role = roleGeneral ∨ role = roleParent

theorem IsRole.plain {role : Bytes} (isRole : IsRole role) :
    IsToken cmdDelimiter role ∧ 0 ∉ role ∧ role.length ≤ 7 := by
  rcases isRole with rfl | rfl <;> decide

/-- A column that reaches the client: a token that leaves room for the terminator in the record
of the server. -/
def Carried (column : Bytes) : Prop :=
  IsToken cmdDelimiter column ∧ column.length ≤ 48

/-- The reply to the login of a user with such columns. -/
theorem loginData_of_carried (beyond : User) {user : User} (isRole : IsRole user.role)
    (edu : Carried user.eduOffice) (school : Carried user.schoolName) :
    loginData (copiedUser beyond (rowOf user)) =
        user.eduOffice ++ cmdDelimiter ++ user.schoolName ++ cmdDelimiter ++ user.role ∧
      fields cmdDelimiter (loginData (copiedUser beyond (rowOf user))) =
        [user.eduOffice, user.schoolName, user.role] := by
  obtain ⟨roleToken, _, roleFits⟩ := isRole.plain
  have data := loginData_of_short beyond edu.2 school.2 roleFits
  refine ⟨data, ?_⟩
  rw [data, List.append_assoc (user.eduOffice ++ cmdDelimiter),
    List.append_assoc (user.eduOffice ++ cmdDelimiter), fields_delimited edu.1,
    fields_delimited school.1, fields_singleton roleToken]

/-! ### The login outcome for a row that a registration wrote -/

/-- The reply to a login that finds the row. -/
def loginReply (locals : Locals) (user : User) : Reply :=
  success respLoginOk (loginData (copiedUser locals.user (rowOf user)))

section Outcome

variable {around : Surroundings} {store : Store} {user : User} (locals : Locals)

theorem loginOutcome_of_row (stored : userRow store user.id = some (rowOf user))
    (first : around.quiet 0 = true) (second : around.quiet 1 = true) :
    loginOutcome around store locals user.id user.pw = ⟨store, [loginReply locals user]⟩ := by
  have password : rowOf user .pw = some user.pw := rfl
  have readable : isReadable (rowOf user) = true := rfl
  rw [loginOutcome, first, second, stored]
  simp only [Option.any_some, password, decide_true, Bool.true_and, if_true, readable]
  rfl

/-- A fault of SQLite makes the reply an error. -/
theorem loginOutcome_of_fault (fault : ¬ (around.quiet 0 = true ∧ around.quiet 1 = true)) :
    ∃ reply : Reply, reply.WellFormed ∧ tellsSuccess reply.text = false ∧
      loginOutcome around store locals user.id user.pw = ⟨store, [reply]⟩ := by
  rw [loginOutcome]
  split
  · rename_i checked
    have first : around.quiet 0 = true := (Bool.and_eq_true_iff.mp checked).1
    have second : around.quiet 1 = false := Bool.eq_false_iff.mpr fun quiet => fault ⟨first, quiet⟩
    rw [second]
    exact ⟨failure respDbError, ⟨by decide, by decide, by decide⟩, by decide, rfl⟩
  · exact ⟨failure errInvalidLogin, ⟨by decide, by decide, by decide⟩, by decide, rfl⟩

end Outcome

/-! ### What the client is left with -/

/-- The client is logged in, and its session variables are the columns of the row, whatever the
memory of the server held and the session was before. -/
def Carries (around : Surroundings) (store : Store) (user : User) : Prop :=
  ∀ locals session, ∃ response, (converseLogin locals around store user.id user.pw session).1 =
    some ⟨true, ⟨user.id, user.role, user.eduOffice, user.schoolName⟩, response⟩

/-- What the login of a stored user is about. -/
structure StoredLogin (store : Store) (user : User) (id pw : Operand) : Prop where
  id_eq : user.id = id.text
  pw_eq : user.pw = pw.text
  idFits : id.text.length ≤ 19
  pwFits : pw.text.length ≤ 19
  isRole : IsRole user.role
  zeroFree : 0 ∉ user.eduOffice ∧ 0 ∉ user.schoolName
  stored : userRow store user.id = some (rowOf user)

section Carries

variable {around : Surroundings} {store : Store} {user : User} {id pw : Operand}

/-- Without a fault, the client reads the reply, whose last fields are those of the data. -/
theorem StoredLogin.reads (login : StoredLogin store user id pw) (first : around.quiet 0 = true)
    (second : around.quiet 1 = true) (locals : Locals) (session : Session)
    (dataFree : 0 ∉ loginData (copiedUser locals.user (rowOf user))) :
    converseLogin locals around store user.id user.pw session =
        (some (readLogin user.id session (loginReply locals user).text), ⟨[], store⟩) ∧
      fields cmdDelimiter (loginReply locals user).text =
        utf8 "1" :: respLoginOk ::
          fields cmdDelimiter (loginData (copiedUser locals.user (rowOf user))) := by
  have wellFormed : (loginReply locals user).WellFormed :=
    ⟨(by decide : respSuccess < 2147483648), (by decide : 0 ∉ respLoginOk), dataFree⟩
  have outcome := loginOutcome_of_row locals login.stored first second
  constructor
  · rw [login.id_eq, login.pw_eq] at outcome ⊢
    exact converseLogin_of_reply locals around store id pw login.idFits login.pwFits session
      wellFormed outcome
  · have messageLength : respLoginOk.length = 16 := by decide
    have dataFits := length_loginData_le (copiedUser locals.user (rowOf user))
    exact fields_success (by decide) (by omega)

/-- Fields that come through are all the client needs. -/
theorem StoredLogin.carries (login : StoredLogin store user id pw) (first : around.quiet 0 = true)
    (second : around.quiet 1 = true) (edu : Carried user.eduOffice)
    (school : Carried user.schoolName) : Carries around store user := by
  intro locals session
  obtain ⟨data, columns⟩ := loginData_of_carried locals.user login.isRole edu school
  obtain ⟨_, roleFree, roleFits⟩ := login.isRole.plain
  have dataFree : 0 ∉ loginData (copiedUser locals.user (rowOf user)) := by
    have delimiterFree : 0 ∉ cmdDelimiter := by decide
    rw [data]
    simp only [List.mem_append, not_or]
    exact ⟨⟨⟨⟨login.zeroFree.1, delimiterFree⟩, login.zeroFree.2⟩, delimiterFree⟩, roleFree⟩
  obtain ⟨converse, read⟩ := login.reads first second locals session dataFree
  rw [columns] at read
  refine ⟨cutByStrtok cmdDelimiter (loginReply locals user).text, ?_⟩
  rw [converse, readLogin_of_fields user.id session read (by decide)]
  have eduShort : user.eduOffice.length ≤ maxEduOfficeLen - 1 := Nat.le_succ_of_le edu.2
  have schoolShort : user.schoolName.length ≤ maxSchoolNameLen - 1 := Nat.le_succ_of_le school.2
  have roleShort : user.role.length ≤ maxRoleLen - 1 := Nat.le_trans roleFits (by decide)
  have idShort : user.id.length ≤ maxIdLen - 1 := by
    rw [login.id_eq]
    exact Nat.le_trans login.idFits (by decide)
  rw [loginSession]
  simp only [strncpy_zeroed]
  rw [List.take_of_length_le eduShort, List.take_of_length_le schoolShort,
    List.take_of_length_le roleShort, List.take_of_length_le idShort]

end Carries

/-! ### What carrying takes -/

/-- Memory in which no array of the record ends. -/
def crowded : Locals :=
  ⟨{ User.zero with eduOffice := List.replicate 300 120, schoolName := List.replicate 300 120 },
    User.zero, fun _ => ⟨[], [], [], []⟩⟩

/-- A column that is the prefix of a token is one. -/
theorem isToken_of_take {column token : Bytes} (isToken : IsToken cmdDelimiter token)
    (read : column = token.take 49) : IsToken cmdDelimiter column ∧ column.length ≤ 49 := by
  obtain ⟨nonempty, slashFree⟩ := (isToken_iff token).mp isToken
  refine ⟨(isToken_iff column).mpr ⟨?_, ?_⟩, ?_⟩
  · intro empty
    rw [read, List.take_eq_nil_iff] at empty
    exact nonempty (empty.resolve_left (by decide))
  · intro slash
    rw [read] at slash
    exact slashFree (List.mem_of_mem_take slash)
  · rw [read]
    exact List.length_take_le 49 token

/-- A text that begins with more than the record holds is cut before its delimiters. -/
theorem slashFree_cut {column rest : Bytes} (slashFree : 47 ∉ column) (space : Nat)
    (fits : space ≤ 300) :
    47 ∉ (column ++ (List.replicate 300 120 ++ rest)).take (column.length + space) := by
  have inside : space ≤ (List.replicate 300 (120 : UInt8)).length := by
    rw [List.length_replicate]
    exact fits
  rw [List.take_length_add_append, List.take_append_of_le_length inside]
  intro slash
  rcases List.mem_append.mp slash with slash | slash
  · exact slashFree slash
  · exact absurd (List.eq_of_mem_replicate (List.mem_of_mem_take slash)) (by decide)

section Crowded

variable {user : User}

/-- An education office that fills its array runs on to the end of the data. -/
theorem loginData_of_longOffice (slashFree : 47 ∉ user.eduOffice)
    (long : user.eduOffice.length = 49) :
    (fields cmdDelimiter (loginData (copiedUser crowded.user (rowOf user)))).length ≤ 1 := by
  have runsOn : strncpy user.eduOffice (maxEduOfficeLen - 1) crowded.user.eduOffice =
      user.eduOffice ++ List.replicate 300 120 := by
    have fills : user.eduOffice.length ≤ maxEduOfficeLen - 1 := Nat.le_of_eq long
    rw [strncpy, if_neg (by rw [long]; decide), List.take_of_length_le fills]
    rfl
  have cut : 255 = user.eduOffice.length + 206 := by rw [long]
  apply length_fields_of_slashFree
  rw [loginData_rowOf, runsOn, snprintf]
  simp only [List.append_assoc]
  show 47 ∉ List.take 255 _
  rw [cut]
  exact slashFree_cut slashFree 206 (by decide)

/-- So does a school that fills its array. -/
theorem loginData_of_longSchool (edu : Carried user.eduOffice) (slashFree : 47 ∉ user.schoolName)
    (long : user.schoolName.length = 49) :
    (fields cmdDelimiter (loginData (copiedUser crowded.user (rowOf user)))).length ≤ 2 := by
  have eduShort : user.eduOffice.length < maxEduOfficeLen - 1 := Nat.lt_succ_of_le edu.2
  have runsOn : strncpy user.schoolName (maxSchoolNameLen - 1) crowded.user.schoolName =
      user.schoolName ++ List.replicate 300 120 := by
    have fills : user.schoolName.length ≤ maxSchoolNameLen - 1 := Nat.le_of_eq long
    rw [strncpy, if_neg (by rw [long]; decide), List.take_of_length_le fills]
    rfl
  have room : 255 = (user.eduOffice ++ cmdDelimiter).length +
      (user.schoolName.length + (204 - user.eduOffice.length)) := by
    have eduFits := edu.2
    rw [List.length_append, length_cmdDelimiter, long]
    omega
  rw [loginData_rowOf, strncpy_of_short _ _ _ eduShort, runsOn, snprintf]
  simp only [List.append_assoc]
  rw [← List.append_assoc user.eduOffice cmdDelimiter]
  show (fields cmdDelimiter (List.take 255 _)).length ≤ 2
  rw [room, List.take_length_add_append,
    fields_delimited edu.1, List.length_cons]
  exact Nat.succ_le_succ (length_fields_of_slashFree
    (slashFree_cut slashFree _ (Nat.le_trans (Nat.sub_le _ _) (by decide))))

end Crowded

theorem zeroFree_strncpy {source beyond : Bytes} (count : Nat) (sourceFree : 0 ∉ source)
    (beyondFree : 0 ∉ beyond) : 0 ∉ strncpy source count beyond := by
  rw [strncpy]
  split
  · exact sourceFree
  · intro zero
    rcases List.mem_append.mp zero with zero | zero
    · exact sourceFree (List.mem_of_mem_take zero)
    · exact beyondFree zero

section Converse

variable {around : Surroundings} {store : Store} {user : User} {id pw : Operand}

/-- Without a fault, a user is carried only when both columns come through. -/
theorem StoredLogin.carried (login : StoredLogin store user id pw)
    (first : around.quiet 0 = true) (second : around.quiet 1 = true)
    (carries : Carries around store user) : Carried user.eduOffice ∧ Carried user.schoolName := by
  have dataFree : 0 ∉ loginData (copiedUser crowded.user (rowOf user)) := by
    have delimiterFree : 0 ∉ cmdDelimiter := by decide
    have crowdedFree : 0 ∉ List.replicate 300 (120 : UInt8) := fun zero =>
      absurd (List.eq_of_mem_replicate zero) (by decide)
    intro zero
    have written := List.mem_of_mem_take zero
    simp only [List.mem_append] at written
    rcases written with (((zero | zero) | zero) | zero) | zero
    · exact zeroFree_strncpy _ login.zeroFree.1 crowdedFree zero
    · exact delimiterFree zero
    · exact zeroFree_strncpy _ login.zeroFree.2 crowdedFree zero
    · exact delimiterFree zero
    · exact zeroFree_strncpy _ login.isRole.plain.2.1 List.not_mem_nil zero
  obtain ⟨response, result⟩ := carries crowded Session.empty
  obtain ⟨converse, read⟩ := login.reads first second crowded Session.empty dataFree
  rw [converse] at result
  have left := Option.some.inj result
  obtain ⟨status, message, eduOffice, schoolName, role, more, tokens, session⟩ :=
    fields_of_returned user.id Session.empty (congrArg LoginResult.returned left)
  rw [congrArg LoginResult.session left, loginSession] at session
  simp only [strncpy_zeroed, Session.mk.injEq] at session
  obtain ⟨_, _, eduTaken, schoolTaken⟩ := session
  rw [read] at tokens
  have columns := (List.cons.inj (List.cons.inj tokens).2).2
  have isToken : ∀ field ∈ eduOffice :: schoolName :: role :: more,
      IsToken cmdDelimiter field := by
    rw [← columns]
    exact fun field member => isToken_of_mem_fields _ member
  obtain ⟨eduToken, eduFits⟩ := isToken_of_take (isToken eduOffice (by simp)) eduTaken
  obtain ⟨schoolToken, schoolFits⟩ := isToken_of_take (isToken schoolName (by simp)) schoolTaken
  have eduFree := ((isToken_iff user.eduOffice).mp eduToken).2
  have schoolFree := ((isToken_iff user.schoolName).mp schoolToken).2
  have edu : Carried user.eduOffice := by
    refine ⟨eduToken, Nat.le_of_lt_succ (Nat.lt_of_le_of_ne eduFits fun long => ?_)⟩
    have few := loginData_of_longOffice eduFree long
    rw [columns] at few
    simp only [List.length_cons] at few
    omega
  refine ⟨edu, schoolToken, Nat.le_of_lt_succ (Nat.lt_of_le_of_ne schoolFits fun long => ?_)⟩
  have few := loginData_of_longSchool edu schoolFree long
  rw [columns] at few
  simp only [List.length_cons] at few
  omega

/-- A fault makes the login fail. -/
theorem StoredLogin.fails (login : StoredLogin store user id pw)
    (fault : ¬ (around.quiet 0 = true ∧ around.quiet 1 = true)) (locals : Locals)
    (session : Session) : ∃ response,
      (converseLogin locals around store user.id user.pw session).1 =
        some ⟨false, session, response⟩ := by
  obtain ⟨reply, wellFormed, refused, outcome⟩ := loginOutcome_of_fault locals fault
  refine ⟨cutByStrtok cmdDelimiter reply.text, ?_⟩
  rw [login.id_eq, login.pw_eq] at outcome ⊢
  rw [converseLogin_of_reply locals around store id pw login.idFits login.pwFits session
    wellFormed outcome, readLogin_of_refused _ _ refused]

theorem StoredLogin.not_carries (login : StoredLogin store user id pw)
    (fault : ¬ (around.quiet 0 = true ∧ around.quiet 1 = true)) : ¬ Carries around store user := by
  intro carries
  obtain ⟨response, result⟩ := carries crowded Session.empty
  obtain ⟨failed, failure⟩ := login.fails fault crowded Session.empty
  have same := Option.some.inj (result.symm.trans failure)
  exact Bool.noConfusion (congrArg LoginResult.returned same)

/-- A parent is never carried: the columns that registration leaves empty do not come through. -/
theorem not_carries_parentUser {beyond : User} {parentId parentPw : Bytes}
    (login : StoredLogin store (parentUser beyond parentId parentPw) id pw) :
    ¬ Carries around store (parentUser beyond parentId parentPw) := by
  intro carries
  by_cases quiet : around.quiet 0 = true ∧ around.quiet 1 = true
  · exact ((isToken_iff []).mp (login.carried quiet.1 quiet.2 carries).1.1).1 rfl
  · exact login.not_carries quiet carries

/-- A login leaves the client with the user's row exactly when SQLite answers twice and both
columns come through. -/
theorem login_carries_iff (login : StoredLogin store user id pw) :
    Carries around store user ↔
      (around.quiet 0 = true ∧ around.quiet 1 = true) ∧
        Carried user.eduOffice ∧ Carried user.schoolName := by
  constructor
  · intro carries
    by_cases quiet : around.quiet 0 = true ∧ around.quiet 1 = true
    · exact ⟨quiet, login.carried quiet.1 quiet.2 carries⟩
    · exact absurd carries (login.not_carries quiet)
  · rintro ⟨⟨first, second⟩, edu, school⟩
    exact login.carries first second edu school

end Converse

/-- A user that a registration has just stored. -/
theorem storedLogin_withUser {user : User} (id pw : Operand)
    (own : user.id = id.text ∧ user.pw = pw.text)
    (fits : id.text.length ≤ 19 ∧ pw.text.length ≤ 19) (isRole : IsRole user.role)
    (zeroFree : 0 ∉ user.eduOffice ∧ 0 ∉ user.schoolName) {store : Store}
    (fresh : userRow store user.id = none) : StoredLogin (withUser store user) user id pw :=
  ⟨own.1, own.2, fits.1, fits.2, isRole, zeroFree, (userRow_withUser fresh _).trans (if_pos rfl)⟩

/-- A user with a school. -/
def sampleUser : User := generalUser (utf8 "user1") (utf8 "1234") ⟨utf8 "B10", utf8 "7010569"⟩

def sampleParent : User := parentUser User.zero (utf8 "user1") (utf8 "1234")

theorem login_carries_sample :
    Carries sampleAround (withUser initDb sampleUser) sampleUser ↔
      (sampleAround.quiet 0 = true ∧ sampleAround.quiet 1 = true) ∧
        Carried sampleUser.eduOffice ∧ Carried sampleUser.schoolName :=
  login_carries_iff (storedLogin_withUser sampleOperands.1 sampleOperands.2.1
    (by decide) (by decide) (.inl rfl) (by decide) (by decide))

/-- The login of a parent: the reply is a success, the client takes it for a failure. -/
theorem parent_not_carried : ¬ Carries sampleAround (withUser initDb sampleParent) sampleParent :=
  not_carries_parentUser (storedLogin_withUser sampleOperands.1
    sampleOperands.2.1 (by decide) (by decide) (.inr rfl) (by decide) (by decide))

end SchoolMeals
