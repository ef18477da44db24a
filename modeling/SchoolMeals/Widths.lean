/-
This file is about identifiers and passwords that are longer than their arrays.
The documented limits are 32 and 64 bytes; the records keep 19 of each. A
registration checks the identifier it was given, stores its first 19 bytes, and
a later login looks for the whole; an update changes the row of the first 19
bytes. For both commands the file says exactly for which lengths and stores
nothing goes wrong.
-/

import SchoolMeals.Honesty

namespace SchoolMeals

open CText Interaction Relational

/-! ### Registration and login -/

/-- `is_user_exists` finds the user. -/
def Knows (around : Surroundings) (store : Store) (id : Bytes) : Prop :=
  (Program.run (answer around) (isUserExists id) (World.start store)).1 = some true

theorem knows_iff {around : Surroundings} (quiet : around.quiet 0 = true) (store : Store)
    (id : Bytes) : Knows around store id ↔ (userRow store id).isSome = true := by
  have run : Program.run (answer around) (isUserExists id) (World.start store) =
      (some (around.quiet 0 && (userRow store id).isSome), _) :=
    run_isUserExists around (World.start store) id
  rw [Knows, run, quiet, Bool.true_and, Option.some.injEq]

/-- The row of a record is readable, whatever codes it has. -/
theorem isReadable_rowOf (user : User) : isReadable (rowOf user) = true := rfl

/-- Without faults a login succeeds exactly when a readable row has the password. -/
theorem loginOutcome_succeeds_iff {around : Surroundings}
    (quiet : ∀ call, around.quiet call = true) (store : Store) (locals : Locals) (id pw : Bytes) :
    (loginOutcome around store locals id pw).Succeeds ↔
      ∃ row, userRow store id = some row ∧ row .pw = some pw ∧ isReadable row = true := by
  rw [loginOutcome, quiet 0, quiet 1]
  cases userRow store id with
  | none =>
    refine iff_of_false (not_succeeds_refusal store errInvalidLogin) ?_
    rintro ⟨row, impossible, _⟩
    cases impossible
  | some row =>
    by_cases password : row .pw = some pw
    · cases readable : isReadable row with
      | true =>
        simp only [Bool.true_and, Option.any_some, password, decide_true, if_true, readable]
        exact iff_of_true (succeeds_success _ _ _) ⟨row, rfl, password, readable⟩
      | false =>
        simp only [Bool.true_and, Option.any_some, password, decide_true, if_true, readable]
        refine iff_of_false (fun succeeds => List.not_mem_nil succeeds.choose_spec.1) ?_
        rintro ⟨other, same, _, otherReadable⟩
        obtain rfl := Option.some.inj same
        exact Bool.false_ne_true (readable.symm.trans otherReadable)
    · simp only [Bool.true_and, Option.any_some, password, decide_false]
      refine iff_of_false (not_succeeds_refusal store errInvalidLogin) ?_
      rintro ⟨other, same, otherPassword, _⟩
      obtain rfl := Option.some.inj same
      exact password otherPassword

/-- A registration request. -/
def registration (id pw eduOffice schoolName : Operand) (locals : Locals)
    (around : Surroundings) : Arrival :=
  ⟨Operand.request cmdRegisterGeneral [id, pw, eduOffice, schoolName], locals, around⟩

/-- A login request. -/
def loginRequest (id pw : Operand) (locals : Locals) (around : Surroundings) : Arrival :=
  ⟨Operand.request cmdLogin [id, pw], locals, around⟩

/-- A successful registration makes the user known and able to log in. -/
def Usable (id : Bytes) (registering login : Arrival) (store : Store) : Prop :=
  (serve registering store).Succeeds →
    Knows login.around (serve registering store).store id ∧
      (serve login (serve registering store).store).Succeeds

/-- The registration is refused: the school is not found, the insertion meets a fault, or the
identifier's first 19 bytes are a user. -/
def RegistrationRefused (id schoolName : Operand) (around : Surroundings) (store : Store) : Prop :=
  around.schoolCodes schoolName.text = none ∨ around.quiet 2 = false ∨
    (userRow store (id.text.take 19)).isSome = true

section Registration

variable (id pw eduOffice schoolName : Operand) (locals loginLocals : Locals)
  (around loginAround : Surroundings) (store : Store)

theorem parse_registration :
    parseRequest (registration id pw eduOffice schoolName locals around).received =
      some ⟨cmdRegisterGeneral, { Operands.null with
        id := some id.text, pw := some pw.text, eduOffice := some eduOffice.text,
        schoolName := some schoolName.text }⟩ :=
  Operand.parse_request (by decide) (by decide) [id, pw, eduOffice, schoolName]

theorem serve_loginRequest : (serve (loginRequest id pw locals around) store).outcome =
    loginOutcome around store locals id.text pw.text := by
  have parsed : parseRequest (loginRequest id pw locals around).received =
      some ⟨cmdLogin, { Operands.null with id := some id.text, pw := some pw.text }⟩ :=
    Operand.parse_request (by decide) (by decide) [id, pw]
  show outcomeOf around store (handleClient locals _) = _
  rw [handleClient, parsed]
  exact outcomeOf_login around store locals id.text pw.text

theorem demand_registration :
    (registration id pw eduOffice schoolName locals around).demand =
      (around.schoolCodes schoolName.text).map (.register id.text pw.text) := by
  rw [Arrival.demand, parse_registration]
  rfl

theorem quoteFree_registration (pasted : ∀ codes ∈ around.schoolCodes schoolName.text,
      (generalUser id.text pw.text codes).QuoteFree) :
    (registration id pw eduOffice schoolName locals around).QuoteFree := by
  intro request found _ idText hasId pwText hasPw name hasSchool codes resolved
  obtain rfl := Option.some.inj
    ((parse_registration id pw eduOffice schoolName locals around).symm.trans found)
  obtain rfl := Option.some.inj hasId
  obtain rfl := Option.some.inj hasPw
  obtain rfl := Option.some.inj hasSchool
  exact pasted codes resolved

theorem settles_registration (pasted : ∀ codes ∈ around.schoolCodes schoolName.text,
      (generalUser id.text pw.text codes).QuoteFree) :
    Settles around store
      ((around.schoolCodes schoolName.text).map (.register id.text pw.text))
      (serve (registration id pw eduOffice schoolName locals around) store).outcome := by
  rw [← demand_registration id pw eduOffice schoolName locals around]
  exact serve_settles _ store
    (quoteFree_registration id pw eduOffice schoolName locals around pasted)
    (parse_registration id pw eduOffice schoolName locals around) (by simp [changing])

/-- For a new user a successful registration can be used if and only if identifier and password
fit their arrays, or the registration was refused. -/
theorem usable_iff (absent : userRow store id.text = none) (idFree : SqlText.quote ∉ id.text)
    (pwFree : SqlText.quote ∉ pw.text)
    (codesFree : ∀ codes ∈ around.schoolCodes schoolName.text,
      SqlText.quote ∉ codes.eduCode ∧ SqlText.quote ∉ codes.schoolCode)
    (quiet : ∀ call, loginAround.quiet call = true) :
    Usable id.text (registration id pw eduOffice schoolName locals around)
        (loginRequest id pw loginLocals loginAround) store ↔
      (id.text.length ≤ 19 ∧ pw.text.length ≤ 19) ∨
        RegistrationRefused id schoolName around store := by
  have settles := settles_registration id pw eduOffice schoolName locals around store
    fun codes resolved => quoteFree_generalUser idFree pwFree (codesFree codes resolved)
  rw [Usable]
  generalize serve (registration id pw eduOffice schoolName locals around) store = served
    at settles ⊢
  cases settles with
  | refused unaccepted same error =>
    refine iff_of_true (fun succeeds => absurd succeeds error) (Or.inr ?_)
    rw [RegistrationRefused]
    cases resolved : around.schoolCodes schoolName.text with
    | none => exact Or.inl rfl
    | some codes =>
      refine Or.inr ?_
      by_contra open_
      rw [not_or, Bool.not_eq_false, Bool.not_eq_true, Option.isSome_eq_false_iff,
        Option.isNone_iff_eq_none] at open_
      refine unaccepted (.register id.text pw.text codes) (by rw [resolved]; rfl) ⟨?_, open_.1, ?_⟩
      · rw [absent, Option.isSome_none, Bool.and_false]
      · rw [generalUser_id]
        exact open_.2
  | made change demand accepted after succeeds =>
    obtain ⟨codes, resolved, rfl⟩ := Option.map_eq_some_iff.mp demand
    obtain ⟨_, quietInsert, fresh⟩ := accepted
    have stored := userRow_withUser fresh id.text
    rw [absent] at stored
    have accepted : ¬ RegistrationRefused id schoolName around store := by
      rintro (unresolved | fault | taken)
      · cases resolved.symm.trans unresolved
      · exact Bool.false_ne_true (fault.symm.trans quietInsert)
      · rw [generalUser_id] at fresh
        rw [fresh] at taken
        cases taken
    have afterwards : served.store = withUser store (generalUser id.text pw.text codes) := after
    have known : (loginRequest id pw loginLocals loginAround).around.quiet 0 = true := quiet 0
    rw [imp_iff_right (served.succeeds_iff.mpr succeeds), knows_iff known,
      World.succeeds_iff, serve_loginRequest, loginOutcome_succeeds_iff quiet, afterwards, stored,
      or_iff_left accepted]
    by_cases fits : id.text.length ≤ 19
    · rw [if_pos ((eq_generalUser_id_iff id.text pw.text codes).mpr fits)]
      have password : rowOf (generalUser id.text pw.text codes) .pw =
          some (pw.text.take 19) := by
        rw [generalUser_eq]
        rfl
      simp only [Option.isSome_some, Option.some.injEq, true_and, exists_eq_left', password,
        isReadable_rowOf, and_true, fits, List.take_eq_self_iff]
    · rw [if_neg fun same => fits ((eq_generalUser_id_iff id.text pw.text codes).mp same)]
      simp [fits]

end Registration

def sampleOperands : Operand × Operand × Operand × Operand :=
  (⟨utf8 "user1", by decide, by decide⟩, ⟨utf8 "1234", by decide, by decide⟩,
    ⟨utf8 "Seoul", by decide, by decide⟩, ⟨utf8 "Sample School", by decide, by decide⟩)

def sampleAround : Surroundings := .calm ⟨utf8 "B10", utf8 "7010569"⟩

/-- A registration whose operands fit, and the login after it. -/
theorem usable_sample :
    Usable (utf8 "user1")
        (registration sampleOperands.1 sampleOperands.2.1 sampleOperands.2.2.1
          sampleOperands.2.2.2 .zeroed sampleAround)
        (loginRequest sampleOperands.1 sampleOperands.2.1 .zeroed sampleAround) initDb ↔
      ((utf8 "user1").length ≤ 19 ∧ (utf8 "1234").length ≤ 19) ∨
        RegistrationRefused sampleOperands.1 sampleOperands.2.2.2 sampleAround initDb := by
  refine usable_iff sampleOperands.1 sampleOperands.2.1 sampleOperands.2.2.1
    sampleOperands.2.2.2 .zeroed .zeroed sampleAround sampleAround initDb rfl (by decide)
    (by decide) (fun codes resolved => ?_) (fun _ => rfl)
  obtain rfl := Option.some.inj resolved
  exact ⟨by decide, by decide⟩

/-- A new identifier of twenty bytes. -/
def longId : Operand := ⟨utf8 "abcdefghijklmnopqrst", by decide, by decide⟩

/-- Its registration succeeds and the user is unknown afterwards. -/
theorem unusable_longId :
    ¬ Usable longId.text
      (registration longId sampleOperands.2.1 sampleOperands.2.2.1 sampleOperands.2.2.2 .zeroed
        sampleAround)
      (loginRequest longId sampleOperands.2.1 .zeroed sampleAround) initDb := by
  intro usable
  have known := (usable (by decide)).1
  exact absurd known (by unfold Knows; decide)

/-! ### Updates -/

/-- An update of one user: every other row is as it was, and in the user's own row nothing
changed but password, education office and school, the password being the given one. -/
structure Framed (before after : Store) (id pw : Bytes) : Prop where
  others : (after.tables .users).filter (fun row => row .id ≠ some id) =
    (before.tables .users).filter (fun row => row .id ≠ some id)
  named : ∀ row, userRow before id = some row → ∃ updated, userRow after id = some updated ∧
    updated .pw = some pw ∧
      ∀ column, column ∉ [Column.pw, .eduOffice, .schoolName] → updated column = row column

/-- Where an update does what its frame allows: the identifier fits, and so does the password if
the user exists; or the identifier does not fit, but the row of its first 19 bytes already holds
the new values and the user's own row the password. -/
def Contained (store : Store) (id pw : Bytes) (codes : SchoolCodes) : Prop :=
  if id.length ≤ 19 then pw.length ≤ 19 ∨ userRow store id = none
  else
    (∀ row, userRow store (id.take 19) = some row →
      assign row (updatedColumns (generalUser id pw codes)) = row) ∧
    ∀ row, userRow store id = some row → row .pw = some pw

theorem assign_updatedColumns_id (row : Row) (user : User) :
    assign row (updatedColumns user) .id = row .id :=
  assign_of_notMem _ row .id (by simp [updatedColumns])

/-- The rows of other users after an update. -/
theorem filter_withUpdate (store : Store) (user : User) (id : Bytes) :
    ((withUpdate store user).tables .users).filter (fun row => row .id ≠ some id) =
      ((store.tables .users).filter (fun row => row .id ≠ some id)).map fun row =>
        if row .id = some user.id then assign row (updatedColumns user) else row := by
  have users : (withUpdate store user).tables .users = (store.tables .users).map fun row =>
      if row .id = some user.id then assign row (updatedColumns user) else row := by
    rw [withUpdate_tables, updateRows, Function.update_self, passes_id]
    simp only [decide_eq_true_eq]
  have keys : ∀ row : Row, (if row .id = some user.id then assign row (updatedColumns user)
      else row) .id = row .id := by
    intro row
    split
    · exact assign_updatedColumns_id row user
    · rfl
  rw [users, List.filter_map]
  refine congrArg (List.map _) (List.filter_congr fun row _ => ?_)
  rw [Function.comp_apply, keys]

/-- The rows of other users are as they were exactly when the updated row is not one of them, or
the update changes nothing in it. -/
theorem others_withUpdate_iff (store : Store) (user : User) (id : Bytes) :
    ((withUpdate store user).tables .users).filter (fun row => row .id ≠ some id) =
        (store.tables .users).filter (fun row => row .id ≠ some id) ↔
      user.id = id ∨ ∀ row, userRow store user.id = some row →
        assign row (updatedColumns user) = row := by
  rw [filter_withUpdate]
  conv_lhs => rhs; rw [← List.map_id ((store.tables .users).filter _)]
  rw [List.map_inj_left]
  constructor
  · intro same
    by_cases own : user.id = id
    · exact Or.inl own
    · refine Or.inr fun row stored => ?_
      obtain ⟨member, key⟩ := (userRow_eq_some_iff store user.id row).mp stored
      have kept : row ∈ (store.tables .users).filter (fun row => row .id ≠ some id) := by
        rw [List.mem_filter, key]
        exact ⟨member, by simpa using own⟩
      have unchanged := same row kept
      rwa [if_pos key] at unchanged
  · rintro same row member
    obtain ⟨rowMember, other⟩ := List.mem_filter.mp member
    show (if row .id = some user.id then _ else row) = row
    split
    · rename_i key
      rcases same with rfl | same
      · simp [key] at other
      · exact same row ((userRow_eq_some_iff store user.id row).mpr ⟨rowMember, key⟩)
    · rfl

/-- The named row after an update. -/
theorem named_withUpdate_iff (store : Store) (id pw : Bytes) (codes : SchoolCodes) :
    (∀ row, userRow store id = some row → ∃ updated,
        userRow (withUpdate store (generalUser id pw codes)) id = some updated ∧
          updated .pw = some pw ∧
            ∀ column, column ∉ [Column.pw, .eduOffice, .schoolName] →
              updated column = row column) ↔
      ∀ row, userRow store id = some row →
        if id.length ≤ 19 then pw.length ≤ 19 else row .pw = some pw := by
  refine forall_congr' fun row => imp_congr_right fun stored => ?_
  rw [userRow_withUpdate, stored, Option.map_some]
  by_cases fits : id.length ≤ 19
  · rw [if_pos ((eq_generalUser_id_iff id pw codes).mpr fits), if_pos fits]
    have password : assign row (updatedColumns (generalUser id pw codes)) .pw =
        some (pw.take 19) := by
      rw [generalUser_eq]
      rfl
    constructor
    · rintro ⟨updated, same, newPassword, _⟩
      obtain rfl := Option.some.inj same
      rw [password, Option.some.injEq] at newPassword
      exact (List.take_eq_self_iff pw).mp newPassword
    · intro pwFits
      refine ⟨_, rfl, ?_, fun column untouched => ?_⟩
      · rw [password, (List.take_eq_self_iff pw).mpr pwFits]
      · exact assign_of_notMem _ row column (by simpa [updatedColumns] using untouched)
  · rw [if_neg fun same => fits ((eq_generalUser_id_iff id pw codes).mp same), if_neg fits]
    constructor
    · rintro ⟨updated, same, password, _⟩
      obtain rfl := Option.some.inj same
      exact password
    · exact fun password => ⟨row, rfl, password, fun _ _ => rfl⟩

/-- The store an update leaves is framed exactly when the update is contained. -/
theorem framed_withUpdate_iff (store : Store) (id pw : Bytes) (codes : SchoolCodes) :
    Framed store (withUpdate store (generalUser id pw codes)) id pw ↔
      Contained store id pw codes := by
  have split : Framed store (withUpdate store (generalUser id pw codes)) id pw ↔ _ ∧ _ :=
    ⟨fun framed => ⟨framed.others, framed.named⟩, fun both => ⟨both.1, both.2⟩⟩
  rw [split, others_withUpdate_iff, named_withUpdate_iff, eq_comm, eq_generalUser_id_iff, Contained,
    generalUser_id]
  by_cases fits : id.length ≤ 19
  · simp only [fits, if_true, true_or, true_and]
    constructor
    · intro stored
      cases found : userRow store id with
      | none => exact Or.inr rfl
      | some row => exact Or.inl (stored row found)
    · rintro (pwFits | absent) row stored
      · exact pwFits
      · cases absent.symm.trans stored
  · simp only [fits, if_false, false_or]

/-- An update request. -/
def updateRequest (id pw eduOffice schoolName : Operand) (locals : Locals)
    (around : Surroundings) : Arrival :=
  ⟨Operand.request cmdUpdate [id, pw, eduOffice, schoolName], locals, around⟩

/-- A successful update stays in its frame if and only if it is contained, or refused: the school
is not found, the row is unreadable, or the statement meets a fault. -/
theorem update_framed_iff (id pw eduOffice schoolName : Operand) (locals : Locals)
    (around : Surroundings) (store : Store) :
    ((serve (updateRequest id pw eduOffice schoolName locals around) store).Succeeds →
        Framed store (serve (updateRequest id pw eduOffice schoolName locals around) store).store
          id.text pw.text) ↔
      ∀ codes, around.schoolCodes schoolName.text = some codes →
        (Change.update id.text pw.text codes).Accepted around store →
          Contained store id.text pw.text codes := by
  have parsed : parseRequest (updateRequest id pw eduOffice schoolName locals around).received =
      some ⟨cmdUpdate, { Operands.null with
        id := some id.text, pw := some pw.text, eduOffice := some eduOffice.text,
        schoolName := some schoolName.text }⟩ :=
    Operand.parse_request (by decide) (by decide) [id, pw, eduOffice, schoolName]
  have demand : (updateRequest id pw eduOffice schoolName locals around).demand =
      (around.schoolCodes schoolName.text).map (.update id.text pw.text) := by
    rw [Arrival.demand, parsed]
    rfl
  have settles : Settles around store
      ((around.schoolCodes schoolName.text).map (.update id.text pw.text))
      (serve (updateRequest id pw eduOffice schoolName locals around) store).outcome := by
    rw [← demand]
    refine serve_settles _ store (fun request found registers => ?_) parsed (by simp [changing])
    obtain rfl := Option.some.inj (parsed.symm.trans found)
    exact absurd registers (by simp [cmdUpdate, cmdRegisterGeneral]; decide)
  generalize serve (updateRequest id pw eduOffice schoolName locals around) store = served
    at settles ⊢
  cases settles with
  | refused unaccepted same error =>
    refine iff_of_true (fun succeeds => absurd succeeds error) fun codes resolved accepted => ?_
    exact absurd accepted (unaccepted (.update id.text pw.text codes) (by rw [resolved]; rfl))
  | made change demanded accepted after succeeds =>
    obtain ⟨codes, resolved, rfl⟩ := Option.map_eq_some_iff.mp demanded
    have afterwards : served.store = withUpdate store (generalUser id.text pw.text codes) := after
    rw [imp_iff_right (served.succeeds_iff.mpr succeeds), afterwards, framed_withUpdate_iff]
    constructor
    · intro contained other otherResolved _
      obtain rfl := Option.some.inj (resolved.symm.trans otherResolved)
      exact contained
    · exact fun contained => contained codes resolved accepted

/-- A user whose identifier is nineteen bytes long. -/
def sharedPrefix : Store :=
  withUser initDb ⟨utf8 "abcdefghijklmnopqrs", utf8 "1111", [], roleGeneral, utf8 "B10",
    utf8 "7010569"⟩

/-- The update of an unknown identifier overwrites the row of the user it begins with. -/
theorem update_longId_unframed :
    ¬ ((serve (updateRequest longId sampleOperands.2.1 sampleOperands.2.2.1
          sampleOperands.2.2.2 .zeroed sampleAround) sharedPrefix).Succeeds →
        Framed sharedPrefix (serve (updateRequest longId sampleOperands.2.1
          sampleOperands.2.2.1 sampleOperands.2.2.2 .zeroed sampleAround) sharedPrefix).store
          longId.text sampleOperands.2.1.text) := by
  intro framed
  have others := congrArg (List.map fun row : Row => row .pw) (framed (by decide)).others
  exact absurd others (by decide)

end SchoolMeals
