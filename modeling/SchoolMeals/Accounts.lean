/-
This file follows the accounts through a session. As long as identifiers and
passwords pass the client's checks and the codes of a school fit their arrays,
no field is lost on its way through the tokeniser, the records, the formatted
`INSERT` and back, and the row of a user is at any time the current value of the
session's journal. A login therefore succeeds exactly with the password of the
last successful registration or update, as long as the account was not deleted.
-/

import SchoolMeals.Sessions

namespace SchoolMeals

open CText Interaction Journal Relational

/-! ### Admissible sessions -/

/-- Codes that fit the arrays of the caller and contain no quote. -/
structure SchoolCodes.Plain (codes : SchoolCodes) : Prop where
  eduQuoteFree : SqlText.quote ∉ codes.eduCode
  schoolQuoteFree : SqlText.quote ∉ codes.schoolCode
  eduFits : codes.eduCode.length ≤ 9
  schoolFits : codes.schoolCode.length ≤ 19

/-- What a request writes has passed the client's checks, and schools resolve to plain codes. -/
structure Arrival.Admissible (arrival : Arrival) : Prop where
  record : ∀ request ∈ parseRequest arrival.received,
    request.command ∈ [cmdRegisterGeneral, cmdUpdate] →
      (∀ id ∈ request.operands.id, isValidId id = true) ∧
        ∀ pw ∈ request.operands.pw, isValidPassword pw = true
  codes : ∀ schoolName, ∀ codes ∈ arrival.around.schoolCodes schoolName, codes.Plain

theorem Arrival.Admissible.quoteFree {arrival : Arrival} (admissible : arrival.Admissible) :
    arrival.QuoteFree := by
  intro request parsed registers id hasId pw hasPw schoolName _ codes resolved
  have valid := admissible.record request parsed (by simp [registers])
  have plain := admissible.codes schoolName codes resolved
  exact quoteFree_of_valid (valid.1 id hasId) (valid.2 pw hasPw)
    ⟨plain.eduQuoteFree, plain.schoolQuoteFree⟩

/-- A change that an admissible arrival asks for writes fields that fit. -/
theorem Arrival.Admissible.fits {arrival : Arrival} (admissible : arrival.Admissible)
    {id pw : Bytes} {codes : SchoolCodes}
    (asked : arrival.demand = some (.register id pw codes) ∨
      arrival.demand = some (.update id pw codes)) :
    id.length ≤ 19 ∧ pw.length ≤ 19 ∧ codes.Plain := by
  obtain ⟨request, parsed, writes, hasId, hasPw, name, _, resolved⟩ : ∃ request,
      parseRequest arrival.received = some request ∧
        request.command ∈ [cmdRegisterGeneral, cmdUpdate] ∧ request.operands.id = some id ∧
        request.operands.pw = some pw ∧ ∃ name, request.operands.schoolName = some name ∧
          arrival.around.schoolCodes name = some codes := by
    rcases asked with asked | asked
    · obtain ⟨request, parsed, isRegister, rest⟩ := Arrival.asks asked
      exact ⟨request, parsed, by simp [isRegister], rest⟩
    · obtain ⟨request, parsed, isUpdate, rest⟩ := Arrival.asks asked
      exact ⟨request, parsed, by simp [isUpdate], rest⟩
  have valid := admissible.record request parsed writes
  have idValid := (isValidId_iff id).mp (valid.1 id hasId)
  have pwValid := (isValidPassword_iff pw).mp (valid.2 pw hasPw)
  exact ⟨by omega, by omega, admissible.codes name codes resolved⟩

/-! ### The journal of an account -/

/-- A password and the codes of a school. -/
abbrev Account := Bytes × SchoolCodes

/-- What a change does to the account of a user. -/
def accountMark (id : Bytes) : Change → Mark Account
  | .register other pw codes => if other = id then .put (pw, codes) else .other
  | .update other pw codes => if other = id then .change (pw, codes) else .other
  | .delete other => if other = id then .clear else .other
  | .link .. | .unlink .. => .other

/-- The row an account is stored as. -/
def accountRow (id : Bytes) (account : Account) : Row :=
  rowOf ⟨id, account.1, [], roleGeneral, account.2.eduCode, account.2.schoolCode⟩

/-- A record whose fields fit is written as it was requested. -/
theorem generalUser_of_fits {id pw : Bytes} {codes : SchoolCodes} (idFits : id.length ≤ 19)
    (pwFits : pw.length ≤ 19) (plain : codes.Plain) :
    generalUser id pw codes =
      ⟨id, pw, [], roleGeneral, codes.eduCode, codes.schoolCode⟩ := by
  have eduFits := plain.eduFits
  have schoolFits := plain.schoolFits
  rw [generalUser_eq, List.take_of_length_le idFits, List.take_of_length_le pwFits,
    List.take_of_length_le (by omega), List.take_of_length_le (by omega)]

theorem assign_accountRow (id : Bytes) (before after : Account) :
    assign (accountRow id before) (updatedColumns
      ⟨id, after.1, [], roleGeneral, after.2.eduCode, after.2.schoolCode⟩) =
      accountRow id after := by
  funext column
  cases column <;> rfl

/-- Every change an admissible arrival can make does to a user's row what its mark does to the
account. -/
theorem userRow_apply {arrival : Arrival} (admissible : arrival.Admissible) (id : Bytes)
    {change : Change} (asked : arrival.demand = some change) (store : Store)
    (account : Option Account) (possible : change.Possible store)
    (stored : userRow store id = account.map (accountRow id)) :
    userRow (change.apply store) id =
      ((accountMark id change).apply account).map (accountRow id) := by
  cases change with
  | register other pw codes =>
    obtain ⟨idFits, pwFits, plain⟩ := admissible.fits (Or.inl asked)
    have fresh : userRow store (generalUser other pw codes).id = none := possible
    rw [Change.apply, userRow_withUser fresh, generalUser_of_fits idFits pwFits plain, accountMark]
    by_cases same : id = other
    · subst same
      rw [if_pos rfl, if_pos rfl]
      rfl
    · rw [if_neg same, if_neg (Ne.symm same)]
      exact stored
  | update other pw codes =>
    obtain ⟨idFits, pwFits, plain⟩ := admissible.fits (Or.inr asked)
    rw [Change.apply, userRow_withUpdate, generalUser_of_fits idFits pwFits plain, stored,
      accountMark]
    by_cases same : id = other
    · subst same
      rw [if_pos rfl]
      cases account with
      | none => rfl
      | some before =>
        show some (if id = id then _ else _) = some (accountRow id (pw, codes))
        rw [if_pos rfl]
        exact congrArg some (assign_accountRow id before (pw, codes))
    · rw [if_neg (Ne.symm same)]
      show (account.map (accountRow id)).map
        (fun row => if id = other then _ else row) = account.map (accountRow id)
      simp only [if_neg same]
      exact Option.map_id'
  | delete other =>
    rw [Change.apply, userRow_withoutUser possible, accountMark]
    by_cases same : id = other
    · rw [if_pos same, if_pos same.symm]
      rfl
    · rw [if_neg same, if_neg (Ne.symm same)]
      exact stored
  | link childId parentId =>
    obtain ⟨child, parent, unlinked⟩ := possible
    have users : (withLink store childId parentId).tables .users = store.tables .users := by
      rw [withLink_of_new child parent unlinked]
      exact Function.update_of_ne (by decide) _ _
    rw [Change.apply, userRow_of_users users]
    exact stored
  | unlink childId parentId =>
    have users : (withoutLink store childId parentId).tables .users = store.tables .users := by
      rw [withoutLink_tables]
      exact Function.update_of_ne (by decide) _ _
    rw [Change.apply, userRow_of_users users]
    exact stored

/-- After an admissible session the row of a user is the current value of the journal. -/
theorem userRow_storeAfter (session : List Arrival)
    (admissible : ∀ arrival ∈ session, arrival.Admissible) (id : Bytes) :
    userRow (storeAfter session) id =
      (current (fun entry : Entry => markOf (accountMark id) entry.change)
        (history session)).map (accountRow id) :=
  view_storeAfter (userRow · id) (accountRow id) (accountMark id) rfl session
    (fun arrival member => (admissible arrival member).quoteFree)
    fun arrival member _ asked store account possible stored =>
      userRow_apply (admissible arrival member) id asked store account possible stored

/-! ### Registered accounts -/

/-- The account an entry wrote for a user. -/
def Entry.written (id : Bytes) (entry : Entry) : Option Account :=
  match entry.change with
  | some (.register other pw codes) | some (.update other pw codes) =>
    if other = id then some (pw, codes) else none
  | _ => none

/-- The user registered, was not deleted since, and the last registration or update since then
gave this password and these codes. The journal lists the newest entry first. -/
def Registered (journal : List Entry) (id : Bytes) (account : Account) : Prop :=
  ∃ later registration earlier, journal = later ++ registration :: earlier ∧
    (∃ pw codes, registration.change = some (.register id pw codes)) ∧
    (∀ entry ∈ later, entry.change ≠ some (.delete id)) ∧
    (later ++ [registration]).findSome? (·.written id) = some account

theorem written_eq (id : Bytes) (entry : Entry) :
    entry.written id = (markOf (accountMark id) entry.change).written := by
  unfold Entry.written markOf
  cases entry.change with
  | none => rfl
  | some change =>
    cases change with
    | register other pw codes =>
      show (if other = id then _ else _) = (if other = id then Mark.put (pw, codes) else _).written
      split <;> rfl
    | update other pw codes =>
      show (if other = id then _ else _) =
        (if other = id then Mark.change (pw, codes) else _).written
      split <;> rfl
    | delete other =>
      show none = (if other = id then Mark.clear else _).written
      split <;> rfl
    | link | unlink => rfl

theorem registered_iff (journal : List Entry) (id : Bytes) (account : Account) :
    Registered journal id account ↔
      Stands (fun entry : Entry => markOf (accountMark id) entry.change) journal account := by
  have puts : ∀ entry : Entry, (∃ pw codes, entry.change = some (.register id pw codes)) ↔
      ∃ first, markOf (accountMark id) entry.change = .put first := by
    intro entry
    cases entry.change with
    | none => simp [markOf]
    | some change => cases change <;> simp [markOf, accountMark, ite_eq_iff]
  have clears : ∀ entry : Entry, entry.change ≠ some (.delete id) ↔
      markOf (accountMark id) entry.change ≠ .clear := by
    intro entry
    cases entry.change with
    | none => simp [markOf]
    | some change => cases change <;> simp [markOf, accountMark, ite_eq_iff]
  unfold Registered Stands
  simp only [puts, clears, written_eq]

/-- A registered account has plain codes. -/
theorem plain_of_registered {session : List Arrival}
    (admissible : ∀ arrival ∈ session, arrival.Admissible) {id : Bytes} {account : Account}
    (registered : Registered (history session) id account) :
    account.1.length ≤ 19 ∧ account.2.Plain := by
  have found := (current_eq_some_iff _ account).mpr
    ((registered_iff (history session) id account).mp registered)
  suffices every : ∀ entry ∈ history session,
      ∀ value ∈ (markOf (accountMark id) entry.change).written,
      value.1.length ≤ 19 ∧ value.2.Plain from current_property every account found
  intro entry member value written
  rw [← written_eq] at written
  have arrived := admissible entry.arrival (arrival_mem_of_history member)
  have asked : ∀ change, entry.change = some change → entry.arrival.demand = some change := by
    intro change made
    unfold Entry.change at made
    split at made
    · exact made
    · cases made
  unfold Entry.written at written
  split at written
  · rename_i other pw codes made
    obtain ⟨_, pwFits, plain⟩ := arrived.fits (Or.inl (asked _ made))
    split at written
    · obtain rfl := Option.some.inj written
      exact ⟨pwFits, plain⟩
    · cases written
  · rename_i other pw codes made
    obtain ⟨_, pwFits, plain⟩ := arrived.fits (Or.inr (asked _ made))
    split at written
    · obtain rfl := Option.some.inj written
      exact ⟨pwFits, plain⟩
    · cases written
  · cases written

/-! ### Login -/

/-- The data of a login to an account whose codes fit. -/
theorem loginData_accountRow (beyond : User) (id pw : Bytes) {codes : SchoolCodes}
    (plain : codes.Plain) :
    loginData (copiedUser beyond (accountRow id (pw, codes))) =
      codes.eduCode ++ cmdDelimiter ++ codes.schoolCode ++ cmdDelimiter ++ roleGeneral :=
  loginData_of_short beyond (Nat.le_trans plain.eduFits (by decide))
    (Nat.le_trans plain.schoolFits (by decide)) (by decide : roleGeneral.length ≤ 7)

/-- A valid login request is read as it was written. -/
theorem parseRequest_login {id pw : Bytes} (validId : isValidId id = true)
    (validPw : isValidPassword pw = true) :
    parseRequest (requestText cmdLogin [id, pw]) =
      some ⟨cmdLogin, { Operands.null with id := some id, pw := some pw }⟩ := by
  have idPlain := plain_of_isValidId validId
  have pwPlain := plain_of_isValidPassword validPw
  have nonempty : id ≠ [] ∧ pw ≠ [] := by
    constructor
    · intro empty
      rw [empty] at validId
      cases validId
    · intro empty
      rw [empty] at validPw
      cases validPw
  have tokens : ∀ operand ∈ [id, pw], IsToken cmdDelimiter operand ∧ 0 ∉ operand := by
    intro operand member
    rw [isToken_iff]
    rcases List.mem_pair.mp member with rfl | rfl
    · exact ⟨⟨nonempty.1, idPlain 47 (by decide)⟩, idPlain 0 (by decide)⟩
    · exact ⟨⟨nonempty.2, pwPlain 47 (by decide)⟩, pwPlain 0 (by decide)⟩
  exact parseRequest_requestText cmdLogin [id, pw] (by decide)
    (fun operand member => (tokens operand member).1)
    (zeroFree_requestText (by decide) fun operand member => (tokens operand member).2)

/-- The outcome of a login without faults, when users are stored as their accounts. -/
theorem loginOutcome_of_account {around : Surroundings} (quiet : ∀ call, around.quiet call = true)
    (store : Store) (locals : Locals) (id pw : Bytes) (account : Option Account)
    (stored : userRow store id = account.map (accountRow id)) :
    loginOutcome around store locals id pw =
      if account.any (·.1 = pw) then
        ⟨store, (account.map fun account =>
          success respLoginOk (loginData (copiedUser locals.user (accountRow id account)))).toList⟩
      else refusal store errInvalidLogin := by
  rw [loginOutcome, quiet 0, quiet 1, stored]
  cases account with
  | none => rfl
  | some account =>
    have password : (accountRow id account .pw = some pw) = (account.1 = pw) := by
      rw [show accountRow id account .pw = some account.1 from rfl, Option.some.injEq]
    have readable : isReadable (accountRow id account) = true := rfl
    simp only [Option.map_some, Option.any_some, Bool.true_and, password, if_true, readable]
    rfl

/-- After an admissible session a login succeeds exactly when the user is registered, not deleted
since, and gives the password of the last registration or update; the reply then carries the
codes that were resolved with it. -/
theorem login_succeeds_iff (session : List Arrival)
    (admissible : ∀ arrival ∈ session, arrival.Admissible) (login : Arrival) (id pw : Bytes)
    (validId : isValidId id = true) (validPw : isValidPassword pw = true)
    (received : login.received = requestText cmdLogin [id, pw])
    (quiet : ∀ call, login.around.quiet call = true) :
    ((serve login (storeAfter session)).Succeeds ↔
        ∃ codes, Registered (history session) id (pw, codes)) ∧
      ∀ codes, Registered (history session) id (pw, codes) →
        (serve login (storeAfter session)).sent = [success respLoginOk
          (codes.eduCode ++ cmdDelimiter ++ codes.schoolCode ++ cmdDelimiter ++ roleGeneral)] := by
  have stored := userRow_storeAfter session admissible id
  have program : handleClient login.locals login.received =
      SchoolMeals.login login.locals (some id) (some pw) := by
    rw [handleClient, received, parseRequest_login validId validPw]
    rfl
  have outcome : (serve login (storeAfter session)).outcome = _ :=
    (congrArg (outcomeOf login.around (storeAfter session)) program).trans
      ((outcomeOf_login _ _ _ _ _).trans
        (loginOutcome_of_account quiet (storeAfter session) login.locals id pw _ stored))
  have registered : ∀ account, Registered (history session) id account ↔
      current (fun entry : Entry => markOf (accountMark id) entry.change) (history session) =
        some account :=
    fun account => (registered_iff _ id account).trans (current_eq_some_iff _ account).symm
  have replies : (serve login (storeAfter session)).sent = _ := congrArg Outcome.replies outcome
  constructor
  · show (Outcome.Succeeds (serve login (storeAfter session)).outcome) ↔ _
    rw [outcome]
    constructor
    · intro succeeds
      split at succeeds
      · rename_i password
        obtain ⟨⟨given, codes⟩, found, same⟩ := (Option.any_eq_true _ _).mp password
        obtain rfl : given = pw := by simpa using same
        exact ⟨codes, (registered _).mpr found⟩
      · exact absurd succeeds (not_succeeds_refusal _ _)
    · rintro ⟨codes, standing⟩
      rw [(registered _).mp standing]
      rw [if_pos (by simp)]
      exact succeeds_success _ _ _
  · intro codes standing
    rw [replies, (registered _).mp standing, if_pos (by simp)]
    show [success respLoginOk _] = _
    rw [loginData_accountRow _ _ _ (plain_of_registered admissible standing).2]

def sampleLogin : Arrival := .calm (requestText cmdLogin [utf8 "user1", utf8 "1234"])

theorem admissible_sampleRegistration : sampleRegistration.Admissible where
  record := by
    intro request found _
    obtain rfl := Option.some.inj (parsed_sampleRegistration.symm.trans found)
    exact ⟨by decide, by decide⟩
  codes := by
    intro schoolName codes resolved
    obtain rfl := Option.some.inj resolved
    exact ⟨by decide, by decide, by decide, by decide⟩

/-- A registration and the login of its user. -/
theorem login_sampleRegistration :
    ((serve sampleLogin (storeAfter [sampleRegistration])).Succeeds ↔
        ∃ codes, Registered (history [sampleRegistration]) (utf8 "user1") (utf8 "1234", codes)) ∧
      ∀ codes, Registered (history [sampleRegistration]) (utf8 "user1") (utf8 "1234", codes) →
        (serve sampleLogin (storeAfter [sampleRegistration])).sent = [success respLoginOk
          (codes.eduCode ++ cmdDelimiter ++ codes.schoolCode ++ cmdDelimiter ++ roleGeneral)] :=
  login_succeeds_iff [sampleRegistration]
    (fun _ member => List.mem_singleton.mp member ▸ admissible_sampleRegistration)
    sampleLogin (utf8 "user1") (utf8 "1234") (by decide) (by decide) rfl (fun _ => rfl)

end SchoolMeals
