/-
This file follows the codes of a user's own school from the registration to NEIS.
A registration stores what the lookup found; a login brings both codes to the
client; a meal query sends them back to the server. There they are taken for
codes only if the school's begins with a digit; otherwise the code is looked up
as if it were the name of a school. And NEIS reads them back from the URL only
if none of their characters means something in a query.
-/

import SchoolMeals.Accounts
import SchoolMeals.RoundTrip
import SchoolMeals.Urls

namespace SchoolMeals

open CText Interaction

/-! ### What the commands ask NEIS -/

section Asks

variable (side : NeisSide) {locals : Locals} {around : Surroundings} {store : Store}
  {eduOffice schoolName : Bytes}

/-- What a request for the meals of a day asks. -/
theorem queriesOf_meal {received date : Bytes} {request : Request}
    (parsed : parseRequest received = some request)
    (bound : (HandlerCall.meal eduOffice schoolName date).IsBound request) :
    side.queriesOf ⟨received, locals, around⟩ store =
      askedForCodes side.queries schoolName ++
        (codesUsed around eduOffice schoolName).elim [] fun codes =>
          side.queries (.getMealFromNeis codes.eduCode codes.schoolCode date) := by
  obtain ⟨command, operands⟩ := request
  obtain ⟨rfl, rfl⟩ := bound
  rw [NeisSide.queriesOf, handleClient, parsed]
  exact askedIn_getMealOf around (World.start store) (fun _ => rfl) eduOffice schoolName date

/-- What a request for the meals of a period asks. -/
theorem queriesOf_mealsPeriod {received startDate endDate : Bytes} {request : Request}
    (parsed : parseRequest received = some request)
    (bound : (HandlerCall.mealsPeriod eduOffice schoolName startDate endDate).IsBound request) :
    side.queriesOf ⟨received, locals, around⟩ store =
      askedForCodes side.queries schoolName ++
        (codesUsed around eduOffice schoolName).elim [] fun codes =>
          side.queries
            (.getMealsPeriodFromNeis codes.eduCode codes.schoolCode startDate endDate) := by
  obtain ⟨command, operands⟩ := request
  obtain ⟨rfl, period, rfl, split⟩ := bound
  rw [NeisSide.queriesOf, handleClient, parsed]
  have asked := askedIn_getMultiMeal around (World.start store)
    (fun _ => rfl : ∀ reply, side.queries (.sendResponse reply) = []) eduOffice schoolName period
  rw [split] at asked
  exact asked

end Asks

/-! ### A user with a school -/

/-- Codes that a lookup can find and a registration can keep. -/
structure SchoolCodes.Extractable (codes : SchoolCodes) : Prop extends codes.Plain where
  eduToken : IsToken cmdDelimiter codes.eduCode
  schoolToken : IsToken cmdDelimiter codes.schoolCode
  zeroFree : 0 ∉ codes.eduCode ∧ 0 ∉ codes.schoolCode

/-- A user who has registered with these codes, and the session his client is left with when he
logs in. -/
structure LoggedIn (store : Store) (id pw : Operand) (codes : SchoolCodes) (session : Session) :
    Prop where
  extractable : codes.Extractable
  idFits : id.text.length ≤ 19
  pwFits : pw.text.length ≤ 19
  stored : userRow store id.text = some (rowOf (generalUser id.text pw.text codes))
  logsIn : ∃ locals around before response,
    (converseLogin locals around store id.text pw.text before).1 = some ⟨true, session, response⟩

theorem SchoolCodes.Extractable.carried {codes : SchoolCodes} (extractable : codes.Extractable) :
    Carried codes.eduCode ∧ Carried codes.schoolCode :=
  ⟨⟨extractable.eduToken, Nat.le_trans extractable.eduFits (by decide)⟩,
    extractable.schoolToken, Nat.le_trans extractable.schoolFits (by decide)⟩

section LoggedIn

variable {store : Store} {id pw : Operand} {codes : SchoolCodes} {session : Session}

theorem LoggedIn.storedLogin (loggedIn : LoggedIn store id pw codes session) :
    StoredLogin store (generalUser id.text pw.text codes) id pw := by
  have columns := generalUser_of_fits loggedIn.idFits loggedIn.pwFits
    loggedIn.extractable.toPlain
  have stored := loggedIn.stored
  rw [columns] at stored ⊢
  exact ⟨rfl, rfl, loggedIn.idFits, loggedIn.pwFits, .inl rfl, loggedIn.extractable.zeroFree,
    stored⟩

/-- The session holds the codes. -/
theorem LoggedIn.session_eq (loggedIn : LoggedIn store id pw codes session) :
    session = ⟨id.text, roleGeneral, codes.eduCode, codes.schoolCode⟩ := by
  have login := loggedIn.storedLogin
  have plain := loggedIn.extractable.toPlain
  obtain ⟨locals, around, before, response, result⟩ := loggedIn.logsIn
  rw [generalUser_of_fits loggedIn.idFits loggedIn.pwFits plain] at login
  by_cases quiet : around.quiet 0 = true ∧ around.quiet 1 = true
  · obtain ⟨edu, school⟩ := loggedIn.extractable.carried
    obtain ⟨other, carried⟩ := login.carries quiet.1 quiet.2 edu school locals before
    exact congrArg LoginResult.session (Option.some.inj (result.symm.trans carried))
  · obtain ⟨other, failed⟩ := login.fails quiet locals before
    have same := Option.some.inj (result.symm.trans failed)
    exact Bool.noConfusion (congrArg LoginResult.returned same)

/-! ### The query for the own school -/

/-- Both meal queries for the own school, built from the session, ask NEIS once, and what NEIS
reads from the URL are the codes that were stored. -/
def AsksOwnSchool (side : NeisSide) (codes : SchoolCodes) (session : Session) : Prop :=
  ∀ locals around store,
    (∀ date, validateDateFormat date = true →
      (side.queriesOf
          ⟨requestMeal session.currentUserEduOffice session.currentUserSchool date, locals, around⟩
          store).map readQuery =
        [exactly (mealParameters codes.eduCode codes.schoolCode date)]) ∧
      ∀ startDate endDate, validateDateFormat startDate = true →
        validateDateFormat endDate = true → daysBetween side.clock startDate endDate ≤ 7 →
          (side.queriesOf
              ⟨requestMealsPeriod session.currentUserEduOffice session.currentUserSchool startDate
                endDate, locals, around⟩ store).map readQuery =
            [exactly (mealsPeriodParameters codes.eduCode codes.schoolCode startDate endDate)]

/-- Codes that are taken for codes by the server, and read back from a URL by NEIS. -/
structure SchoolCodes.Understood (codes : SchoolCodes) : Prop where
  digit : codes.schoolCode.head?.any isDigit = true
  eduLiteral : IsLiteral codes.eduCode
  schoolLiteral : IsLiteral codes.schoolCode

end LoggedIn

section Queries

variable {codes : SchoolCodes} {date startDate endDate : Bytes}

theorem SchoolCodes.Extractable.length_le (extractable : codes.Extractable) :
    codes.eduCode.length ≤ 9 ∧ codes.schoolCode.length ≤ 19 :=
  ⟨extractable.eduFits, extractable.schoolFits⟩

/-- A valid date has eight bytes, none of them zero. -/
theorem plain_of_date (valid : validateDateFormat date = true) : date.length = 8 ∧ 0 ∉ date := by
  obtain ⟨length, digits⟩ := digits_of_validateDateFormat valid
  exact ⟨length, fun zero => Bool.false_ne_true (digits 0 zero)⟩

/-- Digits mean nothing in a query. -/
theorem isLiteral_of_date (valid : validateDateFormat date = true) : IsLiteral date := by
  obtain ⟨_, digits⟩ := digits_of_validateDateFormat valid
  refine ⟨fun member => ?_, fun member => ?_, ?_⟩
  · exact Bool.false_ne_true (digits 38 member)
  · exact Bool.false_ne_true (digits 35 member)
  · rintro front high low rest rfl
    exact absurd (digits 37 (by simp)) Bool.false_ne_true

/-- A query for a day comes through. -/
theorem SchoolCodes.Extractable.bound_meal (extractable : codes.Extractable)
    (valid : validateDateFormat date = true) : ∃ request,
      parseRequest (requestMeal codes.eduCode codes.schoolCode date) = some request ∧
        (HandlerCall.meal codes.eduCode codes.schoolCode date).IsBound request := by
  obtain ⟨eduFits, schoolFits⟩ := extractable.length_le
  obtain ⟨length, dateFree⟩ := plain_of_date valid
  refine HandlerCall.bound_of_tokens rfl ?_ ?_ trivial ?_
  · simp [HandlerCall.operands, extractable.zeroFree, dateFree]
  · have command : cmdGetMeal.length = 8 := by decide
    simp only [HandlerCall.command, HandlerCall.fields, HandlerCall.operands, requestText, trailing,
      List.flatMap_cons, List.flatMap_nil, List.length_append, List.length_nil, command,
      length_cmdDelimiter, length, bufferSize]
    omega
  · have eduToken := (isToken_iff _).mp extractable.eduToken
    have schoolToken := (isToken_iff _).mp extractable.schoolToken
    have dateToken := HandlerCall.isToken_of_date valid
    simpa [HandlerCall.operands] using ⟨eduToken, schoolToken, dateToken⟩

/-- So does one for a period. -/
theorem SchoolCodes.Extractable.bound_mealsPeriod (extractable : codes.Extractable)
    (validStart : validateDateFormat startDate = true)
    (validEnd : validateDateFormat endDate = true) : ∃ request,
      parseRequest (requestMealsPeriod codes.eduCode codes.schoolCode startDate endDate) =
          some request ∧
        (HandlerCall.mealsPeriod codes.eduCode codes.schoolCode startDate endDate).IsBound
          request := by
  obtain ⟨eduFits, schoolFits⟩ := extractable.length_le
  obtain ⟨startLength, startFree⟩ := plain_of_date validStart
  obtain ⟨endLength, endFree⟩ := plain_of_date validEnd
  refine HandlerCall.bound_of_tokens rfl ?_ ?_ ⟨validStart, validEnd⟩ ?_
  · simp [HandlerCall.operands, extractable.zeroFree, startFree, endFree]
  · have command : cmdGetMultiMeal.length = 14 := by decide
    have hyphen : (utf8 "-").length = 1 := by decide
    simp only [HandlerCall.command, HandlerCall.fields, requestText, trailing, List.flatMap_cons,
      List.flatMap_nil, List.length_append, List.length_nil, command, length_cmdDelimiter, hyphen,
      startLength, endLength, bufferSize]
    omega
  · have eduToken := (isToken_iff _).mp extractable.eduToken
    have schoolToken := (isToken_iff _).mp extractable.schoolToken
    have startToken := HandlerCall.isToken_of_date validStart
    have endToken := HandlerCall.isToken_of_date validEnd
    simpa [HandlerCall.operands] using ⟨eduToken, schoolToken, startToken, endToken⟩

/-- Codes of which the school's begins with a digit are used as they are. -/
theorem SchoolCodes.Extractable.used (extractable : codes.Extractable) (around : Surroundings)
    (digit : codes.schoolCode.head?.any isDigit = true) :
    codesUsed around codes.eduCode codes.schoolCode = some codes := by
  obtain ⟨eduFits, schoolFits⟩ := extractable.length_le
  rw [codesUsed, if_pos digit, strncpy_zeroed, strncpy_zeroed, List.take_of_length_le eduFits,
    List.take_of_length_le schoolFits]

end Queries

section LoggedIn

variable {store : Store} {id pw : Operand} {codes : SchoolCodes} {session : Session}
  {side : NeisSide}

theorem LoggedIn.asks (loggedIn : LoggedIn store id pw codes session) (ready : side.ready = true)
    (understood : codes.Understood) : AsksOwnSchool side codes session := by
  have extractable := loggedIn.extractable
  obtain ⟨eduFits, schoolFits⟩ := extractable.length_le
  obtain ⟨digit, eduLiteral, schoolLiteral⟩ := understood
  intro locals around store
  have nothing : askedForCodes side.queries codes.schoolCode = [] := if_pos digit
  rw [loggedIn.session_eq]
  constructor
  · intro date valid
    obtain ⟨request, parsed, bound⟩ := extractable.bound_meal valid
    have length := (plain_of_date valid).1
    have read := (readQuery_mealUrl_iff codes.eduCode codes.schoolCode date).mpr
      ⟨eduLiteral, schoolLiteral, isLiteral_of_date valid, by omega⟩
    have asked : side.queries (.getMealFromNeis codes.eduCode codes.schoolCode date) =
        [mealUrl codes.eduCode codes.schoolCode date] := by
      rw [NeisSide.queries, NeisSide.urls_getMealFromNeis, if_pos ready]
    rw [queriesOf_meal side parsed bound, nothing, extractable.used around digit,
      Option.elim_some, asked, List.nil_append, List.map_singleton, read]
  · intro startDate endDate validStart validEnd short
    obtain ⟨request, parsed, bound⟩ := extractable.bound_mealsPeriod validStart validEnd
    have startLength := (plain_of_date validStart).1
    have endLength := (plain_of_date validEnd).1
    have read := (readQuery_mealsPeriodUrl_iff codes.eduCode codes.schoolCode startDate
      endDate).mpr ⟨eduLiteral, schoolLiteral, isLiteral_of_date validStart,
        isLiteral_of_date validEnd, by omega⟩
    have asked : side.queries (.getMealsPeriodFromNeis codes.eduCode codes.schoolCode startDate
        endDate) = [mealsPeriodUrl codes.eduCode codes.schoolCode startDate endDate] := by
      rw [NeisSide.queries, NeisSide.urls_getMealsPeriodFromNeis, if_pos ⟨short, ready⟩]
    rw [queriesOf_mealsPeriod side parsed bound, nothing, extractable.used around digit,
      Option.elim_some, asked, List.nil_append, List.map_singleton, read]

/-- A query for one day already needs all of it: without libcurl nothing is asked, a code that is
taken for a name costs a query of its own, and a code that is not literal is read as another. -/
theorem LoggedIn.understood_of_asks (loggedIn : LoggedIn store id pw codes session)
    (asks : AsksOwnSchool side codes session) : side.ready = true ∧ codes.Understood := by
  have extractable := loggedIn.extractable
  have valid : validateDateFormat (utf8 "20240603") = true := by decide
  have asked := (asks .zeroed (.calm codes) store).1 _ valid
  obtain ⟨request, parsed, bound⟩ := extractable.bound_meal valid
  have used : codesUsed (.calm codes) codes.eduCode codes.schoolCode = some codes := by
    by_cases digit : codes.schoolCode.head?.any isDigit = true
    · exact extractable.used _ digit
    · exact if_neg digit
  rw [loggedIn.session_eq, queriesOf_meal side parsed bound, used, Option.elim_some] at asked
  cases ready : side.ready with
  | false =>
    rw [askedForCodes, side.queries_of_unready ready, side.queries_of_unready ready,
      ite_self] at asked
    cases asked
  | true =>
    have meal : side.queries (.getMealFromNeis codes.eduCode codes.schoolCode (utf8 "20240603")) =
        [mealUrl codes.eduCode codes.schoolCode (utf8 "20240603")] := by
      rw [NeisSide.queries, NeisSide.urls_getMealFromNeis, if_pos ready]
    by_cases digit : codes.schoolCode.head?.any isDigit = true
    · rw [askedForCodes, if_pos digit, meal] at asked
      obtain ⟨eduLiteral, schoolLiteral, _⟩ := (readQuery_mealUrl_iff codes.eduCode
        codes.schoolCode (utf8 "20240603")).mp (List.cons.inj asked).1
      exact ⟨rfl, digit, eduLiteral, schoolLiteral⟩
    · have lookup : side.queries (.resolveSchoolCode codes.schoolCode) =
          [side.schoolUrl codes.schoolCode] := by
        rw [NeisSide.queries, NeisSide.urls_getSchoolCodes, if_pos ready]
      rw [askedForCodes, if_neg digit, lookup, meal] at asked
      exact absurd (congrArg List.length asked) (by simp)

/-- The client of a registered user asks NEIS once and with the stored codes exactly when libcurl
is there, the school's code begins with a digit and both codes are literal. -/
theorem asksOwnSchool_iff (loggedIn : LoggedIn store id pw codes session) :
    AsksOwnSchool side codes session ↔ side.ready = true ∧ codes.Understood :=
  ⟨loggedIn.understood_of_asks, fun ⟨ready, understood⟩ => loggedIn.asks ready understood⟩

end LoggedIn

/-! ### Two schools -/

/-- A user who logs in to a calm server right after the registration. -/
theorem loggedIn_withUser {store : Store} (id pw : Operand) {codes : SchoolCodes}
    (extractable : codes.Extractable) (fits : id.text.length ≤ 19 ∧ pw.text.length ≤ 19)
    (fresh : userRow store id.text = none) :
    LoggedIn (withUser store (generalUser id.text pw.text codes)) id pw codes
      ⟨id.text, roleGeneral, codes.eduCode, codes.schoolCode⟩ := by
  have columns := generalUser_of_fits fits.1 fits.2 extractable.toPlain
  obtain ⟨edu, school⟩ := extractable.carried
  rw [columns]
  have login : StoredLogin _ ⟨id.text, pw.text, [], roleGeneral, _, _⟩ id pw :=
    storedLogin_withUser id pw ⟨rfl, rfl⟩ fits (.inl rfl) extractable.zeroFree fresh
  have carries : Carries (.calm codes) _ _ := login.carries rfl rfl edu school
  obtain ⟨response, result⟩ := carries .zeroed Session.empty
  refine ⟨extractable, fits.1, fits.2, ?_, .zeroed, .calm codes, Session.empty, response, result⟩
  rw [columns]
  exact login.stored

theorem loggedIn_sample {codes : SchoolCodes} (extractable : codes.Extractable) :
    LoggedIn (withUser initDb (generalUser (utf8 "user1") (utf8 "1234") codes))
      sampleOperands.1 sampleOperands.2.1 codes
      ⟨utf8 "user1", roleGeneral, codes.eduCode, codes.schoolCode⟩ :=
  loggedIn_withUser sampleOperands.1 sampleOperands.2.1 extractable (by decide) (by decide)

/-- A school whose code is all digits. -/
theorem asksOwnSchool_sample :
    AsksOwnSchool (.calm .null) ⟨utf8 "B10", utf8 "7010569"⟩
        ⟨utf8 "user1", roleGeneral, utf8 "B10", utf8 "7010569"⟩ ↔
      (NeisSide.calm .null).ready = true ∧
        (SchoolCodes.mk (utf8 "B10") (utf8 "7010569")).Understood :=
  asksOwnSchool_iff (loggedIn_sample
    ⟨⟨by decide, by decide, by decide, by decide⟩, by decide, by decide, by decide⟩)

/-- A school whose code begins with a letter: the code is looked up as a name. -/
theorem codeTakenForName :
    LoggedIn (withUser initDb (generalUser (utf8 "user1") (utf8 "1234")
        ⟨utf8 "B10", utf8 "B100000658"⟩)) sampleOperands.1 sampleOperands.2.1
        ⟨utf8 "B10", utf8 "B100000658"⟩
        ⟨utf8 "user1", roleGeneral, utf8 "B10", utf8 "B100000658"⟩ ∧
      ¬ AsksOwnSchool (.calm .null) ⟨utf8 "B10", utf8 "B100000658"⟩
        ⟨utf8 "user1", roleGeneral, utf8 "B10", utf8 "B100000658"⟩ := by
  refine ⟨loggedIn_sample ⟨⟨by decide, by decide, by decide, by decide⟩, by decide, by decide,
    by decide⟩, fun asks => ?_⟩
  have asked := (asks .zeroed (.calm ⟨utf8 "B10", utf8 "B100000658"⟩) initDb).1
    (utf8 "20240603") (by decide)
  exact absurd (congrArg List.length asked) (by decide)

end SchoolMeals
