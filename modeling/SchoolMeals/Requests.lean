/-
This file says which requests the client makes. Nobody is logged in, or a user
is, or a parent is, and the menus of each of these sessions come to requests of
their own. What a menu checks it sends as the server will read it; what a user
types freely is read as it was meant exactly when it is a token.
-/

import SchoolMeals.MainLoop

namespace SchoolMeals

open CText Interaction

/-! ### What is read -/

theorem EndsWithin.of_sublist {size : Nat} {text part : Bytes} (ends : EndsWithin size text)
    (sublist : part.Sublist text) : EndsWithin size part :=
  ⟨fun zero => ends.1 (sublist.mem zero), sublist.length_le.trans_lt ends.2⟩

theorem EndsWithin.room {size : Nat} {text : Bytes} (ends : EndsWithin size text) : 0 < size :=
  Nat.zero_lt_of_lt ends.2

section Reads

variable {size : Nat} {array : Bytes}

/-- What `fgets` stores leaves room for a terminator, and the rest of the input stays. -/
theorem fgets_spec {stdin stored rest : Bytes} (room : 0 < size)
    (read : fgets size stdin = some (stored, rest)) :
    EndsWithin size (cString stored) ∧ rest <:+ stdin := by
  rw [fgets] at read
  split at read
  · cases read
  · obtain ⟨rfl, rfl⟩ := Prod.mk.inj (Option.some.inj read)
    have short : (cString (stdin.take
        (((stdin.takeWhile (· ≠ 10)).length + 1).min (size - 1)))).length ≤ size - 1 :=
      (List.takeWhile_prefix _).length_le.trans
        ((List.length_take_le _ _).trans (Nat.min_le_right _ _))
    exact ⟨⟨zeroFree_cString _, Nat.lt_of_le_of_lt short (Nat.sub_one_lt_of_lt room)⟩,
      List.drop_suffix _ _⟩

/-- So with any size that is narrowed to an `int`, which makes it no larger. -/
theorem fgetsInt_spec {stdin stored rest : Bytes} (room : 0 < size)
    (read : fgetsInt (intOfSize size) stdin = some (stored, rest)) :
    EndsWithin size (cString stored) ∧ rest <:+ stdin := by
  have narrowed : intOfSize size ≤ size := by
    have bits : (BitVec.ofNat 32 size).toNat ≤ size := by
      rw [BitVec.toNat_ofNat]
      exact Nat.mod_le _ _
    rw [intOfSize, BitVec.toInt_eq_toNat_cond]
    split <;> omega
  rw [fgetsInt] at read
  split at read
  · cases read
  · split at read
    · cases read
      exact ⟨⟨List.not_mem_nil, room⟩, List.suffix_refl _⟩
    · obtain ⟨ends, left⟩ := fgets_spec (by omega) read
      exact ⟨⟨ends.1, by have := ends.2; omega⟩, left⟩

theorem suffix_clearInputBuffer (stdin : Bytes) : clearInputBuffer stdin <:+ stdin :=
  (List.tail_suffix _).trans (List.dropWhile_suffix _)

theorem promptFor_spec (ends : EndsWithin size array) (stdin : Bytes) :
    EndsWithin size (promptFor array size stdin).text ∧
      (promptFor array size stdin).stdin <:+ stdin := by
  rw [promptFor]
  split
  · exact ⟨ends.of_sublist (List.takeWhile_sublist _), List.suffix_refl _⟩
  · rename_i read
    obtain ⟨stored, left⟩ := fgets_spec ends.room read
    exact ⟨stored.of_sublist (List.takeWhile_sublist _), left⟩

theorem safeInput_spec (ends : EndsWithin size array) (stdin : Bytes) :
    EndsWithin size (safeInput array size stdin).1 ∧ (safeInput array size stdin).2 <:+ stdin := by
  rw [safeInput]
  split
  · exact ⟨ends, List.suffix_refl _⟩
  · rename_i read
    obtain ⟨stored, left⟩ := fgetsInt_spec ends.room read
    dsimp only
    split
    · exact ⟨stored.of_sublist (List.dropLast_sublist _), left⟩
    · exact ⟨stored, (suffix_clearInputBuffer _).trans left⟩

/-- A loop of prompts ends with a text that it accepts. -/
theorem promptUntil_spec {accepts : Bytes → Bool} {rounds : Nat} (ends : EndsWithin size array)
    {stdin : Bytes} {last : Prompt}
    (ended : (promptUntil accepts size rounds array stdin).2 = some last) :
    accepts last.text = true ∧ EndsWithin size last.text ∧ last.stdin <:+ stdin := by
  induction rounds generalizing array stdin with
  | zero => cases ended
  | succ rounds inductionHypothesis =>
    obtain ⟨text, left⟩ := promptFor_spec ends stdin
    cases answer : accepts (promptFor array size stdin).text with
    | true =>
      rw [promptUntil_accepted rounds answer] at ended
      cases ended
      exact ⟨answer, text, left⟩
    | false =>
      rw [promptUntil_refused rounds answer] at ended
      obtain ⟨accepted, lastText, lastLeft⟩ := inductionHypothesis text ended
      exact ⟨accepted, lastText, lastLeft.trans left⟩

/-- So does a loop around `safe_input`. -/
theorem inputUntil_spec {accepts : Bytes → Bool} {rounds : Nat} (ends : EndsWithin size array)
    {stdin text rest : Bytes}
    (ended : inputUntil accepts size rounds array stdin = some (text, rest)) :
    accepts text = true ∧ EndsWithin size text ∧ rest <:+ stdin := by
  induction rounds generalizing array stdin with
  | zero => cases ended
  | succ rounds inductionHypothesis =>
    obtain ⟨stored, left⟩ := safeInput_spec ends stdin
    rw [inputUntil] at ended
    dsimp only at ended
    split at ended
    · rename_i accepted
      cases ended
      exact ⟨accepted, stored, left⟩
    · obtain ⟨accepted, lastText, lastLeft⟩ := inductionHypothesis stored ended
      exact ⟨accepted, lastText, lastLeft.trans left⟩

theorem suffix_scanfInt (number : Int) (stdin : Bytes) : (scanfInt number stdin).2 <:+ stdin := by
  have start : stdin.dropWhile isSpace <:+ stdin := List.dropWhile_suffix _
  unfold scanfInt
  dsimp only
  split
  · exact (List.drop_suffix _ _).trans start
  · dsimp only
    split
    · exact (List.tail_suffix _).trans start
    · exact start

theorem suffix_skipLine {stdin rest : Bytes} (skipped : skipLine stdin = some rest) :
    rest <:+ stdin := by
  rw [skipLine] at skipped
  split at skipped
  · cases skipped
    exact suffix_clearInputBuffer stdin
  · cases skipped

theorem readDate_spec (count : Nat) (stdin : Bytes) :
    (∀ date ∈ (readDate count stdin).1, date.length = count) ∧
      (readDate count stdin).2 <:+ stdin := by
  induction count generalizing stdin with
  | zero => exact ⟨fun date read => by cases read; rfl, List.suffix_refl _⟩
  | succ count inductionHypothesis =>
    cases stdin with
    | nil => exact ⟨fun _ none => absurd none (Option.not_mem_none _), List.suffix_refl _⟩
    | cons byte stdin =>
      obtain ⟨later, left⟩ := inductionHypothesis stdin
      rw [readDate]
      split
      · exact ⟨fun _ none => absurd none (Option.not_mem_none _), List.suffix_cons _ _⟩
      · refine ⟨fun date read => ?_, left.trans (List.suffix_cons _ _)⟩
        obtain ⟨rest, found, rfl⟩ := Option.map_eq_some_iff.mp read
        rw [List.length_cons, later rest found]

end Reads

/-! ### Sessions and what they allow -/

/-- Who is logged in, as far as the main loop can tell. -/
inductive Phase where
  | nobody
  | user
  | parent
  deriving DecidableEq

def Session.phase (session : Session) : Phase :=
  if !session.loggedIn then .nobody
  else if session.currentUserRole = roleParent then .parent
  else .user

/-- What the menus check of a user who is added or updated. -/
structure IsAccount (id pw eduOffice schoolName : Bytes) : Prop where
  id : isValidId id = true
  pw : isValidPassword pw = true
  office : (getEduOfficeCode eduOffice).isSome = true ∧ EndsWithin maxEduOfficeLen eduOffice
  school : 2 ≤ schoolName.length ∧ EndsWithin maxSchoolNameLen schoolName

/-- What `get_period_input` checks of a period. -/
structure IsPeriod (startDate endDate : Bytes) : Prop where
  start : validateDateFormat startDate = true
  finish : validateDateFormat endDate = true
  ordered : ¬ 0 < strcmp startDate endDate
  short : clientDays endDate - clientDays startDate ≤ 6

/-- The calls of handlers that the menus of a session come to. -/
inductive HandlerCall.Allowed (session : Session) : HandlerCall → Prop where
  | login {id pw : Bytes} (nobody : session.phase = .nobody) (idEnds : EndsWithin maxIdLen id)
      (pwEnds : EndsWithin maxPwLen pw) : Allowed session (.login id pw)
  | register {id pw eduOffice schoolName : Bytes} (nobody : session.phase = .nobody)
      (idValid : isValidId id = true) (pwValid : isValidPassword pw = true)
      (office : EndsWithin maxEduOfficeLen eduOffice)
      (school : EndsWithin maxSchoolNameLen schoolName) :
      Allowed session (.register id pw eduOffice schoolName)
  | addUser {id pw eduOffice schoolName : Bytes} (user : session.phase = .user)
      (account : IsAccount id pw eduOffice schoolName) :
      Allowed session (.addUser id pw eduOffice schoolName)
  | updateUser {id pw eduOffice schoolName : Bytes} (user : session.phase = .user)
      (account : IsAccount id pw eduOffice schoolName) :
      Allowed session (.updateUser id pw eduOffice schoolName)
  | deleteUser {id : Bytes} (user : session.phase = .user) (idValid : isValidId id = true) :
      Allowed session (.deleteUser id)
  | ownMeal {date : Bytes} (user : session.phase = .user)
      (valid : validateDateFormat date = true) :
      Allowed session (.meal session.currentUserEduOffice session.currentUserSchool date)
  | otherMeal {eduOffice schoolName date : Bytes} (user : session.phase = .user)
      (office : EndsWithin maxEduOfficeLen eduOffice)
      (school : EndsWithin maxSchoolNameLen schoolName) (dateEnds : EndsWithin dateSize date) :
      Allowed session (.meal eduOffice schoolName date)
  | ownMeals {startDate endDate : Bytes} (user : session.phase = .user)
      (period : IsPeriod startDate endDate) :
      Allowed session (.mealsPeriod session.currentUserEduOffice session.currentUserSchool
        startDate endDate)
  | otherMeals {eduOffice schoolName startDate endDate : Bytes} (user : session.phase = .user)
      (office : EndsWithin maxEduOfficeLen eduOffice)
      (school : EndsWithin maxSchoolNameLen schoolName) (period : IsPeriod startDate endDate) :
      Allowed session (.mealsPeriod eduOffice schoolName startDate endDate)

def MenuAction.Allowed (session : Session) : MenuAction → Prop
  | calls call => call.Allowed session
  | logout => session.phase = .user
  | nothing => True
  | exit => True

/-! ### What the menus come to -/

theorem getDateInput_eq (buffer : Bytes) (size : Nat) (stdin : Bytes) :
    getDateInput buffer size stdin =
      (validateDateFormat (safeInput buffer size stdin).1, safeInput buffer size stdin) := by
  unfold getDateInput
  obtain ⟨date, rest⟩ := safeInput buffer size stdin
  dsimp only
  cases validateDateFormat date <;> rfl

/-- A period that is accepted has passed all checks, and the input goes on behind it. -/
theorem getPeriodInput_spec {startBuffer endBuffer : Bytes} {size : Nat}
    (startEnds : EndsWithin size startBuffer) (endEnds : EndsWithin size endBuffer)
    (stdin : Bytes) :
    ((getPeriodInput startBuffer endBuffer size stdin).accepted = true →
        IsPeriod (getPeriodInput startBuffer endBuffer size stdin).startDate
          (getPeriodInput startBuffer endBuffer size stdin).endDate) ∧
      (getPeriodInput startBuffer endBuffer size stdin).stdin <:+ stdin := by
  have left := (safeInput_spec startEnds stdin).2
  have leftBehind := (safeInput_spec endEnds (safeInput startBuffer size stdin).2).2
  rcases first : safeInput startBuffer size stdin with ⟨startDate, middle⟩
  rcases second : safeInput endBuffer size middle with ⟨endDate, rest⟩
  rw [first] at left leftBehind
  rw [second] at leftBehind
  cases valid : validateDateFormat startDate with
  | false =>
    rw [getPeriodInput_of_invalid startBuffer endBuffer size first valid]
    exact ⟨fun accepted => absurd accepted Bool.false_ne_true, left⟩
  | true =>
    rw [getPeriodInput_of_valid startBuffer endBuffer size first second valid]
    refine ⟨fun accepted => ?_, leftBehind.trans left⟩
    simp only [Bool.and_eq_true, Bool.not_eq_true', decide_eq_false_iff_not,
      decide_eq_true_eq] at accepted
    exact ⟨valid, accepted.1.1, accepted.1.2, accepted.2⟩

/-- What a menu offers in a session: it comes to a call that is allowed, or to nothing. -/
structure Offers (session : Session) (stdin : Bytes) (result : MenuAction × Bytes) : Prop where
  allowed : result.1.Allowed session
  serves : result.1 = .nothing ∨ ∃ call, result.1 = .calls call
  left : result.2 <:+ stdin

theorem Offers.nothing {session : Session} {stdin left : Bytes} (suffix : left <:+ stdin) :
    Offers session stdin (.nothing, left) := ⟨trivial, Or.inl rfl, suffix⟩

theorem Offers.call {session : Session} {stdin left : Bytes} {call : HandlerCall}
    (allowed : call.Allowed session) (suffix : left <:+ stdin) :
    Offers session stdin (.calls call, left) := ⟨allowed, Or.inr ⟨call, rfl⟩, suffix⟩

/-- Whatever a menu reads, this holds of what it comes to. -/
def ComesTo (holds : MenuAction × Bytes → Prop) (reads : Option (MenuAction × Bytes)) : Prop :=
  ∀ result, reads = some result → holds result

section ComesTo

variable {holds : MenuAction × Bytes → Prop} {Input : Type}

theorem comesTo_return {result : MenuAction × Bytes} (held : holds result) :
    ComesTo holds (some result) := by
  intro other same
  cases same
  exact held

theorem comesTo_bind {first : Option Input} {next : Input → Option (MenuAction × Bytes)}
    (each : ∀ input, first = some input → ComesTo holds (next input)) :
    ComesTo holds (first >>= next) := by
  intro result reads
  obtain ⟨input, read, later⟩ := Option.bind_eq_some_iff.mp reads
  exact each input read result later

theorem comesTo_ite {condition : Prop} [Decidable condition]
    {first second : Option (MenuAction × Bytes)} (yes : condition → ComesTo holds first)
    (no : ¬ condition → ComesTo holds second) :
    ComesTo holds (if condition then first else second) := by
  split
  · exact yes ‹_›
  · exact no ‹_›

end ComesTo

section Menus

variable {rounds : Nat} (locals : MenuLocals) {session : Session} (stdin : Bytes)

theorem left_registration (asked : List Prompt) (eduOffice schoolName : Prompt)
    (passed : Option MenuCall) :
    Dialogue.left ⟨asked ++ [eduOffice, schoolName], passed⟩ stdin = schoolName.stdin := by
  rw [Dialogue.left, List.getLast?_append]
  rfl

theorem offers_loginMenu (choice : Int) (nobody : session.phase = .nobody) :
    ComesTo (Offers session stdin) (loginMenu rounds locals choice stdin) := by
  refine comesTo_ite (fun chosen => ?_) fun _ => comesTo_return (.nothing (List.suffix_refl _))
  rcases chosen with rfl | rfl
  · obtain ⟨id, afterId⟩ := promptFor_spec locals.idEnds stdin
    obtain ⟨pw, afterPw⟩ := promptFor_spec locals.pwEnds (promptFor locals.id maxIdLen stdin).stdin
    exact comesTo_return (.call (.login nobody id pw) (afterPw.trans afterId))
  · rw [handleLoginMenuInput]
    rcases foundId : promptUntil isValidId maxIdLen rounds locals.id stdin with ⟨ids, none | id⟩
    · exact fun result none => absurd none.symm (Option.some_ne_none _)
    dsimp only
    rcases foundPw : promptUntil isValidPassword maxPwLen rounds locals.pw id.stdin with
      ⟨pws, none | pw⟩
    · exact fun result none => absurd none.symm (Option.some_ne_none _)
    obtain ⟨idValid, _, afterId⟩ := promptUntil_spec locals.idEnds (congrArg Prod.snd foundId)
    obtain ⟨pwValid, _, afterPw⟩ := promptUntil_spec locals.pwEnds (congrArg Prod.snd foundPw)
    obtain ⟨office, afterOffice⟩ := promptFor_spec locals.eduOfficeEnds pw.stdin
    obtain ⟨school, afterSchool⟩ := promptFor_spec locals.schoolNameEnds
      (promptFor locals.eduOffice maxEduOfficeLen pw.stdin).stdin
    dsimp only
    rw [left_registration]
    exact comesTo_return (.call (.register nobody idValid pwValid office school)
      (((afterSchool.trans afterOffice).trans afterPw).trans afterId))

theorem offers_ownMealMenu (user : session.phase = .user) :
    ComesTo (Offers session stdin) (ownMealMenu locals session stdin) := by
  have scanned := suffix_scanfInt locals.subChoice stdin
  unfold ownMealMenu
  generalize scanfInt locals.subChoice stdin = start at scanned ⊢
  refine comesTo_bind fun rest skipped => ?_
  have behind : rest <:+ stdin := (suffix_skipLine skipped).trans scanned
  refine comesTo_ite (fun _ => ?_) fun _ => comesTo_ite (fun _ => ?_) fun _ =>
    comesTo_return (.nothing behind)
  · have left := (safeInput_spec locals.dateEnds rest).2
    rw [getDateInput_eq]
    generalize safeInput locals.date dateSize rest = date at left ⊢
    refine comesTo_ite (fun _ => comesTo_return (.nothing (left.trans behind))) fun valid => ?_
    exact comesTo_return (.call (.ownMeal user (by simpa using valid)) (left.trans behind))
  · obtain ⟨period, left⟩ := getPeriodInput_spec locals.dateEnds locals.endDateEnds rest
    refine comesTo_ite (fun _ => comesTo_return (.nothing (left.trans behind)))
      fun accepted => ?_
    exact comesTo_return (.call (.ownMeals user (period (by simpa using accepted)))
      (left.trans behind))

theorem offers_otherMealMenu (user : session.phase = .user) :
    ComesTo (Offers session stdin) (otherMealMenu locals stdin) := by
  have scanned := suffix_scanfInt locals.subChoice stdin
  unfold otherMealMenu
  generalize scanfInt locals.subChoice stdin = start at scanned ⊢
  refine comesTo_bind fun rest skipped => ?_
  dsimp only
  obtain ⟨office, afterOffice⟩ := promptFor_spec locals.eduOfficeEnds rest
  generalize promptFor locals.eduOffice maxEduOfficeLen rest = eduOffice at office afterOffice ⊢
  obtain ⟨school, afterSchool⟩ := promptFor_spec locals.schoolNameEnds eduOffice.stdin
  generalize promptFor locals.schoolName maxSchoolNameLen eduOffice.stdin = schoolName
    at school afterSchool ⊢
  have behind : schoolName.stdin <:+ stdin :=
    ((afterSchool.trans afterOffice).trans (suffix_skipLine skipped)).trans scanned
  refine comesTo_ite (fun _ => ?_) fun _ => comesTo_ite (fun _ => ?_) fun _ =>
    comesTo_return (.nothing behind)
  · obtain ⟨eight, afterDate⟩ := readDate_spec 8 schoolName.stdin
    generalize readDate 8 schoolName.stdin = read at eight afterDate ⊢
    rcases read with ⟨none | date, left⟩
    · exact comesTo_return (.nothing (afterDate.trans behind))
    · refine comesTo_bind fun last skippedLast => ?_
      have size : (cString date).length < dateSize :=
        Nat.lt_succ_of_le ((List.takeWhile_prefix _).length_le.trans_eq (eight date rfl))
      exact comesTo_return (.call (.otherMeal user office school ⟨zeroFree_cString _, size⟩)
        (((suffix_skipLine skippedLast).trans afterDate).trans behind))
  · obtain ⟨period, left⟩ :=
      getPeriodInput_spec locals.dateEnds locals.endDateEnds schoolName.stdin
    refine comesTo_ite (fun _ => comesTo_return (.nothing (left.trans behind)))
      fun accepted => ?_
    exact comesTo_return (.call (.otherMeals user office school
      (period (by simpa using accepted))) (left.trans behind))

theorem accountInput_spec {id pw eduOffice schoolName rest : Bytes}
    (read : accountInput rounds locals stdin = some ((id, pw, eduOffice, schoolName), rest)) :
    IsAccount id pw eduOffice schoolName ∧ rest <:+ stdin := by
  rw [accountInput] at read
  obtain ⟨⟨anId, afterId⟩, idRead, read⟩ := Option.bind_eq_some_iff.mp read
  obtain ⟨⟨aPw, afterPw⟩, pwRead, read⟩ := Option.bind_eq_some_iff.mp read
  obtain ⟨⟨anOffice, afterOffice⟩, officeRead, read⟩ := Option.bind_eq_some_iff.mp read
  obtain ⟨⟨aSchool, afterSchool⟩, schoolRead, read⟩ := Option.bind_eq_some_iff.mp read
  cases read
  obtain ⟨idValid, _, idLeft⟩ := inputUntil_spec locals.idEnds idRead
  obtain ⟨pwValid, _, pwLeft⟩ := inputUntil_spec locals.pwEnds pwRead
  obtain ⟨officeValid, officeEnds, officeLeft⟩ := inputUntil_spec locals.eduOfficeEnds officeRead
  obtain ⟨schoolValid, schoolEnds, schoolLeft⟩ := inputUntil_spec locals.schoolNameEnds schoolRead
  exact ⟨⟨idValid, pwValid, ⟨officeValid, officeEnds⟩, ⟨of_decide_eq_true schoolValid, schoolEnds⟩⟩,
    ((schoolLeft.trans officeLeft).trans pwLeft).trans idLeft⟩

theorem offers_userMenu (user : session.phase = .user) :
    ComesTo (Offers session stdin) (userMenu rounds locals stdin) := by
  have scanned := suffix_scanfInt locals.subChoice stdin
  unfold userMenu
  generalize scanfInt locals.subChoice stdin = start at scanned ⊢
  have behind : start.2.tail <:+ stdin := (List.tail_suffix _).trans scanned
  dsimp only
  split
  · refine comesTo_bind fun ⟨⟨id, pw, eduOffice, schoolName⟩, left⟩ read => ?_
    obtain ⟨account, suffix⟩ := accountInput_spec locals _ read
    exact comesTo_return (.call (.addUser user account) (suffix.trans behind))
  · refine comesTo_bind fun ⟨⟨id, pw, eduOffice, schoolName⟩, left⟩ read => ?_
    obtain ⟨account, suffix⟩ := accountInput_spec locals _ read
    exact comesTo_return (.call (.updateUser user account) (suffix.trans behind))
  · refine comesTo_bind fun ⟨id, left⟩ read => ?_
    obtain ⟨valid, _, suffix⟩ := inputUntil_spec locals.idEnds read
    exact comesTo_return (.call (.deleteUser user valid) (suffix.trans behind))
  · exact comesTo_return (.nothing behind)

theorem offers_handleGeneralMenu (choice : Int) (user : session.phase = .user) :
    ComesTo (fun result => Offers session stdin result ∨ choice = 4 ∧ result = (.logout, stdin))
      (handleGeneralMenu rounds locals choice session stdin) := by
  unfold handleGeneralMenu
  split
  · exact fun result reads => Or.inl (offers_ownMealMenu locals stdin user result reads)
  · exact fun result reads => Or.inl (offers_otherMealMenu locals stdin user result reads)
  · exact fun result reads => Or.inl (offers_userMenu locals stdin user result reads)
  · exact comesTo_return (Or.inr ⟨rfl, rfl⟩)
  · exact comesTo_return (Or.inl (.nothing (List.suffix_refl _)))

end Menus

/-! ### A pass -/

/-- The number that ends the client. -/
def Session.exitChoice (session : Session) : Int := if !session.loggedIn then 3 else 5

/-- What a pass of the main loop takes from its menus: it ends the client exactly for the number
that does so, it comes to nothing that the session does not allow, and it reads at least the byte
behind the number. -/
structure PassInput.Fits (state : ClientState) (input : PassInput) : Prop where
  scanned : input.choice = (scanfInt state.choice state.stdin).1
  exits : input.action = .exit ↔ input.choice = state.session.exitChoice
  allowed : input.action.Allowed state.session
  entry : state.session.phase = .nobody →
    input.action.goesOn = false ∨ input.action = .nothing ∨ input.choice = 1 ∨ input.choice = 2
  logout : input.action = .logout → input.choice = 4
  left : input.stdin <:+ state.stdin.tail

theorem tail_suffix_tail {part whole : Bytes} (suffix : part <:+ whole) :
    part.tail <:+ whole.tail := by
  obtain ⟨front, rfl⟩ := suffix
  cases front with
  | nil => exact List.suffix_refl _
  | cons _ front => exact (List.tail_suffix part).trans (List.suffix_append front part)

section Fits

variable {state : ClientState} {choice : Int} {start : Bytes}

theorem fits_exit (scanned : choice = (scanfInt state.choice state.stdin).1)
    (behind : start <:+ state.stdin.tail) (chosen : choice = state.session.exitChoice) :
    PassInput.Fits state ⟨.exit, choice, start⟩ where
  scanned := scanned
  exits := ⟨fun _ => chosen, fun _ => rfl⟩
  allowed := trivial
  entry _ := Or.inl rfl
  logout := nofun
  left := behind

theorem fits_logout (scanned : 4 = (scanfInt state.choice state.stdin).1)
    (behind : start <:+ state.stdin.tail) (user : state.session.phase = .user)
    (other : 4 ≠ state.session.exitChoice) : PassInput.Fits state ⟨.logout, 4, start⟩ where
  scanned := scanned
  exits := ⟨nofun, fun chosen => absurd chosen other⟩
  allowed := user
  entry nobody := absurd (user.symm.trans nobody) (by decide)
  logout _ := rfl
  left := behind

theorem Offers.fits {result : MenuAction × Bytes}
    (scanned : choice = (scanfInt state.choice state.stdin).1)
    (behind : start <:+ state.stdin.tail) (other : choice ≠ state.session.exitChoice)
    (entry : state.session.phase = .nobody → result.1 = .nothing ∨ choice = 1 ∨ choice = 2)
    (offers : Offers state.session start result) :
    PassInput.Fits state ⟨result.1, choice, result.2⟩ where
  scanned := scanned
  exits := ⟨fun exit => by rcases offers.serves with none | ⟨call, calls⟩ <;> simp_all,
    fun chosen => absurd chosen other⟩
  allowed := offers.allowed
  entry nobody := Or.inr (entry nobody)
  logout logout := by rcases offers.serves with none | ⟨call, calls⟩ <;> simp_all
  left := offers.left.trans behind

end Fits

theorem readPass_fits {rounds : Nat} {locals : MenuLocals} {state : ClientState}
    {input : PassInput} (reads : readPass rounds locals state = some input) :
    input.Fits state := by
  have behind := tail_suffix_tail (suffix_scanfInt state.choice state.stdin)
  rw [readPass] at reads
  generalize found : scanfInt state.choice state.stdin = scanned at reads behind
  have choice : scanned.1 = (scanfInt state.choice state.stdin).1 := by rw [found]
  dsimp only at reads
  split at reads
  · rename_i nobody
    have phase : state.session.phase = .nobody := if_pos nobody
    have number : state.session.exitChoice = 3 := if_pos nobody
    split at reads
    · rename_i chosen
      cases reads
      exact fits_exit choice behind (chosen.trans number.symm)
    · rename_i other
      obtain ⟨⟨action, left⟩, menu, same⟩ := Option.bind_eq_some_iff.mp reads
      cases same
      refine (offers_loginMenu locals _ scanned.1 phase _ menu).fits choice behind
        (fun chosen => other (chosen.trans number)) fun _ => ?_
      by_cases entry : scanned.1 = 1 ∨ scanned.1 = 2
      · exact Or.inr entry
      · rw [loginMenu, if_neg entry] at menu
        cases menu
        exact Or.inl rfl
  · rename_i loggedIn
    have number : state.session.exitChoice = 5 := if_neg loggedIn
    split at reads
    · rename_i chosen
      cases reads
      exact fits_exit choice behind (chosen.trans number.symm)
    · rename_i other
      have away : scanned.1 ≠ state.session.exitChoice := fun chosen => other (chosen.trans number)
      split at reads
      · rename_i parent
        cases reads
        have phase : state.session.phase = .parent := by
          rw [Session.phase, if_neg loggedIn, if_pos parent]
        exact Offers.fits choice behind away
          (fun nobody => absurd (phase.symm.trans nobody) (by decide))
          (.nothing (List.suffix_refl _))
      · rename_i noParent
        have phase : state.session.phase = .user := by
          rw [Session.phase, if_neg loggedIn, if_neg noParent]
        have somebody : state.session.phase ≠ .nobody := by rw [phase]; decide
        obtain ⟨⟨action, left⟩, menu, same⟩ := Option.bind_eq_some_iff.mp reads
        cases same
        rcases offers_handleGeneralMenu locals _ scanned.1 phase _ menu with offers | ⟨four, out⟩
        · exact offers.fits choice behind away fun nobody => absurd nobody somebody
        · cases out
          rw [four] at choice away ⊢
          exact fits_logout choice behind phase away

theorem allowed_readPass {rounds : Nat} (locals : MenuLocals) {state : ClientState}
    {input : PassInput} (reads : readPass rounds locals state = some input) :
    input.action.Allowed state.session := (readPass_fits reads).allowed

end SchoolMeals
