/-
This file models the main loop of the client with its menus. A pass of the loop
reads a number and then the answers that the menu for this number asks for, and
only behind the last of them does it call a handler, which talks to the server.
The variables on the stack hold anything before they are read into, and at the
end of the input they are not read into: then a pass works with what it finds
there, and the number is the one of the pass before.
-/

import SchoolMeals.InputLoops
import SchoolMeals.UserHandlers
import SchoolMeals.LoginState

namespace SchoolMeals

open CText Interaction

/-! ### Reading from the terminal -/

/-- `scanf("%d", &number)`: the number afterwards and the bytes left to read. A sign without digits
is read, and nothing else that is no number. -/
def scanfInt (number : Int) (stdin : Bytes) : Int × Bytes :=
  let start := stdin.dropWhile isSpace
  match signed start with
  | some (value, used) => (readAsInt value, start.drop used)
  | none =>
    (number, if start.head? = some 45 || start.head? = some 43 then start.tail else start)

/-- `while (getchar() != '\n')`, which goes on for ever at the end of the input. -/
def skipLine (stdin : Bytes) : Option Bytes :=
  if 10 ∈ stdin then some (clearInputBuffer stdin) else none

/-- The loop that reads a date byte by byte: the bytes, unless the line or the input ends among
them, and the bytes left to read. -/
def readDate : Nat → Bytes → Option Bytes × Bytes
  | 0, stdin => (some [], stdin)
  | _ + 1, [] => (none, [])
  | count + 1, byte :: stdin =>
    if byte = 10 then (none, stdin)
    else
      let (date, stdin) := readDate count stdin
      (date.map (byte :: ·), stdin)

/-! ### The menus -/

/-- A string that ends in its array. -/
def EndsWithin (size : Nat) (text : Bytes) : Prop := 0 ∉ text ∧ text.length < size

instance (size : Nat) (text : Bytes) : Decidable (EndsWithin size text) :=
  inferInstanceAs (Decidable (_ ∧ _))

/-- `sizeof(date)`. -/
def dateSize : Nat := 9

/-- What the variables of a menu function hold before anything is read into them. -/
structure MenuLocals extends Arrays where
  date : Bytes
  endDate : Bytes
  subChoice : Int
  response : ResponseArray
  idEnds : EndsWithin maxIdLen id
  pwEnds : EndsWithin maxPwLen pw
  eduOfficeEnds : EndsWithin maxEduOfficeLen eduOffice
  schoolNameEnds : EndsWithin maxSchoolNameLen schoolName
  dateEnds : EndsWithin dateSize date
  endDateEnds : EndsWithin dateSize endDate

/-- The variables of a menu function on a stack of zero bytes. -/
def MenuLocals.zeroed : MenuLocals where
  toArrays := ⟨[], [], [], []⟩
  date := []
  endDate := []
  subChoice := 0
  response := ChangeReply.zeroArray
  idEnds := by decide
  pwEnds := by decide
  eduOfficeEnds := by decide
  schoolNameEnds := by decide
  dateEnds := by decide
  endDateEnds := by decide

deriving instance DecidableEq for HandlerCall

/-- What a pass of the main loop comes to. -/
inductive MenuAction where
  | calls (call : HandlerCall)
  | logout
  | nothing
  | exit
  deriving DecidableEq

def MenuCall.call : MenuCall → HandlerCall
  | login id pw => .login id pw
  | register id pw eduOffice schoolName => .register id pw eduOffice schoolName

/-- Where the prompts of a dialogue leave the input. -/
def Dialogue.left (dialogue : Dialogue) (stdin : Bytes) : Bytes :=
  dialogue.prompts.getLast?.elim stdin Prompt.stdin

section Menus

variable (rounds : Nat) (locals : MenuLocals)

/-- What `handle_login_menu_input` calls, and the bytes it leaves to read: none while one of its
loops goes on. -/
def loginMenu (choice : Int) (stdin : Bytes) : Option (MenuAction × Bytes) :=
  let dialogue := handleLoginMenuInput rounds choice locals.toArrays stdin
  if choice = 1 ∨ choice = 2 then
    dialogue.passed.map fun call => (.calls call.call, dialogue.left stdin)
  else some (.nothing, stdin)

/-- The first choice of `handle_general_menu`: a meal of the user's own school. -/
def ownMealMenu (session : Session) (stdin : Bytes) : Option (MenuAction × Bytes) := do
  let (subChoice, stdin) := scanfInt locals.subChoice stdin
  let stdin ← skipLine stdin
  if subChoice = 1 then
    let (valid, date, stdin) := getDateInput locals.date dateSize stdin
    if !valid then return (.nothing, stdin)
    else return (.calls (.meal session.currentUserEduOffice session.currentUserSchool date), stdin)
  else if subChoice = 2 then
    let period := getPeriodInput locals.date locals.endDate dateSize stdin
    if !period.accepted then return (.nothing, period.stdin)
    else return (.calls (.mealsPeriod session.currentUserEduOffice session.currentUserSchool
      period.startDate period.endDate), period.stdin)
  else return (.nothing, stdin)

/-- The second choice of `handle_general_menu`: a meal of a school that is typed. The date is the
string in its array. -/
def otherMealMenu (stdin : Bytes) : Option (MenuAction × Bytes) := do
  let (subChoice, stdin) := scanfInt locals.subChoice stdin
  let stdin ← skipLine stdin
  let eduOffice := promptFor locals.eduOffice maxEduOfficeLen stdin
  let schoolName := promptFor locals.schoolName maxSchoolNameLen eduOffice.stdin
  if subChoice = 1 then
    match readDate 8 schoolName.stdin with
    | (none, stdin) => return (.nothing, stdin)
    | (some date, stdin) =>
      let stdin ← skipLine stdin
      return (.calls (.meal eduOffice.text schoolName.text (cString date)), stdin)
  else if subChoice = 2 then
    let period := getPeriodInput locals.date locals.endDate dateSize schoolName.stdin
    if !period.accepted then return (.nothing, period.stdin)
    else return (.calls (.mealsPeriod eduOffice.text schoolName.text period.startDate
      period.endDate), period.stdin)
  else return (.nothing, schoolName.stdin)

/-- The four inputs of a user that is to be added or updated. -/
def accountInput (stdin : Bytes) : Option ((Bytes × Bytes × Bytes × Bytes) × Bytes) := do
  let (id, stdin) ← getIdInput maxIdLen rounds locals.id stdin
  let (pw, stdin) ← getPasswordInput maxPwLen rounds locals.pw stdin
  let (eduOffice, stdin) ← getEduOfficeInput maxEduOfficeLen rounds locals.eduOffice stdin
  let (schoolName, stdin) ← getSchoolInput maxSchoolNameLen rounds locals.schoolName stdin
  return ((id, pw, eduOffice, schoolName), stdin)

/-- The third choice of `handle_general_menu`: users are added, updated and deleted. -/
def userMenu (stdin : Bytes) : Option (MenuAction × Bytes) := do
  let (subChoice, stdin) := scanfInt locals.subChoice stdin
  let stdin := stdin.tail
  match subChoice with
  | 1 =>
    let ((id, pw, eduOffice, schoolName), stdin) ← accountInput rounds locals stdin
    return (.calls (.addUser id pw eduOffice schoolName), stdin)
  | 2 =>
    let ((id, pw, eduOffice, schoolName), stdin) ← accountInput rounds locals stdin
    return (.calls (.updateUser id pw eduOffice schoolName), stdin)
  | 3 =>
    let (id, stdin) ← getIdInput maxIdLen rounds locals.id stdin
    return (.calls (.deleteUser id), stdin)
  | _ => return (.nothing, stdin)

/-- `handle_general_menu`. -/
def handleGeneralMenu (choice : Int) (session : Session) (stdin : Bytes) :
    Option (MenuAction × Bytes) :=
  match choice with
  | 1 => ownMealMenu locals session stdin
  | 2 => otherMealMenu locals stdin
  | 3 => userMenu rounds locals stdin
  | 4 => some (.logout, stdin)
  | _ => some (.nothing, stdin)

/-- `handle_parent_menu_input`, which is switched off. -/
def handleParentMenuInput (_choice : Int) : MenuAction := .nothing

end Menus

/-! ### The main loop -/

/-- The variables of the client between two passes of its main loop. -/
structure ClientState where
  session : Session
  choice : Int
  stdin : Bytes
  running : Bool

def ClientState.start (choice : Int) (stdin : Bytes) : ClientState :=
  ⟨Session.empty, choice, stdin, true⟩

/-- What a pass comes to, with the number and the bytes it leaves. -/
structure PassInput where
  action : MenuAction
  choice : Int
  stdin : Bytes
  deriving DecidableEq

/-- A pass of the loop in `main` up to the call of its handler. -/
def readPass (rounds : Nat) (locals : MenuLocals) (state : ClientState) : Option PassInput := do
  let (choice, stdin) := scanfInt state.choice state.stdin
  let stdin := stdin.tail
  if !state.session.loggedIn then
    if choice = 3 then return ⟨.exit, choice, stdin⟩
    else
      let (action, stdin) ← loginMenu rounds locals choice stdin
      return ⟨action, choice, stdin⟩
  else if choice = 5 then return ⟨.exit, choice, stdin⟩
  else if state.session.currentUserRole = roleParent then
    return ⟨handleParentMenuInput choice, choice, stdin⟩
  else
    let (action, stdin) ← handleGeneralMenu rounds locals choice state.session stdin
    return ⟨action, choice, stdin⟩

/-- The session variables behind a pass, and whether it told the user of a success. -/
structure PassResult where
  session : Session
  told : Bool

/-- A branch of a menu behind its prompts. -/
def HandlerCall.perform (array : ResponseArray) (session : Session) :
    HandlerCall → Client PassResult
  | login id pw => do
    let result ← Client.handleLogin id pw session
    return ⟨result.session, result.returned⟩
  | register id pw eduOffice schoolName => do
    let told ← Client.handleRegister array id pw eduOffice schoolName
    return ⟨session, told.returned⟩
  | addUser id pw eduOffice schoolName => do
    let change ← Client.handleAddUser array id pw eduOffice schoolName
    return ⟨session, change.returned && change.status = respSuccess⟩
  | updateUser id pw eduOffice schoolName => do
    let change ← Client.handleUpdateUser array id pw eduOffice schoolName
    return ⟨session, change.returned && change.status = respSuccess⟩
  | deleteUser id => do
    let told ← Client.handleDeleteUser array id
    return ⟨session, told.returned⟩
  | meal eduOffice schoolName date => do
    let response ← Client.getMealFromNeis eduOffice schoolName date
    return ⟨session, response.1⟩
  | mealsPeriod eduOffice schoolName startDate endDate => do
    let response ← Client.getMealsPeriodFromNeis eduOffice schoolName startDate endDate
    return ⟨session, response.1⟩

def MenuAction.perform (array : ResponseArray) (session : Session) :
    MenuAction → Client PassResult
  | calls call => call.perform array session
  | logout => return ⟨handleLogout, true⟩
  | nothing => return ⟨session, false⟩
  | exit => return ⟨session, false⟩

def MenuAction.goesOn : MenuAction → Bool
  | exit => false
  | _ => true

/-- A pass of the main loop: the session it found, what it came to, the network calls it made with
their answers, and what it left. -/
structure LoopPass where
  session : Session
  action : MenuAction
  path : List ClientExchange
  result : PassResult

/-- The passes of the client. Nothing is assumed of the network and of the server. -/
inductive PassStep : ClientState → LoopPass → ClientState → Prop where
  | pass {state : ClientState} {rounds : Nat} {locals : MenuLocals} {input : PassInput}
      {path : List ClientExchange} {result : PassResult} (running : state.running = true)
      (reads : readPass rounds locals state = some input)
      (walked : Program.Path (input.action.perform locals.response state.session) path
        (.finished result)) :
      PassStep state ⟨state.session, input.action, path, result⟩
        ⟨result.session, input.choice, input.stdin, input.action.goesOn⟩

end SchoolMeals
