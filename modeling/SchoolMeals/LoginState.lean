/-
This file follows the session variables of the client through logins and
logouts, with any network and any replies. `handle_login` writes the identifier
as soon as the status is a success and the other three variables only once it
has found their tokens, so a success with fewer than five tokens leaves an
identifier without the rest. Apart from such replies the variables are always
those of one login reply, or empty.
-/

import SchoolMeals.Library.Transition
import SchoolMeals.Handlers

namespace SchoolMeals

open CText Interaction Transition

/-! ### What a handler was answered -/

/-- A call of the client with its answer. -/
abbrev ClientExchange := Program.Exchange ClientCall ClientCall.Answer

namespace ClientExchange

/-- The bytes a call received. -/
def received : ClientExchange → Bytes
  | ⟨.recv _, some chunk⟩ => chunk.val
  | ⟨.recv _, none⟩ => []
  | ⟨.selectWrite, _⟩ => []
  | ⟨.send _, _⟩ => []
  | ⟨.selectRead, _⟩ => []

/-- The call reported a failure: a time-out or `SOCKET_ERROR`. -/
def failed : ClientExchange → Bool
  | ⟨.selectWrite, ready⟩ => !ready
  | ⟨.send _, sent⟩ => sent.isNone
  | ⟨.selectRead, ready⟩ => !ready
  | ⟨.recv _, chunk⟩ => chunk.isNone

end ClientExchange

/-- The reply a handler received: none when a call failed or the connection closed before the
first byte. -/
def replyOf (path : List ClientExchange) : Option Bytes :=
  if path.any ClientExchange.failed then none
  else if path.flatMap ClientExchange.received = [] then none
  else some (cString (path.flatMap ClientExchange.received))

/-- Sending receives nothing, and reports whether a call failed. -/
theorem path_sendLoop {rounds : Nat} {data : Bytes} {path : List ClientExchange} {sent : Bool}
    (walked : Program.Path (sendLoop rounds data) path (.finished sent)) :
    path.any ClientExchange.failed = !sent ∧ path.flatMap ClientExchange.received = [] := by
  induction rounds generalizing data path with
  | zero =>
    obtain ⟨rfl, rfl⟩ := Program.result_of_path_finished walked
    exact ⟨rfl, rfl⟩
  | succ rounds inductionHypothesis =>
    rw [sendLoop] at walked
    split at walked
    · obtain ⟨rfl, rfl⟩ := Program.result_of_path_finished walked
      exact ⟨rfl, rfl⟩
    · obtain ⟨ready, rest, rfl, selected⟩ := Program.path_call_finished walked
      cases ready with
      | false =>
        obtain ⟨rfl, rfl⟩ := Program.result_of_path_finished selected
        exact ⟨rfl, rfl⟩
      | true =>
        obtain ⟨answer, later, rfl, handed⟩ := Program.path_call_finished selected
        cases answer with
        | none =>
          obtain ⟨rfl, rfl⟩ := Program.result_of_path_finished handed
          exact ⟨rfl, rfl⟩
        | some count =>
          show later.any ClientExchange.failed = !sent ∧ later.flatMap ClientExchange.received = []
          exact inductionHypothesis handed

/-- The receiving loop ends with all bytes it received, unless a call failed. -/
theorem path_receiveLoop {rounds : Nat} {buffer : Bytes} {path : List ClientExchange}
    {total : Option Bytes}
    (walked : Program.Path (receiveLoop rounds buffer) path (.finished total)) :
    total = if path.any ClientExchange.failed then none
      else some (buffer ++ path.flatMap ClientExchange.received) := by
  induction rounds generalizing buffer path with
  | zero =>
    obtain ⟨rfl, rfl⟩ := Program.result_of_path_finished walked
    simp
  | succ rounds inductionHypothesis =>
    rw [receiveLoop] at walked
    split at walked
    · obtain ⟨answer, rest, rfl, delivered⟩ := Program.path_call_finished walked
      cases answer with
      | none =>
        obtain ⟨rfl, rfl⟩ := Program.result_of_path_finished delivered
        rfl
      | some chunk =>
        have continued : Program.Path
            (if chunk.val = [] then .finished (some buffer)
            else if strstr (cString (buffer ++ chunk.val)) cmdDelimiter then
              .finished (some (buffer ++ chunk.val))
            else receiveLoop rounds (buffer ++ chunk.val)) rest (.finished total) := delivered
        split at continued
        · rename_i empty
          obtain ⟨rfl, rfl⟩ := Program.result_of_path_finished continued
          simp [ClientExchange.failed, ClientExchange.received, empty]
        · split at continued
          · obtain ⟨rfl, rfl⟩ := Program.result_of_path_finished continued
            simp [ClientExchange.failed, ClientExchange.received]
          · rw [inductionHypothesis continued]
            simp [ClientExchange.failed, ClientExchange.received]
    · obtain ⟨rfl, rfl⟩ := Program.result_of_path_finished walked
      simp

/-- `receive_response` returns the reply, or fails without one. -/
theorem path_receiveResponse {path : List ClientExchange} {response : Bool × Bytes}
    (walked : Program.Path receiveResponse path (.finished response)) :
    replyOf path = if response.1 then some response.2 else none := by
  obtain ⟨ready, rest, rfl, selected⟩ := Program.path_call_finished walked
  cases ready with
  | false =>
    obtain ⟨rfl, rfl⟩ := Program.result_of_path_finished selected
    rfl
  | true =>
    have looped : Program.Path (receiveLoop (bufferSize - 1) [] >>= fun total =>
        .finished (receiveResult total)) rest (.finished response) := selected
    obtain ⟨total, first, second, rfl, loop, ending⟩ := looped.of_bind
    obtain ⟨rfl, rfl⟩ := Program.result_of_path_finished ending
    have reply : replyOf (⟨.selectRead, true⟩ :: (first ++ [])) = replyOf first := by
      simp [replyOf, ClientExchange.failed, ClientExchange.received]
    rw [reply, path_receiveLoop loop, replyOf]
    cases first.any ClientExchange.failed with
    | true => rfl
    | false =>
      rw [if_neg Bool.false_ne_true, if_neg Bool.false_ne_true, List.nil_append, receiveResult]
      split <;> rfl

/-- However the network behaves, a login that ends has read the reply, or had none and left the
session as it was. -/
theorem path_handleLogin {id pw : Bytes} {session : Session} {path : List ClientExchange}
    {result : LoginResult}
    (walked : Program.Path (Client.handleLogin id pw session) path (.finished result)) :
    match replyOf path with
    | none => result.returned = false ∧ result.session = session
    | some response => result = readLogin id session response := by
  obtain ⟨sent, first, second, rfl, sending, receiving⟩ := Program.Path.of_bind walked
  obtain ⟨failed, silent⟩ := path_sendLoop sending
  cases sent with
  | false =>
    have failed' : (first ++ second).any ClientExchange.failed = true := by
      rw [List.any_append, failed]
      rfl
    rw [replyOf, if_pos failed']
    obtain ⟨rfl, rfl⟩ := Program.result_of_path_finished receiving
    exact ⟨rfl, rfl⟩
  | true =>
    have reply : replyOf (first ++ second) = replyOf second := by
      simp [replyOf, failed, silent]
    obtain ⟨response, third, last, rfl, received, ending⟩ := Program.Path.of_bind receiving
    have answered := path_receiveResponse received
    have ended : last = [] ∧ result = if response.1 then readLogin id session response.2
        else ⟨false, session, responseFailed⟩ := by
      split at ending
      · rename_i unanswered
        obtain ⟨rfl, rfl⟩ := Program.result_of_path_finished ending
        have no : response.1 = false := by simpa using unanswered
        exact ⟨rfl, by rw [no]; rfl⟩
      · rename_i given
        obtain ⟨rfl, rfl⟩ := Program.result_of_path_finished ending
        have yes : response.1 = true := by simpa using given
        exact ⟨rfl, by rw [yes]; rfl⟩
    obtain ⟨rfl, rfl⟩ := ended
    rw [reply, List.append_nil, answered]
    cases response.1 with
    | false => exact ⟨rfl, rfl⟩
    | true => rfl

/-! ### The steps of the client -/

/-- A call of `handle_login` that ended: what it was called with, the session variables it
found, its calls with their answers, and its result. -/
structure LoginAttempt where
  id : Bytes
  pw : Bytes
  before : Session
  path : List ClientExchange
  result : LoginResult

inductive SessionEvent where
  | login (attempt : LoginAttempt)
  | logout

/-- The steps of the client. Nothing is assumed of the network and of the replies. -/
inductive SessionStep : Session → SessionEvent → Session → Prop where
  | login (attempt : LoginAttempt)
      (walked : Program.Path (Client.handleLogin attempt.id attempt.pw attempt.before)
        attempt.path (.finished attempt.result)) :
      SessionStep attempt.before (.login attempt) attempt.result.session
  | logout (session : Session) : SessionStep session .logout handleLogout

namespace LoginAttempt

/-- A login that returns false changes no session variable. -/
def KeepsOnFailure (attempt : LoginAttempt) : Prop :=
  attempt.result.returned = false → attempt.result.session = attempt.before

/-- The reply of this login wrote all four session variables. -/
def Wrote (attempt : LoginAttempt) (session : Session) : Prop :=
  ∃ response, replyOf attempt.path = some response ∧
    ∃ status message eduOffice schoolName role more,
      fields cmdDelimiter response = status :: message :: eduOffice :: schoolName :: role :: more ∧
        session = loginSession attempt.id eduOffice schoolName role

/-- A reply that reports success has the five tokens of a login reply, unless the identifier it
is for is the current one. -/
def Safe (attempt : LoginAttempt) : Prop :=
  ∀ response, replyOf attempt.path = some response → tellsSuccess response = true →
    5 ≤ (fields cmdDelimiter response).length ∨
      attempt.before.currentUserId = strncpy attempt.id (maxIdLen - 1) []

/-- A login changes nothing, or writes all variables from its reply, or it is a success with too
few tokens and writes the identifier alone. -/
theorem cases_of_walked {attempt : LoginAttempt}
    (walked : Program.Path (Client.handleLogin attempt.id attempt.pw attempt.before)
      attempt.path (.finished attempt.result)) :
    attempt.result.session = attempt.before ∧
        (∀ response, replyOf attempt.path = some response → tellsSuccess response = false) ∨
      attempt.result.returned = true ∧ attempt.Wrote attempt.result.session ∧ attempt.Safe ∨
      attempt.result.returned = false ∧
        (∃ response, replyOf attempt.path = some response ∧ tellsSuccess response = true ∧
          (fields cmdDelimiter response).length < 5) ∧
        attempt.result.session = { attempt.before with
          currentUserId := strncpy attempt.id (maxIdLen - 1) [] } := by
  have ended := path_handleLogin walked
  cases replied : replyOf attempt.path with
  | none =>
    rw [replied] at ended
    exact Or.inl ⟨ended.2, fun response impossible => nomatch impossible⟩
  | some response =>
    rw [replied] at ended
    dsimp only at ended
    cases success : tellsSuccess response with
    | false =>
      rw [readLogin_of_refused attempt.id attempt.before success] at ended
      refine Or.inl ⟨by rw [ended], fun other same => ?_⟩
      rw [← Option.some.inj same]
      exact success
    | true =>
      by_cases short : (fields cmdDelimiter response).length < 5
      · rw [readLogin_of_short attempt.id attempt.before success short] at ended
        exact Or.inr (Or.inr ⟨by rw [ended], ⟨response, rfl, success, short⟩, by rw [ended]⟩)
      · obtain ⟨status, message, eduOffice, schoolName, role, more, read⟩ :=
          exists_five (Nat.not_lt.mp short)
        have isSuccess : atoi status = respSuccess := by
          rw [tellsSuccess, read] at success
          exact of_decide_eq_true success
        rw [readLogin_of_fields attempt.id attempt.before read isSuccess] at ended
        refine Or.inr (Or.inl ⟨by rw [ended], ⟨response, replied, status, message, eduOffice,
          schoolName, role, more, read, by rw [ended]⟩, fun other same _ => Or.inl ?_⟩)
        rw [replied] at same
        rw [← Option.some.inj same]
        exact Nat.not_lt.mp short

theorem keepsOnFailure_iff {attempt : LoginAttempt}
    (walked : Program.Path (Client.handleLogin attempt.id attempt.pw attempt.before)
      attempt.path (.finished attempt.result)) :
    attempt.KeepsOnFailure ↔ attempt.Safe := by
  rcases cases_of_walked walked with ⟨same, refused⟩ | ⟨returned, _, safe⟩ |
    ⟨returned, ⟨response, replied, success, short⟩, written⟩
  · refine iff_of_true (fun _ => same) fun response replied success => ?_
    exact absurd (success.symm.trans (refused response replied)) (by decide)
  · refine iff_of_true (fun failed => ?_) safe
    exact absurd (returned.symm.trans failed) (by decide)
  · constructor
    · intro keeps response' replied' _
      refine Or.inr ?_
      rw [← keeps returned, written]
    · intro safe _
      rcases safe response replied success with enough | same
      · exact absurd short (Nat.not_lt.mpr enough)
      · rw [written, ← same]

end LoginAttempt

/-! ### Every state the client reaches -/

/-- A non-empty identifier stands beside three other variables of the same login reply. -/
def Coherent (events : List SessionEvent) (session : Session) : Prop :=
  session.loggedIn = true →
    (session.currentUserEduOffice ≠ [] ∧ session.currentUserSchool ≠ [] ∧
        session.currentUserRole ≠ []) ∧
      ∃ attempt, .login attempt ∈ events ∧ attempt.Wrote session

theorem Coherent.append {events : List SessionEvent} {session : Session}
    (coherent : Coherent events session) (event : SessionEvent) :
    Coherent (events ++ [event]) session := by
  intro loggedIn
  obtain ⟨filled, attempt, member, wrote⟩ := coherent loggedIn
  exact ⟨filled, attempt, List.mem_append_left _ member, wrote⟩

/-- The variables that one reply wrote are coherent. -/
theorem coherent_of_wrote {events : List SessionEvent} {attempt : LoginAttempt} {session : Session}
    (member : .login attempt ∈ events) (wrote : attempt.Wrote session) :
    Coherent events session := by
  obtain ⟨response, replied, status, message, eduOffice, schoolName, role, more, read, rfl⟩ := wrote
  have filled : ∀ field ∈ [eduOffice, schoolName, role], ∀ count,
      strncpy field (count + 1) [] ≠ [] := by
    intro field fieldMember count empty
    have token : IsToken cmdDelimiter field := by
      have written : field ∈ fields cmdDelimiter response := by
        rw [read]
        simp only [List.mem_cons, List.not_mem_nil, or_false] at fieldMember
        rcases fieldMember with rfl | rfl | rfl <;> simp
      exact isToken_of_mem_fields cmdDelimiter written
    rw [strncpy_zeroed] at empty
    cases field with
    | nil => exact token.1 rfl
    | cons byte field => cases empty
  exact fun _ => ⟨⟨filled _ (by simp) 48, filled _ (by simp) 48, filled _ (by simp) 18⟩,
    attempt, member, response, replied, status, message, eduOffice, schoolName, role, more, read,
    rfl⟩

/-- A safe step keeps the session coherent. -/
theorem coherent_step {events : List SessionEvent} {before after : Session} {event : SessionEvent}
    (step : SessionStep before event after) (coherent : Coherent events before)
    (safe : ∀ attempt, event = .login attempt → attempt.Safe) :
    Coherent (events ++ [event]) after := by
  cases step with
  | logout => exact fun loggedIn => absurd loggedIn (by decide)
  | login attempt walked =>
    rcases LoginAttempt.cases_of_walked walked with ⟨same, _⟩ | ⟨_, wrote, _⟩ | ⟨returned, _, _⟩
    · rw [same]
      exact coherent.append _
    · exact coherent_of_wrote (List.mem_append_right _ (List.mem_singleton.mpr rfl)) wrote
    · have keeps := (LoginAttempt.keepsOnFailure_iff walked).mpr (safe attempt rfl)
      rw [keeps returned]
      exact coherent.append _

/-- In every run of the client, every failed login leaves the session as it was and every state
reached is coherent, if and only if every login of the run meets a safe reply. -/
theorem session_coherent_iff {events : List SessionEvent} {last : Session}
    (runs : Runs SessionStep Session.empty events last) :
    ((∀ attempt, .login attempt ∈ events → attempt.KeepsOnFailure) ∧
        ∀ first middle, first <+: events → Runs SessionStep Session.empty first middle →
          Coherent first middle) ↔
      ∀ attempt, .login attempt ∈ events → attempt.Safe := by
  have step : ∀ attempt, .login attempt ∈ events → (attempt.KeepsOnFailure ↔ attempt.Safe) := by
    intro attempt member
    obtain ⟨first, second, rfl⟩ := List.append_of_mem member
    obtain ⟨before, after, _, next⟩ := runs.split
    cases next with
    | login _ walked => exact LoginAttempt.keepsOnFailure_iff walked
  constructor
  · exact fun sound attempt member => (step attempt member).mp (sound.1 attempt member)
  · intro safe
    refine ⟨fun attempt member => (step attempt member).mpr (safe attempt member), ?_⟩
    intro first middle within reached
    refine reached.invariant Coherent (fun loggedIn => absurd loggedIn (by decide)) ?_
    intro before state event after _ member next coherent
    refine coherent_step next coherent fun attempt isLogin => safe attempt ?_
    rw [← isLogin]
    exact within.subset member

/-- The login of a user to a server that gives this reply. -/
def sampleAttempt (reply : Reply) : LoginAttempt where
  id := utf8 "user1"
  pw := utf8 "1234"
  before := Session.empty
  path := Program.exchanges (Wire.answer (answeredBy reply))
    (Client.handleLogin (utf8 "user1") (utf8 "1234") Session.empty) ⟨[], ()⟩
  result := readLogin (utf8 "user1") Session.empty reply.text

theorem runs_sampleAttempt {reply : Reply} (wellFormed : reply.WellFormed) :
    Runs SessionStep Session.empty [.login (sampleAttempt reply)]
      (sampleAttempt reply).result.session := by
  have received := receives_chunk (answeredBy reply) [] () wellFormed.text_eq.2.1
    wellFormed.text_eq.2.2 wellFormed.complete
  exact Runs.nil.snoc (.login (sampleAttempt reply) (Program.path_of_run _
    (run_handleLogin (answeredBy reply) (utf8 "user1") (utf8 "1234") Session.empty ⟨[], ()⟩
      received)))

/-- The login of a user with a school. -/
theorem session_coherent_sample :
    ((∀ attempt, .login attempt ∈ [SessionEvent.login (sampleAttempt sampleReply)] →
          attempt.KeepsOnFailure) ∧
        ∀ first middle, first <+: [SessionEvent.login (sampleAttempt sampleReply)] →
          Runs SessionStep Session.empty first middle → Coherent first middle) ↔
      ∀ attempt, .login attempt ∈ [SessionEvent.login (sampleAttempt sampleReply)] →
        attempt.Safe :=
  session_coherent_iff (runs_sampleAttempt ⟨by decide, by decide, by decide⟩)

/-- A success without data: the login fails and the user menu is shown. -/
theorem login_half_written :
    ∃ events last, Runs SessionStep Session.empty events last ∧
      (∃ attempt, .login attempt ∈ events ∧ attempt.result.returned = false ∧
        attempt.result.session ≠ attempt.before) ∧
      last.loggedIn = true ∧ last.currentUserRole = [] :=
  ⟨[.login (sampleAttempt ⟨respSuccess, respLoginOk, []⟩)], _,
    runs_sampleAttempt ⟨by decide, by decide, by decide⟩,
    ⟨sampleAttempt ⟨respSuccess, respLoginOk, []⟩, List.mem_singleton.mpr rfl, by decide,
      by decide⟩,
    by decide, by decide⟩

end SchoolMeals
