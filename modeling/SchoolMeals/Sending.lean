/-
This file is about `send_data` of the client for any part of its data. A round
offers what is left and goes on behind what was accepted of it, so the accepted
slices are always the front of what there is to send. Every round that does not
end the loop sends a byte, so no behaviour of the socket keeps it going for more
rounds than there are bytes.
-/

import SchoolMeals.LoginState

namespace SchoolMeals

open CText Interaction

/-! ### The loop -/

/-- The loop of `send_data`, with the bytes sent so far. -/
def sendFrom (data : Bytes) (len totalSent : Nat) : Client Bool :=
  if _inside : totalSent < len then do
    if !(← selectWrite) then return false
    else
      match ← Program.ask (ClientCall.send ((data.drop totalSent).take (len - totalSent))) with
      | none => return false
      | some bytesSent => sendFrom data len (totalSent + bytesSent.val)
  else return true
termination_by len - totalSent
decreasing_by exact Nat.sub_lt_sub_left _inside (Nat.lt_add_of_pos_right bytesSent.property.1)

/-- `send_data` for the first `len` bytes. -/
def sendDataLen (data : Bytes) (len : Nat) : Client Bool := sendFrom data len 0

/-- What the other side accepted in a call. -/
def ClientExchange.accepted : ClientExchange → Bytes
  | ⟨.send data, some bytesSent⟩ => data.take bytesSent.val
  | ⟨.send _, none⟩ => []
  | ⟨.selectWrite, _⟩ => []
  | ⟨.selectRead, _⟩ => []
  | ⟨.recv _, _⟩ => []

/-! ### Rounds -/

section Rounds

variable {data : Bytes} {len totalSent : Nat}

theorem sendFrom_done (done : len ≤ totalSent) : sendFrom data len totalSent = .finished true := by
  rw [sendFrom, dif_neg (Nat.not_lt.mpr done)]
  rfl

/-- The bytes that a round offers. -/
def offered (data : Bytes) (len totalSent : Nat) : Bytes :=
  (data.drop totalSent).take (len - totalSent)

theorem sendFrom_round (inside : totalSent < len) {left : Bytes}
    (isLeft : offered data len totalSent = left) :
    sendFrom data len totalSent =
      .call .selectWrite fun ready : Bool =>
        if !ready then .finished false
        else .call (.send left) fun answer =>
          match answer with
          | none => .finished false
          | some bytesSent => sendFrom data len (totalSent + bytesSent.val) := by
  subst isLeft
  rw [sendFrom, dif_pos inside]
  refine congrArg (Program.call ClientCall.selectWrite) (funext fun ready => ?_)
  cases ready with
  | false => rfl
  | true =>
    refine congrArg (Program.call (ClientCall.send _)) (funext fun answer => ?_)
    cases answer <;> rfl

/-- A round is still going on, or it ends the loop without sending, or it sends and the loop goes
on behind what was sent. -/
theorem path_sendFrom (inside : totalSent < len) {path : List ClientExchange}
    {last : Client Bool} (walked : Program.Path (sendFrom data len totalSent) path last) :
    (path.length ≤ 1 ∧ path.flatMap ClientExchange.accepted = [] ∧
        ∃ request next, last = .call request next) ∨
      (path.length ≤ 2 ∧ path.flatMap ClientExchange.accepted = [] ∧ last = .finished false) ∨
      ∃ (bytesSent : { count : Nat // 0 < count ∧ count ≤ (offered data len totalSent).length })
        (rest : List ClientExchange),
        path =
          ⟨.selectWrite, true⟩ :: ⟨.send (offered data len totalSent), some bytesSent⟩ :: rest ∧
          Program.Path (sendFrom data len (totalSent + bytesSent.val)) rest last := by
  rw [sendFrom_round inside rfl] at walked
  cases walked with
  | nil => exact Or.inl ⟨Nat.zero_le _, rfl, _, _, rfl⟩
  | cons _ _ ready rest _ walked =>
    cases ready with
    | false =>
      cases walked
      exact Or.inr (Or.inl ⟨Nat.le_succ 1, rfl, rfl⟩)
    | true =>
      cases walked with
      | nil => exact Or.inl ⟨Nat.le_refl _, rfl, _, _, rfl⟩
      | cons _ _ answer rest _ walked =>
        cases answer with
        | none =>
          cases walked
          exact Or.inr (Or.inl ⟨Nat.le_refl 2, rfl, rfl⟩)
        | some bytesSent => exact Or.inr (Or.inr ⟨bytesSent, rest, rfl, walked⟩)

end Rounds

/-! ### Whole runs -/

/-- What is still to be sent. -/
def unsent (data : Bytes) (len totalSent : Nat) : Bytes := (data.take len).drop totalSent

theorem offered_eq (data : Bytes) (len totalSent : Nat) :
    offered data len totalSent = unsent data len totalSent := List.drop_take.symm

theorem unsent_eq (data : Bytes) (len totalSent count : Nat) :
    unsent data len totalSent =
      (offered data len totalSent).take count ++ unsent data len (totalSent + count) := by
  rw [offered_eq, unsent, unsent, ← List.drop_drop, List.take_append_drop]

/-- The calls of a run that has this left to send: there are two at most for each byte, what was
accepted is the front of it, and the result says whether it is all. -/
structure Sends (data : Bytes) (len totalSent : Nat) (path : List ClientExchange)
    (last : Client Bool) : Prop where
  bounded : path.length ≤ 2 * (len - totalSent)
  defined : last ≠ .undefined
  front : path.flatMap ClientExchange.accepted <+: unsent data len totalSent
  whole : last = .finished true →
    path.flatMap ClientExchange.accepted = unsent data len totalSent
  part : last = .finished false →
    path.flatMap ClientExchange.accepted ≠ unsent data len totalSent

section Runs

variable {data : Bytes} {len : Nat}

theorem Sends.of_nothing {totalSent : Nat} {path : List ClientExchange} {last : Client Bool}
    (short : path.length ≤ 2) (inside : totalSent < len) (within : len ≤ data.length)
    (nothing : path.flatMap ClientExchange.accepted = []) (defined : last ≠ .undefined)
    (unfinished : last ≠ .finished true) : Sends data len totalSent path last where
  bounded := by omega
  defined := defined
  front := nothing ▸ List.nil_prefix
  whole finished := absurd finished unfinished
  part _ := by
    rw [nothing]
    intro nothingLeft
    have left := congrArg List.length nothingLeft
    rw [unsent, List.length_drop, List.length_take, List.length_nil] at left
    omega

/-- A round that sends goes in front of the rounds behind it. -/
theorem Sends.cons {totalSent : Nat} (inside : totalSent < len)
    (bytesSent : { count : Nat // 0 < count ∧ count ≤ (offered data len totalSent).length })
    {rest : List ClientExchange} {last : Client Bool}
    (sends : Sends data len (totalSent + bytesSent.val) rest last) :
    Sends data len totalSent
      (⟨.selectWrite, true⟩ :: ⟨.send (offered data len totalSent), some bytesSent⟩ :: rest)
      last := by
  have left := unsent_eq data len totalSent bytesSent.val
  have progress := bytesSent.property.1
  have accepted : List.flatMap ClientExchange.accepted
      (⟨.selectWrite, true⟩ :: ⟨.send (offered data len totalSent), some bytesSent⟩ :: rest) =
        (offered data len totalSent).take bytesSent.val ++
          rest.flatMap ClientExchange.accepted := rfl
  refine ⟨?_, sends.defined, ?_, fun finished => ?_, fun finished => ?_⟩
  · have bound := sends.bounded
    rw [List.length_cons, List.length_cons]
    omega
  · rw [accepted, left]
    exact (List.prefix_append_right_inj _).mpr sends.front
  · rw [accepted, left, sends.whole finished]
  · rw [accepted, left]
    exact fun same => sends.part finished (List.append_cancel_left same)

theorem sends_of_path (within : len ≤ data.length) {totalSent : Nat} {path : List ClientExchange}
    {last : Client Bool} (walked : Program.Path (sendFrom data len totalSent) path last) :
    Sends data len totalSent path last := by
  induction left : len - totalSent using Nat.strongRecOn generalizing totalSent path with
  | ind left inductionHypothesis =>
    rcases Nat.lt_or_ge totalSent len with inside | done
    · rcases path_sendFrom inside walked with ⟨short, nothing, request, next, rfl⟩ |
        ⟨short, nothing, rfl⟩ | ⟨bytesSent, rest, rfl, later⟩
      · exact .of_nothing (by omega) inside within nothing nofun nofun
      · exact .of_nothing short inside within nothing nofun nofun
      · have progress := bytesSent.property.1
        exact .cons inside bytesSent (inductionHypothesis _ (by omega) later rfl)
    · rw [sendFrom_done done] at walked
      cases walked
      have nothingLeft : unsent data len totalSent = [] := by
        rw [unsent, List.drop_eq_nil_iff, List.length_take]
        omega
      exact ⟨Nat.zero_le _, nofun, List.nil_prefix, fun _ => nothingLeft.symm, nofun⟩

end Runs

/-- Sending a whole text is sending its first bytes, as many as it has. -/
theorem sendLoop_eq (data : Bytes) {rounds totalSent : Nat}
    (enough : data.length - totalSent ≤ rounds) :
    sendLoop rounds (data.drop totalSent) = sendFrom data data.length totalSent := by
  induction rounds generalizing totalSent with
  | zero =>
    rw [sendFrom_done (Nat.sub_eq_zero_iff_le.mp (Nat.le_zero.mp enough))]
    rfl
  | succ rounds inductionHypothesis =>
    rcases Nat.lt_or_ge totalSent data.length with inside | done
    · have all : offered data data.length totalSent = data.drop totalSent :=
        List.take_of_length_le (List.length_drop).le
      rw [sendLoop, if_neg (fun empty => Nat.not_le.mpr inside (List.drop_eq_nil_iff.mp empty)),
        sendFrom_round inside all]
      refine congrArg (Program.call ClientCall.selectWrite) (funext fun ready => ?_)
      cases ready with
      | false => rfl
      | true =>
        refine congrArg (Program.call (ClientCall.send _)) (funext fun answer => ?_)
        cases answer with
        | none => rfl
        | some bytesSent =>
          have progress := bytesSent.property.1
          show sendLoop rounds ((data.drop totalSent).drop bytesSent.val) = _
          rw [List.drop_drop]
          exact inductionHypothesis (by omega)
    · rw [sendFrom_done done, List.drop_of_length_le done]
      rfl

theorem sendData_eq (data : Bytes) : sendData data = sendDataLen data data.length :=
  @sendLoop_eq data data.length 0 (Nat.sub_le _ _)

/-- Whatever `select` and `send` answer, the loop ends with a result; when it is true, the accepted
slices are the first `len` bytes, and when it is false, they are a part of them from the front that
is not all. -/
structure SendsExactly (data : Bytes) (len : Nat) : Prop where
  returns : ∀ {State : Type} (handler : (request : ClientCall) → State → request.Answer × State)
    (state : State), (Program.run handler (sendDataLen data len) state).1.isSome = true
  bounded : ∀ path last, Program.Path (sendDataLen data len) path last → path.length ≤ 2 * len
  whole : ∀ path, Program.Path (sendDataLen data len) path (.finished true) →
    path.flatMap ClientExchange.accepted = data.take len
  part : ∀ path, Program.Path (sendDataLen data len) path (.finished false) →
    path.flatMap ClientExchange.accepted <+: data.take len ∧
      path.flatMap ClientExchange.accepted ≠ data.take len

theorem sendsExactly (data : Bytes) {len : Nat} (within : len ≤ data.length) :
    SendsExactly data len where
  returns handler state :=
    Program.isSome_run handler (fun _ _ walked => (sends_of_path within walked).defined) state
  bounded _ _ walked := (sends_of_path within walked).bounded
  whole _ walked := (sends_of_path within walked).whole rfl
  part _ walked :=
    ⟨(sends_of_path within walked).front, (sends_of_path within walked).part rfl⟩

/-- The command of a login without its operands. -/
theorem sendsExactly_login : SendsExactly (utf8 "LOGIN//user1//1234") 5 :=
  sendsExactly _ (by decide)

end SchoolMeals
