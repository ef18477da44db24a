/-
This file models `network.c` of the client: the sending loop, and the receiving
loop that takes a reply for complete as soon as the text so far contains the
field delimiter. What `select`, `send` and `recv` do is not part of the program.
A wire answers them when nothing is lost: what is sent is taken whole, and the
reply comes back in chunks, one chunk a `recv`.

Every reply contains the delimiter right behind its status, so the loop stops at
the first chunk that reaches behind it. A reply is received whole exactly when
that chunk is its last one.
-/

import SchoolMeals.Library.Interaction
import SchoolMeals.Protocol

namespace SchoolMeals

open CText Interaction

/-! ### The calls of the client -/

/-- What `network.c` calls. The buffer that `recv` may fill is given by its length. -/
inductive ClientCall where
  | selectWrite
  | send (data : Bytes)
  | selectRead
  | recv (room : Nat)

/-- The answers. `select` answers whether the socket became ready in time; `none` is
`SOCKET_ERROR`; an empty chunk is a connection the other side has closed. -/
def ClientCall.Answer : ClientCall → Type
  | .selectWrite => Bool
  | .send data => Option { count : Nat // 0 < count ∧ count ≤ data.length }
  | .selectRead => Bool
  | .recv room => Option { chunk : Bytes // chunk.length ≤ room }

/-- A part of the client program. -/
abbrev Client := Program ClientCall ClientCall.Answer

def selectWrite : Client Bool := Program.ask ClientCall.selectWrite
def selectRead : Client Bool := Program.ask ClientCall.selectRead

/-! ### `network.c` -/

/-- The loop of `send_data`. Each round sends at least one byte, so the length of the data
bounds the rounds. -/
def sendLoop : Nat → Bytes → Client Bool
  | 0, _ => return true
  | rounds + 1, data => do
    if data = [] then return true
    else if !(← selectWrite) then return false
    else
      match ← Program.ask (ClientCall.send data) with
      | none => return false
      | some sent => sendLoop rounds (data.drop sent.val)

def sendData (data : Bytes) : Client Bool := sendLoop data.length data

/-- The loop of `receive_response` over the bytes received so far, `none` after an error. Each
round receives at least one byte, so the size of the buffer bounds the rounds. -/
def receiveLoop : Nat → Bytes → Client (Option Bytes)
  | 0, buffer => return some buffer
  | rounds + 1, buffer => do
    if buffer.length < bufferSize - 1 then
      match ← Program.ask (ClientCall.recv (bufferSize - buffer.length - 1)) with
      | none => return none
      | some chunk =>
        if chunk.val = [] then return some buffer
        else if strstr (cString (buffer ++ chunk.val)) cmdDelimiter then
          return some (buffer ++ chunk.val)
        else receiveLoop rounds (buffer ++ chunk.val)
    else return some buffer

def responseTimedOut : Bytes := utf8 "서버 응답 시간 초과"
def communicationError : Bytes := utf8 "서버 통신 오류"
def noResponse : Bytes := utf8 "서버로부터 응답 없음"

/-- The end of `receive_response`: what it returns and leaves in the caller's buffer. -/
def receiveResult : Option Bytes → Bool × Bytes
  | none => (false, communicationError)
  | some buffer => if buffer = [] then (false, noResponse) else (true, cString buffer)

/-- `receive_response` with the text it leaves in the caller's buffer. -/
def receiveResponse : Client (Bool × Bytes) := do
  if !(← selectRead) then return (false, responseTimedOut)
  else return receiveResult (← receiveLoop (bufferSize - 1) [])

/-! ### A wire that loses nothing -/

/-- The chunks on their way to the client, and what is at the other end. -/
structure Wire (Remote : Type) where
  incoming : List Bytes
  remote : Remote

section Wire

variable {Remote : Type} (react : Bytes → Remote → List Bytes × Remote)

/-- What the other end makes of data that reaches it: it answers with further chunks. -/
def Wire.deliver (wire : Wire Remote) (data : Bytes) : Wire Remote :=
  ⟨wire.incoming ++ (react data wire.remote).1, (react data wire.remote).2⟩

/-- `select` reports a socket that has something to read; `recv` delivers one chunk, as far as
there is room for it. -/
def Wire.answer : (request : ClientCall) → Wire Remote → request.Answer × Wire Remote
  | .selectWrite, wire => (true, wire)
  | .send data, wire =>
    if nonempty : 0 < data.length then
      (some ⟨data.length, nonempty, Nat.le_refl _⟩, wire.deliver react data)
    else (none, wire)
  | .selectRead, wire => (!wire.incoming.isEmpty, wire)
  | .recv room, wire =>
    match wire.incoming with
    | [] => (some ⟨[], Nat.zero_le room⟩, wire)
    | chunk :: later =>
      (some ⟨chunk.take room, List.length_take_le room chunk⟩,
        ⟨if chunk.length ≤ room then later else chunk.drop room :: later, wire.remote⟩)

end Wire

/-! ### Sending and receiving over a wire -/

section Wire

variable {Remote : Type} (react : Bytes → Remote → List Bytes × Remote)

theorem run_sendData {data : Bytes} (nonempty : data ≠ []) (wire : Wire Remote) :
    Program.run (Wire.answer react) (sendData data) wire =
      (some true, wire.deliver react data) := by
  cases data with
  | nil => exact absurd rfl nonempty
  | cons byte data =>
    have sentAll : sendLoop data.length ((byte :: data).drop (byte :: data).length) =
        .finished true := by
      rw [List.drop_length]
      cases data.length <;> rfl
    show Program.run (Wire.answer react)
      (sendLoop data.length ((byte :: data).drop (byte :: data).length)) _ = _
    rw [sentAll]
    rfl

/-- There is room for the next chunk. -/
theorem answer_recv {room : Nat} {chunk : Bytes} (later : List Bytes) (remote : Remote)
    (whole : chunk.length ≤ room) :
    Wire.answer react (.recv room) ⟨chunk :: later, remote⟩ =
      (some ⟨chunk, whole⟩, ⟨later, remote⟩) :=
  Prod.ext (congrArg some (Subtype.ext (List.take_of_length_le whole)))
    (congrArg (Wire.mk · remote) (if_pos whole))

/-- A round of the receiving loop takes the next chunk, and ends the loop if the text then
contains the delimiter. -/
theorem run_receiveLoop_cons (rounds : Nat) {buffer chunk : Bytes} (later : List Bytes)
    (remote : Remote) (nonempty : chunk ≠ [])
    (fits : (buffer ++ chunk).length ≤ bufferSize - 1) :
    Program.run (Wire.answer react) (receiveLoop (rounds + 1) buffer) ⟨chunk :: later, remote⟩ =
      if strstr (cString (buffer ++ chunk)) cmdDelimiter then
        (some (some (buffer ++ chunk)), ⟨later, remote⟩)
      else Program.run (Wire.answer react) (receiveLoop rounds (buffer ++ chunk))
        ⟨later, remote⟩ := by
  have progress := List.length_pos_iff.mpr nonempty
  rw [List.length_append] at fits
  have room : buffer.length < bufferSize - 1 := by omega
  have whole : chunk.length ≤ bufferSize - buffer.length - 1 := by omega
  rw [receiveLoop, if_pos room, Program.ask_bind, Program.run_call,
    answer_recv react later remote whole]
  dsimp only
  rw [if_neg nonempty]
  split <;> rfl

end Wire

/-! ### Where a reply is taken for complete -/

theorem utf8_ofList (characters : List Char) :
    utf8 (String.ofList characters) = characters.flatMap String.utf8EncodeChar := by
  simp [utf8, List.utf8Encode]

theorem utf8EncodeChar_of_digit {character : Char} (digit : character.isDigit = true) :
    ∃ byte, String.utf8EncodeChar character = [byte] ∧ isDigit byte = true ∧
      byte.toNat = character.toNat := by
  simp only [Char.isDigit, Bool.and_eq_true, decide_eq_true_eq, ge_iff_le,
    UInt32.le_iff_toNat_le] at digit
  have lower : 48 ≤ character.toNat := digit.1
  have upper : character.toNat ≤ 57 := digit.2
  have value : (UInt8.ofNat character.toNat).toNat = character.toNat := by
    rw [UInt8.toNat_ofNat']
    omega
  refine ⟨UInt8.ofNat character.toNat, if_pos (Nat.le_trans upper (by decide)), ?_, value⟩
  simp only [isDigit, Bool.and_eq_true, decide_eq_true_eq, UInt8.le_iff_toNat_le, value]
  exact ⟨lower, upper⟩

/-- The text of a status. -/
def statusText (status : Nat) : Bytes := utf8 (toString status)

theorem isDigit_statusText (status : Nat) : ∀ byte ∈ statusText status, isDigit byte = true := by
  intro byte member
  rw [statusText, show toString status = String.ofList (Nat.toDigits 10 status) from rfl,
    utf8_ofList, List.mem_flatMap] at member
  obtain ⟨character, digits, member⟩ := member
  obtain ⟨only, encoded, digit, _⟩ := utf8EncodeChar_of_digit
    (Nat.isDigit_of_mem_toDigits (by decide) (by decide) digits)
  rw [encoded] at member
  rw [List.mem_singleton.mp member]
  exact digit

theorem notMem_statusText (status : Nat) (special : UInt8) (excluded : isDigit special = false) :
    special ∉ statusText status :=
  fun member => Bool.false_ne_true (excluded.symm.trans (isDigit_statusText status special member))

/-- A prefix of a text contains the delimiter once it reaches behind the first one. -/
theorem strstr_front_iff {head rest front : Bytes} (slashFree : 47 ∉ head)
    (isPrefix : front <+: head ++ cmdDelimiter ++ rest) :
    strstr front cmdDelimiter = true ↔ head.length + 2 ≤ front.length := by
  have slashes : cmdDelimiter = [47, 47] := by decide
  rw [strstr, decide_eq_true_eq]
  constructor
  · intro found
    by_contra short
    have within : front <+: head ++ [47] := by
      refine List.prefix_of_prefix_length_le isPrefix ⟨[47] ++ rest, ?_⟩ ?_
      · rw [slashes]
        simp
      · simp only [List.length_append, List.length_singleton]
        omega
    have atMost : front.count 47 ≤ 1 := by
      refine (within.sublist.count_le 47).trans ?_
      rw [List.count_append, List.count_eq_zero_of_not_mem slashFree]
      decide
    have atLeast : cmdDelimiter.count 47 ≤ front.count 47 := found.sublist.count_le 47
    rw [slashes] at atLeast
    exact absurd (atLeast.trans atMost) (by decide)
  · intro reaches
    have whole : head ++ cmdDelimiter <+: front := by
      refine List.prefix_of_prefix_length_le ⟨rest, rfl⟩ isPrefix ?_
      rw [List.length_append, slashes]
      exact reaches
    exact (List.suffix_append head cmdDelimiter).isInfix.trans whole.isInfix

/-! ### Whole replies -/

section Wire

variable {Remote : Type} (react : Bytes → Remote → List Bytes × Remote)

/-- The loop takes all chunks when only the last of them completes a delimiter. -/
theorem run_receiveLoop_whole (chunks : List Bytes) (rounds : Nat) (buffer : Bytes)
    (remote : Remote) (nonempty : ∀ chunk ∈ chunks, chunk ≠ [])
    (zeroFree : 0 ∉ buffer ++ chunks.flatten)
    (fits : (buffer ++ chunks.flatten).length ≤ bufferSize - 1)
    (enough : bufferSize - 1 ≤ buffer.length + rounds)
    (ends : strstr (buffer ++ chunks.flatten) cmdDelimiter = true)
    (unfinished : strstr (buffer ++ chunks.dropLast.flatten) cmdDelimiter = false) :
    Program.run (Wire.answer react) (receiveLoop rounds buffer) ⟨chunks, remote⟩ =
      (some (some (buffer ++ chunks.flatten)), ⟨[], remote⟩) := by
  induction chunks generalizing buffer rounds with
  | nil => exact absurd (ends.symm.trans unfinished) (by decide)
  | cons chunk later inductionHypothesis =>
    have chunkNonempty := nonempty chunk (by simp)
    have progress := List.length_pos_iff.mpr chunkNonempty
    rw [List.flatten_cons, ← List.append_assoc] at zeroFree fits ends ⊢
    have chunkFits : (buffer ++ chunk).length ≤ bufferSize - 1 := by
      rw [List.length_append] at fits
      omega
    obtain ⟨left, rfl⟩ : ∃ left, rounds = left + 1 := by
      refine ⟨rounds - 1, ?_⟩
      rw [List.length_append] at chunkFits
      omega
    have chunkFree : 0 ∉ buffer ++ chunk := fun member =>
      zeroFree (List.mem_append_left _ member)
    rw [run_receiveLoop_cons react left later remote chunkNonempty chunkFits,
      cString_of_zeroFree _ chunkFree]
    cases later with
    | nil =>
      rw [List.flatten_nil, List.append_nil] at ends ⊢
      rw [if_pos ends]
    | cons next later =>
      rw [List.dropLast_cons_cons, List.flatten_cons, ← List.append_assoc] at unfinished
      have stillOpen : strstr (buffer ++ chunk) cmdDelimiter = false := by
        rw [Bool.eq_false_iff] at unfinished ⊢
        exact fun found => unfinished (strstr_mono (List.prefix_append _ _) found)
      rw [stillOpen, if_neg Bool.false_ne_true]
      refine inductionHypothesis left (buffer ++ chunk)
        (fun other member => nonempty other (by simp [member])) zeroFree fits ?_ ends unfinished
      rw [List.length_append]
      omega

/-- The loop leaves chunks behind when a delimiter is complete before the last of them. -/
theorem run_receiveLoop_early (chunks : List Bytes) (rounds : Nat) (buffer : Bytes)
    (remote : Remote) (nonempty : ∀ chunk ∈ chunks, chunk ≠ [])
    (zeroFree : 0 ∉ buffer ++ chunks.flatten)
    (fits : (buffer ++ chunks.flatten).length ≤ bufferSize - 1)
    (enough : bufferSize - 1 ≤ buffer.length + rounds)
    (unfinished : strstr buffer cmdDelimiter = false)
    (early : strstr (buffer ++ chunks.dropLast.flatten) cmdDelimiter = true) :
    (Program.run (Wire.answer react) (receiveLoop rounds buffer) ⟨chunks, remote⟩).2.incoming ≠
      [] := by
  have notLast : strstr (buffer ++ []) cmdDelimiter = false := by
    rw [List.append_nil]
    exact unfinished
  induction chunks generalizing buffer rounds with
  | nil => exact absurd (early.symm.trans notLast) (by decide)
  | cons chunk later inductionHypothesis =>
    cases later with
    | nil => exact absurd (early.symm.trans notLast) (by decide)
    | cons next later =>
      have chunkNonempty := nonempty chunk (by simp)
      have progress := List.length_pos_iff.mpr chunkNonempty
      rw [List.flatten_cons, ← List.append_assoc] at zeroFree fits
      rw [List.dropLast_cons_cons, List.flatten_cons, ← List.append_assoc] at early
      have chunkFits : (buffer ++ chunk).length ≤ bufferSize - 1 := by
        rw [List.length_append] at fits
        omega
      obtain ⟨left, rfl⟩ : ∃ left, rounds = left + 1 := by
        refine ⟨rounds - 1, ?_⟩
        rw [List.length_append] at chunkFits
        omega
      have chunkFree : 0 ∉ buffer ++ chunk := fun member =>
        zeroFree (List.mem_append_left _ member)
      rw [run_receiveLoop_cons react left _ remote chunkNonempty chunkFits,
        cString_of_zeroFree _ chunkFree]
      cases found : strstr (buffer ++ chunk) cmdDelimiter with
      | true =>
        rw [if_pos rfl]
        exact List.cons_ne_nil _ _
      | false =>
        rw [if_neg Bool.false_ne_true]
        refine inductionHypothesis left (buffer ++ chunk)
          (fun other member => nonempty other (by simp [member])) zeroFree fits ?_ found early ?_
        · rw [List.length_append]
          omega
        · rw [List.append_nil]
          exact found

theorem run_receiveResponse {chunks : List Bytes} (pending : chunks ≠ []) (remote : Remote) :
    Program.run (Wire.answer react) receiveResponse ⟨chunks, remote⟩ =
      ((Program.run (Wire.answer react) (receiveLoop (bufferSize - 1) []) ⟨chunks, remote⟩).1.map
          receiveResult,
        (Program.run (Wire.answer react) (receiveLoop (bufferSize - 1) [])
          ⟨chunks, remote⟩).2) := by
  cases chunks with
  | nil => exact absurd rfl pending
  | cons chunk later => exact Program.run_map _ _ _ _

/-- A text of which only the last chunk completes a delimiter is received whole. -/
theorem receives_of_last {chunks : List Bytes} (remote : Remote)
    (nonempty : ∀ chunk ∈ chunks, chunk ≠ []) (zeroFree : 0 ∉ chunks.flatten)
    (fits : chunks.flatten.length ≤ bufferSize - 1)
    (ends : strstr chunks.flatten cmdDelimiter = true)
    (unfinished : strstr chunks.dropLast.flatten cmdDelimiter = false) :
    Program.run (Wire.answer react) receiveResponse ⟨chunks, remote⟩ =
      (some (true, chunks.flatten), ⟨[], remote⟩) := by
  have filled : chunks.flatten ≠ [] := by
    intro empty
    rw [empty] at ends
    exact absurd ends (by decide)
  have pending : chunks ≠ [] := by
    rintro rfl
    exact filled rfl
  have whole := run_receiveLoop_whole react chunks (bufferSize - 1) [] remote nonempty zeroFree
    fits (by simp) ends unfinished
  rw [run_receiveResponse react pending, whole, List.nil_append, Option.map_some, receiveResult,
    if_neg filled, cString_of_zeroFree _ zeroFree]

/-- A text with a delimiter that arrives as one chunk is received whole, also in front of
further chunks. -/
theorem receives_chunk {text : Bytes} (later : List Bytes) (remote : Remote)
    (zeroFree : 0 ∉ text) (fits : text.length ≤ bufferSize - 1)
    (complete : strstr text cmdDelimiter = true) :
    Program.run (Wire.answer react) receiveResponse ⟨text :: later, remote⟩ =
      (some (true, text), ⟨later, remote⟩) := by
  have filled : text ≠ [] := by
    intro empty
    rw [empty] at complete
    exact absurd complete (by decide)
  have received : Program.run (Wire.answer react) (receiveLoop (bufferSize - 1) [])
      ⟨text :: later, remote⟩ = (some (some text), ⟨later, remote⟩) := by
    have whole : ([] ++ text).length ≤ bufferSize - 1 := fits
    have round := run_receiveLoop_cons react (bufferSize - 2) later remote filled whole
    rw [List.nil_append, cString_of_zeroFree _ zeroFree, if_pos complete] at round
    exact round
  rw [run_receiveResponse react (List.cons_ne_nil _ _), received, Option.map_some, receiveResult,
    if_neg filled, cString_of_zeroFree _ zeroFree]

end Wire

/-- The arguments `send_response` takes: an `int` and two C strings. -/
structure Reply.WellFormed (reply : Reply) : Prop where
  status : reply.status < 2147483648
  message : 0 ∉ reply.message
  data : 0 ∉ reply.data

theorem length_statusText {status : Nat} (isInt : status ≤ 2147483648) :
    (statusText status).length ≤ 10 := by
  have digits : (Nat.toDigits 10 status).length ≤ 10 :=
    (Nat.length_toDigits_le_iff (by decide) (by decide)).mpr (by omega)
  rw [statusText, show toString status = String.ofList (Nat.toDigits 10 status) from rfl,
    utf8_ofList, List.length_flatMap]
  have single : ∀ character ∈ Nat.toDigits 10 status,
      (String.utf8EncodeChar character).length = 1 := by
    intro character member
    obtain ⟨byte, encoded, _⟩ := utf8EncodeChar_of_digit
      (Nat.isDigit_of_mem_toDigits (by decide) (by decide) member)
    rw [encoded]
    rfl
  rw [List.map_congr_left single]
  simpa using digits

/-- The text of a reply begins with its status and a delimiter, fits the buffer and contains no
terminator. -/
theorem Reply.WellFormed.text_eq {reply : Reply} (wellFormed : reply.WellFormed) :
    (∃ rest, reply.text = statusText reply.status ++ cmdDelimiter ++ rest) ∧
      0 ∉ reply.text ∧ reply.text.length ≤ bufferSize - 1 := by
  obtain ⟨tail, tailFree, formatted⟩ : ∃ tail, 0 ∉ tail ∧
      reply.text = snprintf bufferSize (statusText reply.status ++ cmdDelimiter ++ tail) := by
    have delimiterFree : 0 ∉ cmdDelimiter := by decide
    by_cases data : reply.data.length > 0
    · refine ⟨reply.message ++ cmdDelimiter ++ reply.data, ?_, ?_⟩
      · simp only [List.mem_append, not_or]
        exact ⟨⟨wellFormed.message, delimiterFree⟩, wellFormed.data⟩
      · rw [Reply.text, if_pos data, statusText]
        simp only [List.append_assoc]
    · exact ⟨reply.message, wellFormed.message, by rw [Reply.text, if_neg data]; rfl⟩
  have short := length_statusText (Nat.le_of_lt wellFormed.status)
  have head : (statusText reply.status ++ cmdDelimiter).length ≤ bufferSize - 1 := by
    rw [List.length_append]
    exact (Nat.add_le_add_right short _).trans (by decide)
  refine ⟨⟨tail.take (bufferSize - 1 - (statusText reply.status ++ cmdDelimiter).length), ?_⟩,
    fun member => ?_, ?_⟩
  · rw [formatted, snprintf, List.take_append, List.take_of_length_le head]
  · rw [formatted] at member
    have written := List.mem_of_mem_take member
    simp only [List.mem_append] at written
    rcases written with (status | delimiter) | rest
    · exact notMem_statusText reply.status 0 (by decide) status
    · exact absurd delimiter (by decide)
    · exact tailFree rest
  · rw [formatted]
    exact List.length_take_le _ _

theorem Reply.WellFormed.complete {reply : Reply} (wellFormed : reply.WellFormed) :
    strstr reply.text cmdDelimiter = true := by
  obtain ⟨⟨rest, text⟩, _⟩ := wellFormed.text_eq
  rw [text]
  exact decide_eq_true (List.IsInfix.trans (List.suffix_append _ _).isInfix
    (List.prefix_append _ _).isInfix)

/-- A reply that arrives in chunks is received whole, with nothing left unread, if and only if
only the last chunk completes the first delimiter. -/
theorem receives_whole_iff {Remote : Type} (react : Bytes → Remote → List Bytes × Remote)
    (remote : Remote) (reply : Reply) (wellFormed : reply.WellFormed) (chunks : List Bytes)
    (nonempty : ∀ chunk ∈ chunks, chunk ≠ []) (cut : chunks.flatten = reply.text) :
    Program.run (Wire.answer react) receiveResponse ⟨chunks, remote⟩ =
        (some (true, reply.text), ⟨[], remote⟩) ↔
      chunks.dropLast.flatten.length < (statusText reply.status).length + 2 := by
  obtain ⟨⟨rest, text⟩, zeroFree, fits⟩ := wellFormed.text_eq
  have slashFree := notMem_statusText reply.status 47 (by decide)
  have isPrefix : chunks.dropLast.flatten <+: reply.text := by
    rw [← cut]
    exact List.IsPrefix.flatten (List.dropLast_prefix chunks)
  have complete := wellFormed.complete
  have before : strstr chunks.dropLast.flatten cmdDelimiter = true ↔
      (statusText reply.status).length + 2 ≤ chunks.dropLast.flatten.length :=
    strstr_front_iff slashFree (text ▸ isPrefix)
  rw [← cut] at zeroFree fits complete ⊢
  cases early : strstr chunks.dropLast.flatten cmdDelimiter with
  | false =>
    refine iff_of_true (receives_of_last react remote nonempty zeroFree fits complete early) ?_
    rw [early] at before
    simpa using before
  | true =>
    have left := run_receiveLoop_early react chunks (bufferSize - 1) [] remote nonempty zeroFree
      fits (by simp) (by decide) early
    have pending : chunks ≠ [] := by
      rintro rfl
      exact absurd early (by decide)
    refine iff_of_false (fun received => left ?_) (Nat.not_lt.mpr (before.mp early))
    rw [run_receiveResponse react pending] at received
    exact congrArg (fun run => run.2.incoming) received

/-- The other end says nothing more. -/
def noReaction (_ : Bytes) (remote : Unit) : List Bytes × Unit := ([], remote)

/-- The reply to a login. -/
def sampleReply : Reply := ⟨respSuccess, respLoginOk, utf8 "B10//7010569//GENERAL"⟩

/-- A reply in two chunks, the first of them shorter than the delimiter allows. -/
theorem receives_whole_sample :
    Program.run (Wire.answer noReaction) receiveResponse
        ⟨[sampleReply.text.take 2, sampleReply.text.drop 2], ()⟩ =
        (some (true, sampleReply.text), ⟨[], ()⟩) ↔
      [sampleReply.text.take 2, sampleReply.text.drop 2].dropLast.flatten.length <
        (statusText sampleReply.status).length + 2 :=
  receives_whole_iff noReaction () sampleReply ⟨by decide, by decide, by decide⟩
    [sampleReply.text.take 2, sampleReply.text.drop 2] (by decide) (by decide)

/-- The same reply, cut behind its message: the data is left unread. -/
theorem receives_part :
    ¬ Program.run (Wire.answer noReaction) receiveResponse
        ⟨[sampleReply.text.take 19, sampleReply.text.drop 19], ()⟩ =
      (some (true, sampleReply.text), ⟨[], ()⟩) := by
  intro received
  exact absurd (congrArg (fun run => run.2.incoming) received) (by decide)

end SchoolMeals
