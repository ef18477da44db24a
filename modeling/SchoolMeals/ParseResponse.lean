/-
This file is about `parse_response`, the decoder that `common.h` declares beside
`send_response`. It reads three fields between bars, as its comment says, and it
reads back whatever is written that way. `send_response` writes slashes: behind
the status the decoder finds no bar, and it returns false for every reply.
-/

import SchoolMeals.Network

namespace SchoolMeals

open CText

/-! ### Writing and reading a reply -/

/-- What `%d` prints for an `int`. -/
def intText (status : Int32) : Bytes := utf8 (toString status.toInt)

/-- The fields of a reply behind each other. -/
def formatResponse (separator : Bytes) (status : Int32) (message data : Bytes) : Bytes :=
  if data.length > 0 then
    intText status ++ separator ++ message ++ separator ++ data
  else intText status ++ separator ++ message

/-- The text `send_response` sends for any `int`. -/
def sendResponseText (status : Int32) (message data : Bytes) : Bytes :=
  snprintf bufferSize (formatResponse cmdDelimiter status message data)

/-- What `parse_response` returns, and what it writes to `*status`, `message` and `data`. -/
structure ParsedResponse where
  returned : Bool
  status : Option Int
  message : Option Bytes
  data : Option Bytes
  deriving DecidableEq

/-- `parse_response` with pointers that are not null; the caller may pass a null pointer for the
data. The conversions of `sscanf` follow each other as long as each of them succeeds, and two
of them have to. -/
def parseResponse (withData : Bool) (buffer : Bytes) : ParsedResponse :=
  match scanInt buffer.length buffer with
  | none => ⟨false, none, none, none⟩
  | some (status, rest) =>
    match (scanByte 124 rest).bind (scanUntil 124 rest.length) with
    | none => ⟨false, some status, none, none⟩
    | some (message, rest) =>
      if withData then
        ⟨true, some status, some message,
          ((scanByte 124 rest).bind (scanUntil 10 rest.length)).map Prod.fst⟩
      else ⟨true, some status, some message, none⟩

/-- The reply comes back: the decoder returns true and has written status and message, and the
data where there is some and it is asked for. -/
def ReadsReply (withData : Bool) (status : Int32) (message data : Bytes)
    (parsed : ParsedResponse) : Prop :=
  parsed.returned = true ∧ parsed.status = some status.toInt ∧ parsed.message = some message ∧
    (withData = true → data ≠ [] → parsed.data = some data)

/-! ### The status -/

/-- The digits of a number are read as that number. -/
theorem decimal_statusText (status : Nat) : decimal (statusText status) = status := by
  have folded : ∀ (characters : List Char) (value : Nat),
      (∀ character ∈ characters, character.isDigit = true) →
      (characters.flatMap String.utf8EncodeChar).foldl
          (fun value digit => 10 * value + (digit.toNat - 48)) value =
        Nat.ofDigitChars 10 characters value := by
    intro characters
    induction characters with
    | nil => exact fun _ _ => rfl
    | cons character characters inductionHypothesis =>
      intro value digits
      obtain ⟨isDigit, later⟩ := List.forall_mem_cons.mp digits
      obtain ⟨byte, encoded, _, same⟩ := utf8EncodeChar_of_digit isDigit
      rw [List.flatMap_cons, encoded, List.singleton_append, List.foldl_cons, same,
        inductionHypothesis _ later, Nat.ofDigitChars_cons]
      rfl
  rw [statusText, show toString status = String.ofList (Nat.toDigits 10 status) from rfl,
    utf8_ofList, decimal, folded _ 0 fun _ member => Nat.isDigit_of_mem_toDigits (by decide)
      (by decide) member]
  exact Nat.ofDigitChars_ten_toDigits

theorem statusText_ne_nil (status : Nat) : statusText status ≠ [] := by
  intro empty
  have digits : Nat.toDigits 10 status ≠ [] := Nat.toDigits_ne_nil
  obtain ⟨character, characters, split⟩ := List.exists_cons_of_ne_nil digits
  have member : character ∈ Nat.toDigits 10 status := split ▸ List.mem_cons_self
  have isDigit := Nat.isDigit_of_mem_toDigits (by decide) (by decide) member
  obtain ⟨byte, encoded, _⟩ := utf8EncodeChar_of_digit isDigit
  rw [statusText, show toString status = String.ofList (Nat.toDigits 10 status) from rfl,
    utf8_ofList, split, List.flatMap_cons, encoded] at empty
  cases empty

/-- An `int` is printed as its digits, behind a minus when it is negative. -/
theorem intText_cases (status : Int32) :
    ∃ number : Nat, number ≤ 2147483648 ∧
      ((intText status = statusText number ∧ status.toInt = number) ∨
        (intText status = 45 :: statusText number ∧ status.toInt = -number)) := by
  have upper := status.toInt_lt
  have lower := status.le_toInt
  rw [intText]
  cases value : status.toInt with
  | ofNat number =>
    rw [value, Int.ofNat_eq_natCast] at upper
    exact ⟨number, by omega, .inl ⟨rfl, rfl⟩⟩
  | negSucc number =>
    rw [value] at lower
    refine ⟨number + 1, by omega, .inr ⟨?_, rfl⟩⟩
    have minus : utf8 "-" = [45] := by decide
    have joined : utf8 ("-" ++ toString (number + 1)) =
        utf8 "-" ++ utf8 (toString (number + 1)) := by
      simp [utf8, String.toByteArray_append]
    show utf8 ("-" ++ toString (number + 1)) = _
    rw [joined, minus]
    rfl

theorem length_intText (status : Int32) : (intText status).length ≤ 11 := by
  obtain ⟨number, inRange, ⟨text, _⟩ | ⟨text, _⟩⟩ := intText_cases status
  · rw [text]
    exact Nat.le_succ_of_le (length_statusText inRange)
  · rw [text]
    exact Nat.succ_le_succ (length_statusText inRange)

/-- What is printed for an `int` is read as that `int`. -/
theorem scanInt_intText (status : Int32) {rest : Bytes}
    (stops : ∀ byte ∈ rest.head?, isDigit byte = false) {width : Nat}
    (fits : (intText status ++ rest).length ≤ width) :
    scanInt width (intText status ++ rest) = some (status.toInt, rest) := by
  have isInt : readAsInt status.toInt = status.toInt :=
    readAsInt_of_int status.le_toInt (Int.le_of_lt_add_one status.toInt_lt)
  have solid : ∀ (byte : UInt8) (text : Bytes), isSpace byte = false →
      (byte :: text).dropWhile isSpace = byte :: text := fun byte text plain =>
    List.dropWhile_cons_of_neg (by simp [plain])
  obtain ⟨number, _, ⟨text, value⟩ | ⟨text, value⟩⟩ := intText_cases status
  · obtain ⟨byte, digits, split⟩ := List.exists_cons_of_ne_nil (statusText_ne_nil number)
    have first : isDigit byte = true :=
      isDigit_statusText number byte (split ▸ List.mem_cons_self)
    have unspaced : (statusText number ++ rest).dropWhile isSpace = statusText number ++ rest := by
      rw [split, List.cons_append]
      exact solid byte _ (isSpace_of_isDigit first)
    rw [text] at fits ⊢
    rw [scanInt, unspaced, List.take_of_length_le fits,
      signed_digits (statusText_ne_nil number) (isDigit_statusText number) stops]
    simp [decimal_statusText, ← value, isInt]
  · rw [text] at fits ⊢
    rw [scanInt, List.cons_append, solid 45 _ (by decide), ← List.cons_append,
      List.take_of_length_le fits, List.cons_append,
      signed_minus (statusText_ne_nil number) (isDigit_statusText number) stops]
    simp [decimal_statusText, ← value, isInt]

/-! ### Bars and slashes -/

/-- A text of bytes other than the stop is taken whole. -/
theorem scanUntil_avoids {stop : UInt8} {width : Nat} {field : Bytes} (nonempty : field ≠ [])
    (avoids : stop ∉ field) (fits : field.length ≤ width) :
    scanUntil stop width field = some (field, []) := by
  have taken : (field.takeWhile (· ≠ stop)).take width = field := by
    rw [List.takeWhile_eq_self_iff.mpr fun byte member => by
      simpa using ne_of_mem_of_not_mem member avoids, List.take_of_length_le fits]
  unfold scanUntil
  rw [taken]
  split
  · exact absurd rfl nonempty
  · rw [List.drop_length]

/-- Behind a status and a bar the decoder goes on with the message. -/
theorem parseResponse_bar (withData : Bool) (status : Int32) (text : Bytes) :
    parseResponse withData (intText status ++ 124 :: text) =
      match scanUntil 124 (text.length + 1) text with
      | none => ⟨false, some status.toInt, none, none⟩
      | some (message, rest) =>
        if withData then
          ⟨true, some status.toInt, some message,
            ((scanByte 124 rest).bind (scanUntil 10 rest.length)).map Prod.fst⟩
        else ⟨true, some status.toInt, some message, none⟩ := by
  have stops : ∀ byte ∈ (124 :: text).head?, isDigit byte = false := by
    rintro byte ⟨⟩
    decide
  rw [parseResponse, scanInt_intText status stops (Nat.le_refl _)]
  rfl

/-- What is written with bars is read back. -/
theorem readsReply_bars (withData : Bool) (status : Int32) {message data : Bytes}
    (nonempty : message ≠ []) (barFree : 124 ∉ message) (oneLine : 10 ∉ data) :
    ReadsReply withData status message data
      (parseResponse withData (formatResponse (utf8 "|") status message data)) := by
  have bar : utf8 "|" = [124] := by decide
  by_cases given : data.length > 0
  · have written : formatResponse (utf8 "|") status message data =
        intText status ++ 124 :: (message ++ 124 :: data) := by
      rw [formatResponse, if_pos given, bar]
      simp
    have fits : message.length ≤ (message ++ 124 :: data).length + 1 := by
      rw [List.length_append]
      omega
    have found := scanUntil_append 124 _ message data nonempty barFree fits
    have last : (scanByte 124 (124 :: data)).bind (scanUntil 10 (124 :: data).length) =
        some (data, []) :=
      scanUntil_avoids (List.length_pos_iff.mp given) oneLine (Nat.le_succ _)
    simp only [written, parseResponse_bar, found, last, Option.map_some]
    cases withData with
    | true => exact ⟨rfl, rfl, rfl, fun _ _ => rfl⟩
    | false => exact ⟨rfl, rfl, rfl, fun impossible => absurd impossible Bool.false_ne_true⟩
  · have written : formatResponse (utf8 "|") status message data =
        intText status ++ 124 :: message := by
      rw [formatResponse, if_neg given, bar]
      simp
    have none : data = [] := List.length_eq_zero_iff.mp (Nat.eq_zero_of_not_pos given)
    have found : scanUntil 124 (message.length + 1) message = some (message, []) :=
      scanUntil_avoids nonempty barFree (Nat.le_succ _)
    rw [written, parseResponse_bar, found]
    cases withData <;> exact ⟨rfl, rfl, rfl, fun _ some => absurd none some⟩

/-- The decoder returns false for every text that `send_response` sends. -/
theorem returned_parseResponse (withData : Bool) (status : Int32) (message data : Bytes) :
    (parseResponse withData (sendResponseText status message data)).returned = false := by
  have slashes : cmdDelimiter = [47, 47] := by decide
  obtain ⟨rest, formatted⟩ : ∃ rest, formatResponse cmdDelimiter status message data =
      intText status ++ 47 :: rest := by
    rw [formatResponse, slashes]
    split
    · exact ⟨47 :: (message ++ [47, 47] ++ data), by simp⟩
    · exact ⟨47 :: message, by simp⟩
  have short := length_intText status
  have room : (47 :: rest).take (bufferSize - 1 - (intText status).length) =
      47 :: rest.take (bufferSize - 2 - (intText status).length) := by
    have limit : bufferSize = 4096 := rfl
    rw [show bufferSize - 1 - (intText status).length =
      bufferSize - 2 - (intText status).length + 1 by omega, List.take_succ_cons]
  have sent : sendResponseText status message data =
      intText status ++ 47 :: rest.take (bufferSize - 2 - (intText status).length) := by
    rw [sendResponseText, formatted, snprintf, List.take_append, room,
      List.take_of_length_le (Nat.le_trans short (by decide))]
  have stops : ∀ byte ∈ (47 :: rest.take (bufferSize - 2 - (intText status).length)).head?,
      isDigit byte = false := by
    rintro byte ⟨⟩
    decide
  rw [sent, parseResponse, scanInt_intText status stops (Nat.le_refl _)]
  rfl

/-- No reply of the server comes back through the decoder. -/
theorem not_readsReply (withData : Bool) (status : Int32) (message data : Bytes) :
    ¬ ReadsReply withData status message data
      (parseResponse withData (sendResponseText status message data)) := by
  intro reads
  exact Bool.false_ne_true ((returned_parseResponse withData status message data).symm.trans
    reads.1)

/-- The reply to a registration. -/
theorem not_readsReply_registered :
    ¬ ReadsReply true 1 respRegisterOk []
      (parseResponse true (sendResponseText 1 respRegisterOk [])) := by
  rintro ⟨returned, _⟩
  exact absurd returned (by decide)

end SchoolMeals
