/-
This file models one pass of the request loop on the receive buffer itself, which
is never cleared: behind the bytes that were received and their terminator there
is what earlier requests left. The tokens are cut out of the buffer in place, the
operands are addresses in it, and `get_meal_from_neis` reads eight bytes from the
address of the date, however short the date is. Nothing of what was left reaches
an operand, a query or a reply: a token ends with a terminator of its own, and a
terminator among the eight bytes ends the formatted date.
-/

import SchoolMeals.Library.Buffer
import SchoolMeals.Menus

namespace SchoolMeals

open CText Interaction

/-! ### The date -/

/-- What stands behind a terminator is not read. -/
theorem cString_snprintf_stop (size : Nat) (front rest other : Bytes) :
    cString (snprintf size (front ++ 0 :: rest)) =
      cString (snprintf size (front ++ 0 :: other)) := by
  unfold snprintf
  generalize size - 1 = count
  induction front generalizing count with
  | nil => cases count <;> rfl
  | cons byte front inductionHypothesis =>
    cases count with
    | zero => rfl
    | succ count =>
      simp only [cString, List.cons_append, List.take_succ_cons,
        List.takeWhile_cons] at inductionHypothesis ⊢
      rw [inductionHypothesis]

theorem formattedDate_bytes (date : Bytes) :
    formattedDate date = cString (snprintf 20
      [date.getD 0 0, date.getD 1 0, date.getD 2 0, date.getD 3 0, 235, 133, 132, 32,
        date.getD 4 0, date.getD 5 0, 236, 155, 148, 32,
        date.getD 6 0, date.getD 7 0, 236, 157, 188]) := by
  have year : utf8 "년 " = [235, 133, 132, 32] := by decide
  have month : utf8 "월 " = [236, 155, 148, 32] := by decide
  have last : utf8 "일" = [236, 157, 188] := by decide
  rw [formattedDate, year, month, last]
  rfl

/-- The formatted date ends where the date ends, if that is before the eighth byte. -/
theorem formattedDate_append (token tail : Bytes) :
    formattedDate (token ++ 0 :: tail) = formattedDate token := by
  rw [formattedDate_bytes, formattedDate_bytes]
  match token with
  | [] => exact cString_snprintf_stop 20 [] _ _
  | [a] => exact cString_snprintf_stop 20 [a] _ _
  | [a, b] => exact cString_snprintf_stop 20 [a, b] _ _
  | [a, b, c] => exact cString_snprintf_stop 20 [a, b, c] _ _
  | [a, b, c, d] => exact cString_snprintf_stop 20 [a, b, c, d, 235, 133, 132, 32] _ _
  | [a, b, c, d, e] => exact cString_snprintf_stop 20 [a, b, c, d, 235, 133, 132, 32, e] _ _
  | [a, b, c, d, e, f] =>
    exact cString_snprintf_stop 20 [a, b, c, d, 235, 133, 132, 32, e, f, 236, 155, 148, 32] _ _
  | [a, b, c, d, e, f, g] =>
    exact cString_snprintf_stop 20 [a, b, c, d, 235, 133, 132, 32, e, f, 236, 155, 148, 32, g] _ _
  | _ :: _ :: _ :: _ :: _ :: _ :: _ :: _ :: _ => rfl

/-- Of the memory behind a date, the formatted date has the string only. -/
theorem formattedDate_cString (memory : Bytes) :
    formattedDate memory = formattedDate (cString memory) := by
  by_cases ends : 0 ∈ memory
  · obtain ⟨tail, split⟩ := cut_at_byte ends
    conv_lhs => rw [split]
    exact formattedDate_append _ tail
  · rw [cString_of_zeroFree memory ends]

/-! ### Parsing in the buffer -/

/-- The operand variables of `handle_client`: addresses in the receive buffer. -/
structure Pointers where
  id : Option Nat
  pw : Option Nat
  eduOffice : Option Nat
  schoolName : Option Nat
  date : Option Nat
  childId : Option Nat
  period : Option Nat

def Pointers.null : Pointers := ⟨none, none, none, none, none, none, none⟩

/-- The strings at the addresses. -/
def Pointers.operands (pointers : Pointers) (buffer : Bytes) : Operands where
  id := pointers.id.map (stringAt buffer)
  pw := pointers.pw.map (stringAt buffer)
  eduOffice := pointers.eduOffice.map (stringAt buffer)
  schoolName := pointers.schoolName.map (stringAt buffer)
  date := pointers.date.map (stringAt buffer)
  childId := pointers.childId.map (stringAt buffer)
  period := pointers.period.map (stringAt buffer)

/-- The `strtok(NULL, CMD_DELIMITER)` calls after the command, and the buffer they leave. -/
def parsePointers (command buffer : Bytes) (saved : Nat) : Pointers × Bytes :=
  if command = cmdGetMeal then
    let (eduOffice, buffer, saved) := strtokAt cmdDelimiter buffer saved
    let (schoolName, buffer, saved) := strtokAt cmdDelimiter buffer saved
    let (date, buffer, _) := strtokAt cmdDelimiter buffer saved
    ({ Pointers.null with eduOffice, schoolName, date }, buffer)
  else if command = cmdGetMultiMeal then
    let (eduOffice, buffer, saved) := strtokAt cmdDelimiter buffer saved
    let (schoolName, buffer, saved) := strtokAt cmdDelimiter buffer saved
    let (period, buffer, _) := strtokAt cmdDelimiter buffer saved
    ({ Pointers.null with eduOffice, schoolName, period }, buffer)
  else
    let (id, buffer, saved) := strtokAt cmdDelimiter buffer saved
    let (pw, buffer, saved) := strtokAt cmdDelimiter buffer saved
    let (eduOffice, buffer, saved) := strtokAt cmdDelimiter buffer saved
    let (schoolName, buffer, saved) := strtokAt cmdDelimiter buffer saved
    let (date, buffer, saved) := strtokAt cmdDelimiter buffer saved
    let (childId, buffer, saved) := strtokAt cmdDelimiter buffer saved
    let (period, buffer, _) := strtokAt cmdDelimiter buffer saved
    ({ id, pw, eduOffice, schoolName, date, childId, period }, buffer)

/-- The buffer after the last call, with the addresses in it. -/
structure Parsed where
  cmd : Nat
  pointers : Pointers
  buffer : Bytes

/-- The request as its variables read in the end. -/
def Parsed.request (parsed : Parsed) : Request :=
  ⟨stringAt parsed.buffer parsed.cmd, parsed.pointers.operands parsed.buffer⟩

def parseBuffer (buffer : Bytes) : Option Parsed :=
  match strtokAt cmdDelimiter buffer 0 with
  | (none, _, _) => none
  | (some cmd, buffer, saved) =>
    let (pointers, buffer) := parsePointers (stringAt buffer cmd) buffer saved
    some ⟨cmd, pointers, buffer⟩

/-- One pass of the loop over the buffer. The operands are read as strings, but the address of a
date is handed on as it is. -/
def handleBuffer (locals : Locals) (buffer : Bytes) : Server Unit :=
  match parseBuffer buffer with
  | none => invalidRequest
  | some parsed =>
    let request := parsed.request
    if request.command = cmdGetMeal then
      getMealOf request.operands.eduOffice request.operands.schoolName
        (parsed.pointers.date.map parsed.buffer.drop)
    else dispatch locals request

/-! ### What is parsed -/

/-- The calls in the buffer find the operands of the text, and leave the command. -/
theorem parsePointers_spec (command : Bytes) {buffer rest : Bytes} {saved : Nat}
    (scans : StringAt buffer saved rest) :
    (parsePointers command buffer saved).1.operands (parsePointers command buffer saved).2 =
        parseOperands command rest ∧
      ∀ address token, StringAt buffer address token → address + token.length ≤ saved →
        StringAt (parsePointers command buffer saved).2 address token := by
  unfold parsePointers parseOperands
  by_cases getMeal : command = cmdGetMeal
  · have calls := strtokCalls_spec cmdDelimiter 3 scans
    simp only [strtokCalls, strtokTexts, List.map_cons, List.map_nil, List.cons.injEq,
      and_true] at calls
    obtain ⟨⟨eduOffice, schoolName, date⟩, stays⟩ := calls
    simp only [if_pos getMeal, Pointers.operands, Pointers.null, eduOffice, schoolName, date]
    exact ⟨rfl, stays⟩
  · by_cases getMultiMeal : command = cmdGetMultiMeal
    · have calls := strtokCalls_spec cmdDelimiter 3 scans
      simp only [strtokCalls, strtokTexts, List.map_cons, List.map_nil, List.cons.injEq,
        and_true] at calls
      obtain ⟨⟨eduOffice, schoolName, period⟩, stays⟩ := calls
      simp only [if_neg getMeal, if_pos getMultiMeal, Pointers.operands, Pointers.null, eduOffice,
        schoolName, period]
      exact ⟨rfl, stays⟩
    · have calls := strtokCalls_spec cmdDelimiter 7 scans
      simp only [strtokCalls, strtokTexts, List.map_cons, List.map_nil, List.cons.injEq,
        and_true] at calls
      obtain ⟨⟨id, pw, eduOffice, schoolName, date, childId, period⟩, stays⟩ := calls
      simp only [if_neg getMeal, if_neg getMultiMeal, Pointers.operands, id, pw, eduOffice,
        schoolName, date, childId, period]
      exact ⟨trivial, stays⟩

/-- The received bytes up to their own first terminator stand at the head of the buffer. -/
theorem stringAt_received (received stale : Bytes) :
    StringAt (received ++ 0 :: stale) 0 (cString received) := by
  have zeroFree := zeroFree_cString received
  by_cases ends : 0 ∈ received
  · obtain ⟨tail, split⟩ := cut_at_byte ends
    have whole : received ++ 0 :: stale = cString received ++ 0 :: (tail ++ 0 :: stale) := by
      conv_lhs => rw [split]
      rw [List.append_assoc, List.cons_append]
      rfl
    rw [whole]
    exact stringAt_start zeroFree _
  · rw [cString_of_zeroFree received ends] at zeroFree ⊢
    exact stringAt_start zeroFree stale

/-- Whatever is left in the buffer, the request is the one of the received bytes. -/
theorem request_parseBuffer (received stale : Bytes) :
    (parseBuffer (received ++ 0 :: stale)).map Parsed.request = parseRequest received := by
  rcases strtokAt_spec cmdDelimiter (stringAt_received received stale) with
    ⟨nothing, next, found, _⟩ | ⟨command, later, cmd, after, next, isToken, found, _, _, cut⟩
  · rw [parseBuffer, parseRequest, nothing, found]
    rfl
  · obtain ⟨operands, stays⟩ := parsePointers_spec command cut.scans
    have reads := (stays cmd command cut.stands cut.inside).eq
    rw [parseBuffer, parseRequest, isToken, found]
    simp only [cut.stands.eq, Option.map_some, Parsed.request, operands, reads]

/-! ### What is asked and replied -/

namespace NeisSide

variable (side : NeisSide)

/-- `get_meal_from_neis` with the address of a date: the URL is formatted with the string, and the
formatter reads the memory. -/
def getMealAt (eduOffice schoolCode date : Bytes) : Neis (Option Bytes) :=
  Neis.getMealFromNeis (side.formatting.readMeal date) eduOffice schoolCode (cString date)

/-- The URLs that a call requests, when the date of a meal is an address. -/
def queriesAt : Call → List Bytes
  | .getMealFromNeis eduOffice schoolCode date =>
    side.urls (side.getMealAt eduOffice schoolCode date)
  | request => side.formatting.queries request

/-- Surroundings that look up the meal of a day from the address of its date. What a lookup
returns whose behaviour is not defined is left to the surroundings. -/
def readingAt (around : Surroundings) : Surroundings :=
  { around with
    meal := fun eduOffice schoolCode date =>
      (side.result (side.getMealAt eduOffice schoolCode date)).getD
        (around.meal eduOffice schoolCode (cString date)) }

/-- What stands behind the date does not count. -/
theorem getMealAt_cString (eduOffice schoolCode date : Bytes) :
    side.getMealAt eduOffice schoolCode date =
      side.getMealAt eduOffice schoolCode (cString date) := by
  have formatted : ∀ menu, formatMeal maxMealLen menu date =
      formatMeal maxMealLen menu (cString date) := by
    intro menu
    unfold formatMeal
    rw [formattedDate_cString]
  have reading : side.formatting.readMeal date = side.formatting.readMeal (cString date) := by
    funext body
    show SchoolMeals.readMeal _ _ _ = SchoolMeals.readMeal _ _ _
    unfold SchoolMeals.readMeal
    simp only [formatted]
  rw [getMealAt, getMealAt, reading, cString_cString]

end NeisSide

section Passes

variable (side : NeisSide) (around : Surroundings) (locals : Locals)

/-- The branch of `GET_MEAL` asks and replies the same for an address as for the string there. -/
theorem getMealOf_cString (store : Store) (eduOffice schoolName date : Option Bytes) :
    askedIn side.queriesAt (side.readingAt around) (getMealOf eduOffice schoolName date)
        (World.start store) =
      askedIn side.queriesAt (side.readingAt around)
        (getMealOf eduOffice schoolName (date.map cString)) (World.start store) ∧
    outcomeOf (side.readingAt around) store (getMealOf eduOffice schoolName date) =
      outcomeOf (side.readingAt around) store
        (getMealOf eduOffice schoolName (date.map cString)) := by
  match eduOffice, schoolName, date with
  | some eduOffice, some schoolName, some date =>
    have silent : ∀ reply, side.queriesAt (.sendResponse reply) = [] := fun _ => rfl
    constructor
    · rw [Option.map_some, askedIn_getMealOf _ _ silent, askedIn_getMealOf _ _ silent]
      simp only [NeisSide.queriesAt, side.getMealAt_cString _ _ date]
    · rw [Option.map_some, outcomeOf_getMealOf, outcomeOf_getMealOf]
      simp only [mealReply, codesUsed, NeisSide.readingAt, side.getMealAt_cString _ _ date,
        cString_cString]
  | none, _, _ => exact ⟨rfl, rfl⟩
  | some _, none, _ => exact ⟨rfl, rfl⟩
  | some _, some _, none => exact ⟨rfl, rfl⟩

/-- A pass over the buffer asks and replies what the received bytes alone ask and reply. -/
theorem handleBuffer_received (received stale : Bytes) (store : Store) :
    askedIn side.queriesAt (side.readingAt around)
        (handleBuffer locals (received ++ 0 :: stale)) (World.start store) =
      askedIn side.queriesAt (side.readingAt around) (handleClient locals received)
        (World.start store) ∧
    outcomeOf (side.readingAt around) store (handleBuffer locals (received ++ 0 :: stale)) =
      outcomeOf (side.readingAt around) store (handleClient locals received) := by
  have request := request_parseBuffer received stale
  unfold handleBuffer handleClient
  rw [← request]
  cases parseBuffer (received ++ 0 :: stale) with
  | none => exact ⟨rfl, rfl⟩
  | some parsed =>
    simp only [Option.map_some]
    by_cases getMeal : parsed.request.command = cmdGetMeal
    · have date : (parsed.pointers.date.map parsed.buffer.drop).map cString =
          parsed.request.operands.date := Option.map_map ..
      have branch : dispatch locals parsed.request = getMealOf parsed.request.operands.eduOffice
          parsed.request.operands.schoolName parsed.request.operands.date := by
        unfold dispatch
        rw [getMeal]
        rfl
      rw [if_pos getMeal, branch, ← date]
      exact getMealOf_cString side around store _ _ _
    · rw [if_neg getMeal]
      exact ⟨rfl, rfl⟩

/-- The date as the formatter would print it. -/
def Parsed.dateText (parsed : Parsed) : Option Bytes :=
  parsed.pointers.date.map fun date => formattedDate (parsed.buffer.drop date)

theorem dateText_parseBuffer (received stale : Bytes) :
    (parseBuffer (received ++ 0 :: stale)).bind Parsed.dateText =
      (parseRequest received).bind fun request => request.operands.date.map formattedDate := by
  rw [← request_parseBuffer received stale]
  cases parseBuffer (received ++ 0 :: stale) with
  | none => rfl
  | some parsed =>
    obtain ⟨cmd, pointers, buffer⟩ := parsed
    simp only [Option.bind_some, Option.map_some, Parsed.dateText, Parsed.request,
      Pointers.operands, Option.map_map]
    exact congrArg (pointers.date.map ·) (funext fun date => formattedDate_cString _)

/-- Whatever two earlier sessions left in the buffer, the same bytes are parsed into the same
operands, with the same formatted date, ask NEIS for the same URLs, and leave the same store and
the same replies. -/
theorem handleBuffer_stale (received stale other : Bytes) (store : Store) :
    (parseBuffer (received ++ 0 :: stale)).map Parsed.request =
        (parseBuffer (received ++ 0 :: other)).map Parsed.request ∧
      (parseBuffer (received ++ 0 :: stale)).bind Parsed.dateText =
        (parseBuffer (received ++ 0 :: other)).bind Parsed.dateText ∧
      askedIn side.queriesAt (side.readingAt around)
          (handleBuffer locals (received ++ 0 :: stale)) (World.start store) =
        askedIn side.queriesAt (side.readingAt around)
          (handleBuffer locals (received ++ 0 :: other)) (World.start store) ∧
      outcomeOf (side.readingAt around) store (handleBuffer locals (received ++ 0 :: stale)) =
        outcomeOf (side.readingAt around) store (handleBuffer locals (received ++ 0 :: other)) := by
  have first := handleBuffer_received side around locals received stale store
  have second := handleBuffer_received side around locals received other store
  refine ⟨?_, ?_, first.1.trans second.1.symm, first.2.trans second.2.symm⟩
  · rw [request_parseBuffer, request_parseBuffer]
  · rw [dateText_parseBuffer, dateText_parseBuffer]

end Passes

end SchoolMeals
