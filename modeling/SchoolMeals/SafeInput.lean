/-
This file is about calls of `safe_input` one after the other, on any buffers and
with any sizes that are an `int`. Each call takes one line and no more, however
the line falls to the limit of `fgets`: a newline that was not stored is thrown
away together with the rest of its line. So the calls and the lines of the input
stay in step, and once there is no line left, nothing changes any more. A larger
size is not the one that `fgets` gets to see.
-/

import Mathlib.Logic.Function.Basic
import SchoolMeals.InputLoops

namespace SchoolMeals

open CText Lines

/-! ### Calls and buffers -/

/-- A call `safe_input(buffer, size)`. With a size of one `fgets` would store an empty string at
the end of the input as well. -/
structure SafeCall (Buffer : Type) where
  buffer : Buffer
  size : Nat
  room : 2 ≤ size

/-- The strings in the buffers, and the bytes left to read. -/
structure InputState (Buffer : Type) where
  texts : Buffer → Bytes
  stdin : Bytes

section Calls

variable {Buffer : Type} [DecidableEq Buffer]

def SafeCall.step (call : SafeCall Buffer) (state : InputState Buffer) : InputState Buffer :=
  let (text, stdin) := safeInput (state.texts call.buffer) call.size state.stdin
  ⟨Function.update state.texts call.buffer text, stdin⟩

def safeInputs (calls : List (SafeCall Buffer)) (start : InputState Buffer) : InputState Buffer :=
  calls.foldl (fun state call => call.step state) start

/-- A call that is given a line takes all of it and keeps what it has room for; a call that is
given none finds nothing to read and changes nothing. -/
def SafeCall.Takes (call : SafeCall Buffer) (before after : InputState Buffer) :
    Option Bytes → Prop
  | some line => before.stdin = line ++ after.stdin ∧
      after.texts = Function.update before.texts call.buffer
        ((line.takeWhile (· ≠ 10)).take (call.size - 1))
  | none => before.stdin = [] ∧ after = before

/-! ### One call -/

/-- A call takes the first of the lines, and leaves the others. -/
theorem SafeCall.step_takes {call : SafeCall Buffer} (inRange : call.size ≤ 2147483647)
    {state : InputState Buffer} (zeroFree : 0 ∉ state.stdin) :
    call.Takes state (call.step state) (lines 10 state.stdin).head? ∧
      lines 10 (call.step state).stdin = (lines 10 state.stdin).tail := by
  have fits : FitsInt call.size := ⟨call.room, inRange⟩
  have whole := flatten_lines 10 state.stdin
  cases found : lines 10 state.stdin with
  | nil =>
    obtain ⟨texts, stdin⟩ := state
    obtain rfl : [] = stdin := by rwa [found] at whole
    have unchanged : call.step ⟨texts, []⟩ = ⟨texts, []⟩ := by
      rw [SafeCall.step, safeInput_nothing fits]
      exact congrArg (InputState.mk · []) (Function.update_eq_self call.buffer texts)
    exact ⟨⟨rfl, unchanged⟩, by rw [unchanged]; rfl⟩
  | cons line rest =>
    obtain ⟨text, behind⟩ :=
      safeInput_takes fits zeroFree found (state.texts call.buffer)
    refine ⟨⟨?_, congrArg (Function.update state.texts call.buffer) text⟩, behind⟩
    have left : rest.flatten = (call.step state).stdin := by
      rw [← behind, flatten_lines]
      rfl
    rw [← left, ← whole, found, List.flatten_cons]

/-! ### All calls -/

/-- After some calls the input is what stands behind as many lines. -/
theorem lines_safeInputs {calls : List (SafeCall Buffer)}
    (inRange : ∀ call ∈ calls, call.size ≤ 2147483647) {start : InputState Buffer}
    (zeroFree : 0 ∉ start.stdin) :
    lines 10 (safeInputs calls start).stdin = (lines 10 start.stdin).drop calls.length ∧
      0 ∉ (safeInputs calls start).stdin := by
  induction calls generalizing start with
  | nil => exact ⟨rfl, zeroFree⟩
  | cons call calls inductionHypothesis =>
    rw [List.forall_mem_cons] at inRange
    obtain ⟨_, behind⟩ := SafeCall.step_takes inRange.1 zeroFree
    have stillFree : 0 ∉ (call.step start).stdin := by
      rw [← flatten_lines 10 (call.step start).stdin, behind]
      intro member
      obtain ⟨line, among, inside⟩ := List.mem_flatten.mp member
      refine zeroFree ?_
      rw [← flatten_lines 10 start.stdin]
      exact List.mem_flatten_of_mem (List.mem_of_mem_tail among) inside
    obtain ⟨later, laterFree⟩ := inductionHypothesis inRange.2 stillFree
    refine ⟨?_, laterFree⟩
    rw [safeInputs, List.foldl_cons, ← safeInputs, later, behind, List.length_cons,
      List.drop_tail]

/-- The calls take the lines of the input in order, one each, whatever their sizes below 2^31; a
call for which there is no line left finds the input empty and changes nothing. -/
theorem safeInputs_take_lines {start : InputState Buffer} (zeroFree : 0 ∉ start.stdin)
    {calls : List (SafeCall Buffer)} (inRange : ∀ call ∈ calls, call.size ≤ 2147483647)
    {index : Nat} {call : SafeCall Buffer}
    (isCall : calls[index]? = some call) :
    call.Takes (safeInputs (calls.take index) start) (safeInputs (calls.take (index + 1)) start)
      (lines 10 start.stdin)[index]? := by
  obtain ⟨inside, isNext⟩ := List.getElem?_eq_some_iff.mp isCall
  have next : calls.take (index + 1) = calls.take index ++ [call] := by
    rw [List.take_add_one, isCall]
    rfl
  obtain ⟨left, stillFree⟩ :=
    lines_safeInputs (fun call earlier => inRange call (List.mem_of_mem_take earlier)) zeroFree
  have earlier : (calls.take index).length = index := List.length_take_of_le inside.le
  have taken := (SafeCall.step_takes (inRange call (List.mem_of_getElem? isCall)) stillFree).1
  rw [left, earlier, List.head?_drop] at taken
  rw [next, safeInputs, safeInputs, List.foldl_append]
  exact taken

end Calls

/-- A line that is too long for its buffer, and then the last line into another one. -/
theorem safeInputs_take_lines_second :
    SafeCall.Takes ⟨true, 3, Nat.le_succ 2⟩
      (safeInputs [⟨false, 2, Nat.le_refl 2⟩] ⟨fun _ => [], utf8 "school\nid"⟩)
      (safeInputs [⟨false, 2, Nat.le_refl 2⟩, ⟨true, 3, Nat.le_succ 2⟩]
        ⟨fun _ => [], utf8 "school\nid"⟩)
      (some (utf8 "id")) :=
  @safeInputs_take_lines Bool _ ⟨fun _ => [], utf8 "school\nid"⟩ (by decide)
    [⟨false, 2, Nat.le_refl 2⟩, ⟨true, 3, Nat.le_succ 2⟩] (by decide) 1
    ⟨true, 3, Nat.le_succ 2⟩ rfl

/-- A size of 2^31 is negative as an `int`: `fgets` refuses it, and the line stays. -/
theorem not_takes_narrowed :
    ¬ SafeCall.Takes ⟨(), 2147483648, by decide⟩
      (safeInputs [] ⟨fun _ => [], utf8 "id\n"⟩)
      (safeInputs [⟨(), 2147483648, by decide⟩] ⟨fun _ => [], utf8 "id\n"⟩)
      (lines 10 (utf8 "id\n"))[0]? := by
  rintro ⟨consumed, _⟩
  exact absurd consumed (by decide)

end SchoolMeals
