/-
This file is about how the server receives what libcurl downloads. Each chunk is
copied behind the bytes so far, into a block that has grown for it, and the
terminator behind them is written by the same callback. The block begins as one
byte that nobody writes: the string that is parsed is the concatenation of the
chunks as soon as there is one, and without any it is whatever that byte begins.
-/

import Mathlib.Data.List.GetD
import SchoolMeals.Library.InPlace
import SchoolMeals.Neis

namespace SchoolMeals

open CText

/-! ### `neis_api.c` -/

/-- `struct MemoryStruct`, with all bytes of the block that `memory` points to. -/
structure MemoryStruct where
  memory : Bytes
  size : Nat

/-- `realloc`: the bytes of the block stay as far as both sizes go, the others are not written. -/
def realloc (block : Bytes) (size : Nat) (unwritten : Nat → UInt8) : Bytes :=
  (List.range size).map fun index => block.getD index (unwritten index)

/-- A chunk that libcurl delivers, as `nmemb` elements of `size` bytes, and what `realloc` answers
while it is received: what stands in the bytes it adds, or nothing when it fails. -/
structure Chunk where
  contents : Bytes
  size : Nat
  nmemb : Nat
  isWhole : contents.length = size * nmemb
  allocated : Option (Nat → UInt8)

/-- `WriteMemoryCallback`: what it returns and what it leaves in the structure. The block and the
chunk are in memory together, so the sum of their sizes does not wrap. -/
def writeMemoryCallback (chunk : Chunk) (mem : MemoryStruct) : Nat × MemoryStruct :=
  let realsize := chunk.size * chunk.nmemb
  match chunk.allocated with
  | none => (0, mem)
  | some unwritten =>
    let ptr := realloc mem.memory (mem.size + realsize + 1) unwritten
    let copied := writeAt ptr mem.size chunk.contents
    (realsize, ⟨writeAt copied (mem.size + realsize) [0], mem.size + realsize⟩)

/-- What libcurl delivers of an answer, and whether the transfer gets to its end. The block that
`malloc(1)` returns holds one byte, which nobody has written. -/
structure Transfer where
  ready : Bool
  unwritten : UInt8
  chunks : List Chunk
  completed : Bool

/-- The chunks are delivered until the callback returns another number than it was given. -/
def deliver : List Chunk → MemoryStruct → Bool × MemoryStruct
  | [], mem => (true, mem)
  | chunk :: chunks, mem =>
    let (written, mem) := writeMemoryCallback chunk mem
    if written = chunk.size * chunk.nmemb then deliver chunks mem else (false, mem)

/-- The statements of `perform_curl_request`, and of `get_school_codes`, from `curl_easy_init` to
the test of `res`: what is left in `chunk`, or nothing when they return false. -/
def Transfer.perform (transfer : Transfer) : Option MemoryStruct :=
  if !transfer.ready then none
  else
    let chunk : MemoryStruct := ⟨[transfer.unwritten], 0⟩
    let (written, chunk) := deliver transfer.chunks chunk
    if written && transfer.completed then some chunk else none

/-! ### What the block holds -/

/-- The bytes of all chunks. -/
def delivered (chunks : List Chunk) : Bytes := chunks.flatMap Chunk.contents

/-- The bytes received so far stand at the beginning of the block. -/
structure MemoryStruct.Starts (mem : MemoryStruct) (text : Bytes) : Prop where
  memory : text <+: mem.memory
  size : mem.size = text.length

/-- The block is the bytes received so far and their terminator. -/
structure MemoryStruct.Holds (mem : MemoryStruct) (text : Bytes) : Prop where
  memory : mem.memory = text ++ [0]
  size : mem.size = text.length

theorem MemoryStruct.Holds.starts {mem : MemoryStruct} {text : Bytes} (holds : mem.Holds text) :
    mem.Starts text := ⟨⟨[0], holds.memory.symm⟩, holds.size⟩

/-- `realloc` keeps what the block starts with, as far as there is room for it. -/
theorem realloc_keeps {block text : Bytes} {size : Nat} (unwritten : Nat → UInt8)
    (starts : text <+: block) (fits : text.length ≤ size) :
    ∃ rest, realloc block size unwritten = text ++ rest ∧ rest.length = size - text.length := by
  obtain ⟨behind, rfl⟩ := starts
  obtain ⟨room, rfl⟩ := Nat.exists_eq_add_of_le fits
  have kept : (List.range text.length).map
      (fun index => (text ++ behind).getD index (unwritten index)) = text := by
    refine List.ext_getElem (by simp) fun index _ inside => ?_
    rw [List.getElem_map, List.getElem_range, List.getD_append _ _ _ _ inside,
      List.getD_eq_getElem _ _ inside]
  refine ⟨((List.range room).map (text.length + ·)).map
    (fun index => (text ++ behind).getD index (unwritten index)), ?_, ?_⟩
  · rw [realloc, List.range_add, List.map_append, kept]
  · simp

/-- The callback appends its chunk, and ends what it has by a terminator. -/
theorem writeMemoryCallback_holds {chunk : Chunk} {mem : MemoryStruct} {text : Bytes}
    (allocated : chunk.allocated.isSome) (starts : mem.Starts text) :
    ∃ later, writeMemoryCallback chunk mem = (chunk.size * chunk.nmemb, later) ∧
      later.Holds (text ++ chunk.contents) := by
  obtain ⟨unwritten, answered⟩ := Option.isSome_iff_exists.mp allocated
  have whole := chunk.isWhole
  obtain ⟨rest, grown, room⟩ := realloc_keeps unwritten starts.memory
    (Nat.le_succ_of_le (Nat.le_add_right text.length (chunk.size * chunk.nmemb)))
  obtain ⟨last, one⟩ : ∃ last, rest.drop chunk.contents.length = [last] :=
    List.length_eq_one_iff.mp (by rw [List.length_drop]; omega)
  have copied : writeAt (text ++ rest) text.length chunk.contents =
      text ++ chunk.contents ++ [last] := by
    rw [writeAt_front, one]
  have ended : writeAt (text ++ chunk.contents ++ [last]) (text ++ chunk.contents).length [0] =
      text ++ chunk.contents ++ [0] := by
    rw [writeAt_front, List.length_singleton, List.drop_one, List.tail_cons, List.append_nil]
  refine ⟨⟨text ++ chunk.contents ++ [0], (text ++ chunk.contents).length⟩, ?_, rfl, rfl⟩
  rw [List.length_append, whole] at ended
  rw [writeMemoryCallback, answered, starts.size, List.length_append, whole]
  simp only [grown, copied, ended]

/-- The chunks behind the first one go on in what it left. -/
theorem deliver_holds {chunks : List Chunk} {mem : MemoryStruct} {text : Bytes}
    (allocated : ∀ chunk ∈ chunks, chunk.allocated.isSome) (holds : mem.Holds text) :
    ∃ later, deliver chunks mem = (true, later) ∧ later.Holds (text ++ delivered chunks) := by
  induction chunks generalizing mem text with
  | nil => exact ⟨mem, rfl, by rwa [delivered, List.flatMap_nil, List.append_nil]⟩
  | cons chunk chunks inductionHypothesis =>
    rw [List.forall_mem_cons] at allocated
    obtain ⟨between, written, received⟩ := writeMemoryCallback_holds allocated.1 holds.starts
    obtain ⟨later, rest, ends⟩ := inductionHypothesis allocated.2 received
    refine ⟨later, ?_, by rwa [delivered, List.flatMap_cons, ← List.append_assoc]⟩
    rw [deliver, written]
    exact (if_pos rfl).trans rest

/-! ### What is parsed -/

/-- The text to be parsed is a string in the block, with `size` its length. -/
structure MemoryStruct.Parses (mem : MemoryStruct) (text : Bytes) : Prop where
  string : StringAt mem.memory 0 text
  size : mem.size = text.length

theorem MemoryStruct.Holds.parses {mem : MemoryStruct} {text : Bytes} (holds : mem.Holds text)
    (zeroFree : 0 ∉ text) : mem.Parses text where
  string := holds.memory ▸ stringAt_start zeroFree []
  size := holds.size

/-- The block that nobody has written is the empty string if its byte happens to be zero. -/
theorem parses_unwritten (byte : UInt8) : MemoryStruct.Parses ⟨[byte], 0⟩ [] ↔ byte = 0 := by
  constructor
  · rintro ⟨⟨front, tail, same, start, _⟩, _⟩
    rw [List.length_eq_zero_iff.mp start] at same
    exact (List.cons.inj same).1
  · rintro rfl
    exact ⟨stringAt_start List.not_mem_nil [], rfl⟩

/-- The transfer gets to its end, there is memory for every chunk, and no chunk has a zero byte. -/
structure Transfer.Succeeds (transfer : Transfer) : Prop where
  ready : transfer.ready = true
  completed : transfer.completed = true
  allocated : ∀ chunk ∈ transfer.chunks, chunk.allocated.isSome
  zeroFree : ∀ chunk ∈ transfer.chunks, 0 ∉ chunk.contents

section Transfers

variable {transfer : Transfer} (succeeds : transfer.Succeeds)

include succeeds

theorem Transfer.Succeeds.perform_eq {chunk : MemoryStruct}
    (received : deliver transfer.chunks ⟨[transfer.unwritten], 0⟩ = (true, chunk)) :
    transfer.perform = some chunk := by
  simp only [Transfer.perform, succeeds.ready, received, succeeds.completed]
  rfl

theorem Transfer.Succeeds.zeroFree_delivered : 0 ∉ delivered transfer.chunks := by
  intro member
  obtain ⟨chunk, among, inside⟩ := List.mem_flatMap.mp member
  exact succeeds.zeroFree chunk among inside

/-- From the first chunk on the block has a terminator. -/
theorem Transfer.Succeeds.perform_holds (nonempty : transfer.chunks ≠ []) :
    ∃ chunk, transfer.perform = some chunk ∧ chunk.Holds (delivered transfer.chunks) := by
  obtain ⟨first, chunks, split⟩ := List.exists_cons_of_ne_nil nonempty
  have allocated := succeeds.allocated
  rw [split, List.forall_mem_cons] at allocated
  obtain ⟨between, written, received⟩ := @writeMemoryCallback_holds first
    ⟨[transfer.unwritten], 0⟩ [] allocated.1 ⟨List.nil_prefix, rfl⟩
  obtain ⟨chunk, rest, holds⟩ := deliver_holds allocated.2 received
  refine ⟨chunk, succeeds.perform_eq ?_, ?_⟩
  · rw [split, deliver, written]
    exact (if_pos rfl).trans rest
  · rwa [split, delivered, List.flatMap_cons]

/-- Without a chunk the block is as `malloc` has returned it. -/
theorem Transfer.Succeeds.perform_nothing (nothing : transfer.chunks = []) :
    transfer.perform = some ⟨[transfer.unwritten], 0⟩ :=
  succeeds.perform_eq (by rw [nothing, deliver])

/-- A lookup is handed the concatenation of the chunks if there is a chunk, and otherwise only if
the byte that nobody wrote is a terminator. -/
theorem perform_parses_iff :
    (∃ chunk, transfer.perform = some chunk ∧ chunk.Parses (delivered transfer.chunks)) ↔
      transfer.chunks ≠ [] ∨ transfer.unwritten = 0 := by
  cases split : transfer.chunks with
  | nil =>
    rw [succeeds.perform_nothing split]
    have unwritten := parses_unwritten transfer.unwritten
    constructor
    · rintro ⟨chunk, ⟨⟩, parses⟩
      exact Or.inr (unwritten.mp parses)
    · rintro (nonempty | zero)
      · exact absurd rfl nonempty
      · exact ⟨_, rfl, unwritten.mpr zero⟩
  | cons first chunks =>
    have nonempty : transfer.chunks ≠ [] := split ▸ List.cons_ne_nil first chunks
    obtain ⟨chunk, performed, holds⟩ := succeeds.perform_holds nonempty
    rw [← split]
    exact ⟨fun _ => Or.inl nonempty,
      fun _ => ⟨chunk, performed, holds.parses succeeds.zeroFree_delivered⟩⟩

end Transfers

/-- A chunk of bytes for which there is memory. -/
def Chunk.of (contents : Bytes) : Chunk :=
  ⟨contents, 1, contents.length, (Nat.one_mul _).symm, some fun _ => 65⟩

/-- An array that arrives in two pieces. -/
theorem perform_parses_two :
    ∃ chunk, Transfer.perform ⟨true, 65, [.of (utf8 "[true"), .of (utf8 ", 2]")], true⟩ =
      some chunk ∧ chunk.Parses (utf8 "[true, 2]") :=
  (@perform_parses_iff ⟨true, 65, [.of (utf8 "[true"), .of (utf8 ", 2]")], true⟩
    ⟨rfl, rfl, by simp [Chunk.of], by decide⟩).mpr (Or.inl (List.cons_ne_nil _ _))

/-- An answer without a body, received behind a byte that is not zero. -/
theorem not_parses_nothing :
    ¬ ∃ chunk, Transfer.perform ⟨true, 65, [], true⟩ = some chunk ∧
      chunk.Parses (delivered []) := by
  rintro ⟨chunk, ⟨⟩, parses⟩
  exact absurd ((parses_unwritten 65).mp parses) (by decide)

/-! ### What the lookups read -/

/-- The body of an answer as the parser reads it. -/
def Transfer.body (transfer : Transfer) : Option Bytes :=
  transfer.perform.map fun chunk => stringAt chunk.memory 0

section Lookups

variable {transfer : Transfer} (succeeds : transfer.Succeeds) (nonempty : transfer.chunks ≠ [])
  (side : NeisSide) (isReady : side.ready = true)

include succeeds nonempty isReady

/-- A query whose answer arrives in chunks reads the concatenation of them. -/
theorem result_of_chunks {Result : Type} (read : Reading Result) {url : Bytes}
    (answers : side.body url = transfer.body) :
    side.result (performCurlRequest url >>= readBody read) = read (delivered transfer.chunks) := by
  obtain ⟨chunk, performed, holds⟩ := succeeds.perform_holds nonempty
  have body : transfer.body = some (delivered transfer.chunks) := by
    rw [Transfer.body, performed, Option.map_some,
      (holds.parses succeeds.zeroFree_delivered).string.eq]
  rw [NeisSide.result_request, isReady, answers, body]
  rfl

theorem result_getSchoolCodes_of_chunks {schoolName : Bytes}
    (answers : side.body (side.schoolUrl schoolName) = transfer.body) :
    side.result (side.getSchoolCodes schoolName) =
      readSchoolCodes side.libraries side.memory (delivered transfer.chunks) := by
  rw [NeisSide.getSchoolCodes_eq]
  exact result_of_chunks succeeds nonempty side isReady _ answers

theorem result_getMealFromNeis_of_chunks {eduOffice schoolCode date : Bytes}
    (answers : side.body (mealUrl eduOffice schoolCode date) = transfer.body) :
    side.result (side.getMealFromNeis eduOffice schoolCode date) =
      side.readMeal date (delivered transfer.chunks) :=
  result_of_chunks succeeds nonempty side isReady _ answers

theorem result_getMealsPeriodFromNeis_of_chunks {eduOffice schoolCode startDate endDate : Bytes}
    (short : daysBetween side.clock startDate endDate ≤ 7)
    (answers :
      side.body (mealsPeriodUrl eduOffice schoolCode startDate endDate) = transfer.body) :
    side.result (side.getMealsPeriodFromNeis eduOffice schoolCode startDate endDate) =
      side.readMeals (delivered transfer.chunks) := by
  rw [NeisSide.getMealsPeriodFromNeis, Neis.getMealsPeriodFromNeis, if_neg (Int.not_lt.mpr short)]
  exact result_of_chunks succeeds nonempty side isReady _ answers

end Lookups

end SchoolMeals
