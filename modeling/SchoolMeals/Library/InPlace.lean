/-
This file is a small library of formatting into the memory that is read from.
The language leaves open what happens when both are one array. A text that moves
down in its array, one byte after the other, arrives as it is. A text whose own
beginning is overwritten by what is written in front of it is gone before it is
read, and what is printed then is not defined.
-/

import SchoolMeals.Library.Buffer

namespace CText

/-- A text written over what stands at an address. -/
def writeAt (memory : Bytes) (address : Nat) (text : Bytes) : Bytes :=
  memory.take address ++ text ++ memory.drop (address + text.length)

/-- `strcpy` to the beginning of an array: what stands behind the terminator stays. -/
def strcpyInto (memory text : Bytes) : Bytes := writeAt memory 0 (text ++ [0])

/-- The conversion of the string at `source`, as long as there is room: the memory afterwards, and
the address behind the last byte that was written. -/
def convertAt : Nat → Bytes → Nat → Nat → Bytes × Nat
  | 0, memory, dest, _ => (memory, dest)
  | room + 1, memory, dest, source =>
    if memory.getD source 0 = 0 then (memory, dest)
    else convertAt room (memory.set dest (memory.getD source 0)) (dest + 1) (source + 1)

/-- `snprintf(dest, size, "%s", source)`: the string and a terminator. -/
def snprintfAt (size : Nat) (memory : Bytes) (dest source : Nat) : Bytes :=
  let converted := convertAt (size - 1) memory dest source
  converted.1.set converted.2 0

/-- `snprintf(dest, size, "…%s", source)`, where the heading is not written over the string. -/
def snprintfBehind (size : Nat) (heading memory : Bytes) (dest source : Nat) : Option Bytes :=
  if dest ≤ source ∧ source < dest + heading.length then none
  else
    let heading := heading.take (size - 1)
    some (snprintfAt (size - heading.length) (writeAt memory dest heading) (dest + heading.length)
      source)

theorem writeAt_front (front text rest : Bytes) :
    writeAt (front ++ rest) front.length text = front ++ text ++ rest.drop text.length := by
  rw [writeAt, List.take_left, ← List.drop_drop, List.drop_left]

theorem strcpyInto_eq (memory text : Bytes) :
    strcpyInto memory text = text ++ 0 :: memory.drop (text.length + 1) := by
  simp [strcpyInto, writeAt]

/-! ### Moving down -/

theorem getD_front (front rest : Bytes) (byte : UInt8) :
    (front ++ byte :: rest).getD front.length 0 = byte := by simp

theorem set_front (front rest : Bytes) (old byte : UInt8) :
    (front ++ old :: rest).set front.length byte = front ++ byte :: rest := by simp

/-- The text moves over the gap in front of it. -/
theorem convertAt_down {text : Bytes} (zeroFree : 0 ∉ text) (tail : Bytes) {room : Nat}
    (fits : text.length ≤ room) (front gap : Bytes) :
    ∃ left, left.length = gap.length ∧
      convertAt room (front ++ (gap ++ (text ++ 0 :: tail))) front.length
          (front.length + gap.length) =
        (front ++ (text ++ (left ++ 0 :: tail)), front.length + text.length) := by
  induction text generalizing room front gap with
  | nil =>
    refine ⟨gap, rfl, ?_⟩
    cases room with
    | zero => rfl
    | succ room =>
      have stop : (front ++ (gap ++ ([] ++ 0 :: tail))).getD (front.length + gap.length) 0 = 0 := by
        rw [List.nil_append, ← List.append_assoc, ← List.length_append, getD_front]
      rw [convertAt, if_pos stop]
      rfl
  | cons byte text inductionHypothesis =>
    rw [List.mem_cons, not_or] at zeroFree
    obtain ⟨room, rfl⟩ := Nat.exists_eq_add_of_lt (Nat.lt_of_lt_of_le (Nat.succ_pos _) fits)
    rw [Nat.zero_add] at fits ⊢
    have found : (front ++ (gap ++ (byte :: text ++ 0 :: tail))).getD (front.length + gap.length) 0
        = byte := by
      rw [List.cons_append, ← List.append_assoc, ← List.length_append, getD_front]
    rw [convertAt, found, if_neg (Ne.symm zeroFree.1)]
    -- the byte is written over the first one of the gap, if there is a gap
    obtain ⟨between, moved, length⟩ : ∃ between : Bytes,
        (front ++ (gap ++ (byte :: text ++ 0 :: tail))).set front.length byte =
          front ++ [byte] ++ (between ++ (text ++ 0 :: tail)) ∧ between.length = gap.length := by
      cases gap with
      | nil => exact ⟨[], by simp, rfl⟩
      | cons first gap => exact ⟨gap ++ [byte], by simp, by simp⟩
    obtain ⟨left, leftLength, converted⟩ := inductionHypothesis zeroFree.2
      (Nat.le_of_succ_le_succ fits) (front ++ [byte]) between
    refine ⟨left, leftLength.trans length, ?_⟩
    rw [moved, ← length]
    rw [List.length_append, List.length_singleton, Nat.add_right_comm] at converted
    rw [converted]
    simp [Nat.add_assoc, Nat.add_comm 1]

/-- A string that stands higher in the array is printed as it is. -/
theorem stringAt_snprintfAt_down {memory text : Bytes} {source size : Nat}
    (stands : StringAt memory source text) (fits : text.length ≤ size - 1) :
    stringAt (snprintfAt size memory 0 source) 0 = text := by
  obtain ⟨gap, tail, rfl, rfl, zeroFree⟩ := stands
  obtain ⟨left, _, converted⟩ := convertAt_down zeroFree tail fits [] gap
  have printed : snprintfAt size (gap ++ text ++ 0 :: tail) 0 gap.length =
      (text ++ (left ++ 0 :: tail)).set text.length 0 := by
    simp only [List.nil_append, List.length_nil, Nat.zero_add] at converted
    simp only [snprintfAt, List.append_assoc, converted]
  rw [printed]
  cases left with
  | nil => exact (StringAt.eq (by rw [List.nil_append, set_front]; exact stringAt_start zeroFree _))
  | cons byte left =>
    exact (StringAt.eq (by rw [List.cons_append, set_front]; exact stringAt_start zeroFree _))

/-! ### Writing over the beginning -/

theorem snprintfBehind_overwritten {size : Nat} {heading memory : Bytes} {dest source : Nat}
    (behind : dest ≤ source) (inside : source < dest + heading.length) :
    snprintfBehind size heading memory dest source = none :=
  if_pos ⟨behind, inside⟩

end CText
