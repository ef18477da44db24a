/-
This file is a small library of UTF-8. A text is valid when it is the encoding of
some characters. A character is encoded in bytes of which only the first can
begin one, and in a single byte when that byte is ASCII; so a valid text falls
into two valid texts in front of a first byte, and behind an ASCII byte.
-/

import Mathlib.Data.List.DropRight
import SchoolMeals.Library.CText

namespace CText

/-- The text encodes some characters. -/
def IsUtf8 (text : Bytes) : Prop := ∃ chars : List Char, text = chars.flatMap String.utf8EncodeChar

theorem isUtf8_iff (text : Bytes) : IsUtf8 text ↔ text.toByteArray.IsValidUTF8 := by
  constructor
  · rintro ⟨chars, rfl⟩
    exact ⟨chars, rfl⟩
  · rintro ⟨chars, encoded⟩
    exact ⟨chars, List.toByteArray_inj.mp encoded⟩

instance (text : Bytes) : Decidable (IsUtf8 text) := decidable_of_iff _ (isUtf8_iff text).symm

theorem isUtf8_nil : IsUtf8 [] := ⟨[], rfl⟩

theorem isUtf8_utf8 (literal : String) : IsUtf8 (utf8 literal) := by
  obtain ⟨chars, rfl⟩ := String.exists_eq_ofList literal
  refine ⟨chars, ?_⟩
  simp [utf8, List.utf8Encode]

namespace IsUtf8

theorem append {text rest : Bytes} (valid : IsUtf8 text) (validRest : IsUtf8 rest) :
    IsUtf8 (text ++ rest) := by
  obtain ⟨chars, rfl⟩ := valid
  obtain ⟨more, rfl⟩ := validRest
  exact ⟨chars ++ more, List.flatMap_append.symm⟩

/-- An ASCII byte is a character. -/
theorem cons {byte : UInt8} (ascii : byte < 128) {rest : Bytes} (valid : IsUtf8 rest) :
    IsUtf8 (byte :: rest) := by
  have all : ∀ value : Fin 128, String.utf8EncodeChar (Char.ofNat value.val) =
      [UInt8.ofNat value.val] := by decide
  have same := all ⟨byte.toNat, ascii⟩
  rw [UInt8.ofNat_toNat] at same
  obtain ⟨chars, rfl⟩ := valid
  exact ⟨Char.ofNat byte.toNat :: chars, by rw [List.flatMap_cons, same]; rfl⟩

theorem flatMap {Item : Type} {items : List Item} {text : Item → Bytes}
    (valid : ∀ item ∈ items, IsUtf8 (text item)) : IsUtf8 (items.flatMap text) := by
  induction items with
  | nil => exact isUtf8_nil
  | cons item items inductionHypothesis =>
    rw [List.flatMap_cons]
    exact (valid item List.mem_cons_self).append
      (inductionHypothesis fun other member => valid other (List.mem_cons_of_mem _ member))

end IsUtf8

/-! ### One character -/

theorem isUTF8FirstByte_of_ascii {byte : UInt8} (ascii : byte < 128) : byte.IsUTF8FirstByte := by
  have all : ∀ value : Fin 128, UInt8.ofNat value.val &&& 0x80 = 0 := by decide
  have small : byte.toNat < 128 := ascii
  have same := all ⟨byte.toNat, small⟩
  rw [UInt8.ofNat_toNat] at same
  exact Or.inl same

/-- No byte of a longer encoding is ASCII. -/
theorem not_ascii_or (byte : UInt8) {mark : UInt8} (high : 128 ≤ mark.toNat) :
    ¬ byte ||| mark < 128 := by
  intro ascii
  have small : (byte ||| mark).toNat < 128 := ascii
  rw [UInt8.toNat_or] at small
  exact absurd (high.trans Nat.right_le_or) (Nat.not_le.mpr small)

/-- A character with an ASCII byte in its encoding is that byte. -/
theorem utf8EncodeChar_of_ascii {char : Char} {byte : UInt8}
    (member : byte ∈ String.utf8EncodeChar char) (ascii : byte < 128) :
    String.utf8EncodeChar char = [byte] := by
  rcases char.utf8Size_eq with one | two | three | four
  · rw [String.utf8EncodeChar_eq_singleton one] at member ⊢
    rw [List.mem_singleton.mp member]
  · rw [String.utf8EncodeChar_eq_cons_cons two] at member
    simp only [List.mem_cons, List.not_mem_nil, or_false] at member
    rcases member with rfl | rfl <;> exact absurd ascii (not_ascii_or _ (by decide))
  · rw [String.utf8EncodeChar_eq_cons_cons_cons three] at member
    simp only [List.mem_cons, List.not_mem_nil, or_false] at member
    rcases member with rfl | rfl | rfl <;> exact absurd ascii (not_ascii_or _ (by decide))
  · rw [String.utf8EncodeChar_eq_cons_cons_cons_cons four] at member
    simp only [List.mem_cons, List.not_mem_nil, or_false] at member
    rcases member with rfl | rfl | rfl | rfl <;>
      exact absurd ascii (not_ascii_or _ (by decide))

/-- A split inside a character is not in front of a first byte. -/
theorem split_utf8EncodeChar {char : Char} {front behind : Bytes} {byte : UInt8}
    (split : String.utf8EncodeChar char = front ++ byte :: behind) (first : byte.IsUTF8FirstByte) :
    front = [] := by
  have inside : front.length < (String.utf8EncodeChar char).length := by
    rw [split, List.length_append, List.length_cons]
    omega
  have isByte : (String.utf8EncodeChar char)[front.length] = byte := by simp [split]
  rw [← isByte, UInt8.isUTF8FirstByte_getElem_utf8EncodeChar] at first
  exact List.eq_nil_of_length_eq_zero first

/-! ### Where a valid text falls apart -/

namespace IsUtf8

/-- In front of a byte that can begin a character. -/
theorem split {front behind : Bytes} {byte : UInt8} (valid : IsUtf8 (front ++ byte :: behind))
    (first : byte.IsUTF8FirstByte) : IsUtf8 front ∧ IsUtf8 (byte :: behind) := by
  obtain ⟨chars, encoded⟩ := valid
  induction chars generalizing front with
  | nil => simp at encoded
  | cons char chars inductionHypothesis =>
    rw [List.flatMap_cons, List.append_eq_append_iff] at encoded
    obtain ⟨middle, isChar, isRest⟩ | ⟨middle, isFront, isRest⟩ := encoded
    · cases middle with
      | nil =>
        rw [List.append_nil] at isChar
        exact ⟨⟨[char], by simp [isChar]⟩, ⟨chars, isRest⟩⟩
      | cons start middle =>
        obtain ⟨rfl, isBehind⟩ := List.cons.inj isRest
        obtain rfl := split_utf8EncodeChar isChar first
        exact ⟨isUtf8_nil, ⟨char :: chars, by simp [isChar, isBehind]⟩⟩
    · obtain ⟨validMiddle, validBehind⟩ := inductionHypothesis isRest.symm
      rw [isFront]
      exact ⟨IsUtf8.append ⟨[char], by simp⟩ validMiddle, validBehind⟩

/-- An ASCII byte is a character of its own. -/
theorem tail {byte : UInt8} {behind : Bytes} (valid : IsUtf8 (byte :: behind))
    (ascii : byte < 128) : IsUtf8 behind := by
  obtain ⟨chars, encoded⟩ := valid
  cases chars with
  | nil => cases encoded
  | cons char chars =>
    rw [List.flatMap_cons] at encoded
    have member : byte ∈ String.utf8EncodeChar char := by
      cases encoding : String.utf8EncodeChar char with
      | nil => exact absurd encoding String.utf8EncodeChar_ne_nil
      | cons head rest =>
        rw [encoding, List.cons_append] at encoded
        rw [(List.cons.inj encoded).1]
        exact List.mem_cons_self
    rw [utf8EncodeChar_of_ascii member ascii] at encoded
    exact ⟨chars, (List.cons.inj encoded).2⟩

/-- On both sides of an ASCII byte. -/
theorem split_ascii {front behind : Bytes} {byte : UInt8} (valid : IsUtf8 (front ++ byte :: behind))
    (ascii : byte < 128) : IsUtf8 front ∧ IsUtf8 behind := by
  obtain ⟨validFront, validBehind⟩ := valid.split (isUTF8FirstByte_of_ascii ascii)
  exact ⟨validFront, validBehind.tail ascii⟩

theorem split_ascii_iff {front behind : Bytes} {byte : UInt8} (ascii : byte < 128)
    (validByte : IsUtf8 [byte]) :
    IsUtf8 (front ++ byte :: behind) ↔ IsUtf8 front ∧ IsUtf8 behind := by
  refine ⟨fun valid => valid.split_ascii ascii, fun valid => ?_⟩
  exact valid.1.append (validByte.append valid.2)

/-- Around a text that begins with a first byte and ends with an ASCII byte. -/
theorem around_iff {front word behind : Bytes} {first last : UInt8}
    (isWord : ∃ middle, word = first :: middle ++ [last]) (isFirst : first.IsUTF8FirstByte)
    (ascii : last < 128) (valid : IsUtf8 word) :
    IsUtf8 (front ++ (word ++ behind)) ↔ IsUtf8 front ∧ IsUtf8 behind := by
  refine ⟨fun whole => ?_, fun parts => parts.1.append (valid.append parts.2)⟩
  obtain ⟨middle, rfl⟩ := isWord
  rw [List.cons_append, List.cons_append, List.append_assoc, List.singleton_append] at whole
  obtain ⟨validFront, validRest⟩ := whole.split isFirst
  rw [← List.cons_append] at validRest
  exact ⟨validFront, (validRest.split_ascii ascii).2⟩

/-! ### Pieces between ASCII bytes -/

/-- A text without a byte, or cut at the first such byte. -/
theorem takeWhile_ne {text : Bytes} (valid : IsUtf8 text) {byte : UInt8} (ascii : byte < 128) :
    IsUtf8 (text.takeWhile (· ≠ byte)) := by
  by_cases member : byte ∈ text
  · obtain ⟨rest, split⟩ := cut_at_byte member
    rw [split] at valid
    exact (valid.split_ascii ascii).1
  · rwa [List.takeWhile_eq_self_iff.mpr fun other inside =>
      decide_eq_true (ne_of_mem_of_not_mem inside member)]

theorem dropWhile_eq {text : Bytes} (valid : IsUtf8 text) {byte : UInt8} (ascii : byte < 128) :
    IsUtf8 (text.dropWhile (· = byte)) := by
  induction text with
  | nil => exact valid
  | cons first text inductionHypothesis =>
    by_cases same : first = byte
    · rw [List.dropWhile_cons_of_pos (by simpa using same)]
      exact inductionHypothesis (valid.tail (same ▸ ascii))
    · rwa [List.dropWhile_cons_of_neg (by simpa using same)]

theorem rdropWhile_eq {text : Bytes} (valid : IsUtf8 text) {byte : UInt8} (ascii : byte < 128) :
    IsUtf8 (text.rdropWhile (· = byte)) := by
  induction text using List.reverseRecOn with
  | nil => exact valid
  | append_singleton text last inductionHypothesis =>
    by_cases same : last = byte
    · rw [List.rdropWhile_concat_pos _ _ _ (by simpa using same)]
      exact inductionHypothesis (valid.split_ascii (same ▸ ascii)).1
    · rwa [List.rdropWhile_concat_neg _ _ _ (by simpa using same)]

theorem behind_gap {gap text : Bytes} (ascii : ∀ byte ∈ gap, byte < 128)
    (valid : IsUtf8 (gap ++ text)) : IsUtf8 text := by
  induction gap with
  | nil => exact valid
  | cons byte gap inductionHypothesis =>
    exact inductionHypothesis (fun other member => ascii other (List.mem_cons_of_mem _ member))
      (valid.tail (ascii byte List.mem_cons_self))

/-- What stands between ASCII delimiters. -/
theorem of_mem_fields {delimiters text : Bytes} (ascii : ∀ byte ∈ delimiters, byte < 128)
    (valid : IsUtf8 text) : ∀ field ∈ fields delimiters text, IsUtf8 field := by
  induction length : text.length using Nat.strongRecOn generalizing text with
  | ind size inductionHypothesis =>
    subst length
    rcases only_or_token delimiters text with
      only | ⟨gap, token, rest, rfl, gapDelimits, isToken, stops⟩
    · rw [← List.append_nil text, fields_gap [] only]
      exact fun field member => absurd member List.not_mem_nil
    · rw [List.append_assoc] at valid ⊢
      have validBehind := valid.behind_gap fun byte member => ascii byte (gapDelimits byte member)
      rw [fields_gap _ gapDelimits, fields_token rest isToken stops]
      cases rest with
      | nil =>
        rw [List.append_nil] at validBehind
        exact List.forall_mem_cons.mpr
          ⟨validBehind, fun field member => absurd member List.not_mem_nil⟩
      | cons byte rest =>
        have delimits := stops byte rfl
        obtain ⟨validToken, validRest⟩ := validBehind.split_ascii (ascii byte delimits)
        rw [fields_delimiter rest delimits]
        refine List.forall_mem_cons.mpr
          ⟨validToken, inductionHypothesis rest.length ?_ validRest rfl⟩
        simp only [List.length_append, List.length_cons]
        omega

end IsUtf8

end CText
