/-
This file is a small library of C strings in memory. A string is an address and
the bytes from there to the first zero byte; `strtok` ends the token it returns
by writing a zero byte over the delimiter behind it, and keeps the address where
it goes on. The tokens are those of the tokeniser on texts, and they stay what
they are: later calls write behind them only, and what a caller writes into a
token does not reach the text that is still to be scanned.
-/

import SchoolMeals.Library.CText

namespace CText

/-- The string at an address. -/
def stringAt (memory : Bytes) (address : Nat) : Bytes := cString (memory.drop address)

/-- The text stands at the address, with a terminator behind it. -/
def StringAt (memory : Bytes) (address : Nat) (text : Bytes) : Prop :=
  ∃ front tail, memory = front ++ text ++ 0 :: tail ∧ front.length = address ∧ 0 ∉ text

/-- Memory that holds the text and its terminator in front of anything. -/
theorem stringAt_start {text : Bytes} (zeroFree : 0 ∉ text) (tail : Bytes) :
    StringAt (text ++ 0 :: tail) 0 text := ⟨[], tail, rfl, rfl, zeroFree⟩

theorem StringAt.drop {memory text : Bytes} {address : Nat}
    (stands : StringAt memory address text) :
    ∃ tail, memory.drop address = text ++ 0 :: tail := by
  obtain ⟨front, tail, rfl, rfl, _⟩ := stands
  exact ⟨tail, by rw [List.append_assoc, List.drop_left]⟩

theorem StringAt.eq {memory text : Bytes} {address : Nat}
    (stands : StringAt memory address text) : stringAt memory address = text := by
  obtain ⟨tail, split⟩ := stands.drop
  obtain ⟨_, _, _, _, zeroFree⟩ := stands
  rw [stringAt, split, cString_append _ zeroFree]
  simp [cString]

/-- A zero byte written behind the text leaves the text. -/
theorem StringAt.set {memory text : Bytes} {address stop : Nat}
    (stands : StringAt memory address text) (behind : address + text.length ≤ stop) :
    StringAt (memory.set stop 0) address text := by
  obtain ⟨front, tail, rfl, rfl, zeroFree⟩ := stands
  have length : (front ++ text).length ≤ stop := by
    rw [List.length_append]
    exact behind
  obtain ⟨offset, rfl⟩ := Nat.exists_eq_add_of_le length
  rw [List.set_append_right _ _ (by omega), Nat.add_sub_cancel_left]
  cases offset with
  | zero => exact ⟨front, tail, rfl, rfl, zeroFree⟩
  | succ offset => exact ⟨front, tail.set offset 0, rfl, rfl, zeroFree⟩

/-! ### The tokeniser -/

section Tokens

variable (delimiters : Bytes)

/-- One call of `strtok`: the address of the token, or `none` for the null pointer, the memory
afterwards, and the address where the next call goes on. -/
def strtokAt (memory : Bytes) (saved : Nat) : Option Nat × Bytes × Nat :=
  let text := stringAt memory saved
  let start := saved + (text.takeWhile (· ∈ delimiters)).length
  match text.dropWhile (· ∈ delimiters) with
  | [] => (none, memory, start)
  | rest =>
    let stop := start + (rest.takeWhile (· ∉ delimiters)).length
    if rest.all (· ∉ delimiters) then (some start, memory, stop)
    else (some start, memory.set stop 0, stop + 1)

variable {delimiters} {memory rest : Bytes} {saved : Nat}

/-- What a call leaves: the token stands in memory that is otherwise unchanged up to where the call
began, and whatever is written over the token, the next call goes on in the same text. -/
structure Cut (memory : Bytes) (saved : Nat) (token later : Bytes) (item : Nat) (after : Bytes)
    (next : Nat) : Prop where
  unchanged : after = memory ∨ ∃ stop, saved ≤ stop ∧ after = memory.set stop 0
  placed : ∃ front tail, after = front ++ token ++ 0 :: tail ∧ front.length = item ∧
    ∀ region : Bytes, region.length = token.length →
      StringAt (front ++ region ++ 0 :: tail) next later
  zeroFree : 0 ∉ token
  inside : item + token.length ≤ next

/-- Only delimiters are left: no token, and nothing is written. -/
theorem strtokAt_of_only (scans : StringAt memory saved rest)
    (only : ∀ byte ∈ rest, byte ∈ delimiters) :
    strtokAt delimiters memory saved = (none, memory, saved + rest.length) ∧
      StringAt memory (saved + rest.length) [] := by
  have skipped : rest.dropWhile (· ∈ delimiters) = [] :=
    List.dropWhile_eq_nil_iff.mpr (by simpa using only)
  have taken : rest.takeWhile (· ∈ delimiters) = rest :=
    List.takeWhile_eq_self_iff.mpr (by simpa using only)
  constructor
  · simp only [strtokAt, scans.eq, skipped, taken]
  · obtain ⟨front, tail, rfl, rfl, _⟩ := scans
    exact ⟨front ++ rest, tail, by simp, by simp, by simp⟩

/-- The last token of a text is found where it stands, and nothing is written. -/
theorem strtokAt_last (front tail : Bytes) {gap token : Bytes}
    (zeroFree : 0 ∉ gap ++ token) (gapDelimits : ∀ byte ∈ gap, byte ∈ delimiters)
    (isToken : IsToken delimiters token) :
    strtokAt delimiters (front ++ (gap ++ token) ++ 0 :: tail) front.length =
      (some (front.length + gap.length), front ++ (gap ++ token) ++ 0 :: tail,
        front.length + gap.length + token.length) := by
  have scans : stringAt (front ++ (gap ++ token) ++ 0 :: tail) front.length = gap ++ token :=
    StringAt.eq ⟨front, tail, rfl, rfl, zeroFree⟩
  have stops : ∀ byte ∈ ([] : Bytes).head?, byte ∈ delimiters := fun _ member => nomatch member
  obtain ⟨gapTaken, skipped⟩ := span_gap delimiters [] gapDelimits isToken
  obtain ⟨body, _⟩ := span_token delimiters isToken stops
  simp only [List.append_nil] at gapTaken skipped body
  simp only [strtokAt, scans, gapTaken, skipped]
  split
  · rename_i empty
    exact absurd empty isToken.1
  · rw [body, if_pos (by simpa using isToken.2)]

/-- What is written over the byte behind a token. -/
theorem set_behind_token (front gap token later tail : Bytes) (byte : UInt8) :
    (front ++ (gap ++ token ++ byte :: later) ++ 0 :: tail).set
        (front.length + gap.length + token.length) 0 =
      front ++ gap ++ token ++ 0 :: (later ++ 0 :: tail) := by
  have split : front ++ (gap ++ token ++ byte :: later) ++ 0 :: tail =
      (front ++ gap ++ token) ++ byte :: (later ++ 0 :: tail) := by simp
  rw [split, List.set_append_right _ _ (by simp [Nat.add_assoc])]
  simp [Nat.add_assoc]

/-- The delimiter behind a token becomes its terminator. -/
theorem strtokAt_cut (front tail : Bytes) {gap token later : Bytes} {byte : UInt8}
    (zeroFree : 0 ∉ gap ++ token ++ byte :: later) (gapDelimits : ∀ byte ∈ gap, byte ∈ delimiters)
    (isToken : IsToken delimiters token) (delimits : byte ∈ delimiters) :
    strtokAt delimiters (front ++ (gap ++ token ++ byte :: later) ++ 0 :: tail) front.length =
      (some (front.length + gap.length), front ++ gap ++ token ++ 0 :: (later ++ 0 :: tail),
        front.length + gap.length + token.length + 1) := by
  have scans : stringAt (front ++ (gap ++ token ++ byte :: later) ++ 0 :: tail) front.length =
      gap ++ token ++ byte :: later := StringAt.eq ⟨front, tail, rfl, rfl, zeroFree⟩
  have stops : ∀ other ∈ (byte :: later).head?, other ∈ delimiters := by
    rintro other ⟨⟩
    exact delimits
  obtain ⟨gapTaken, skipped⟩ := span_gap delimiters (byte :: later) gapDelimits isToken
  obtain ⟨body, _⟩ := span_token delimiters isToken stops
  have ends : ¬ (token ++ byte :: later).all (· ∉ delimiters) := by
    rw [List.all_eq_true]
    intro outside
    simpa [delimits] using outside byte (by simp)
  simp only [strtokAt, scans, gapTaken, skipped]
  split
  · rename_i empty
    exact absurd (List.append_eq_nil_iff.mp empty).1 isToken.1
  · rw [body, if_neg ends, set_behind_token]

/-- A token in front of the end of the text or of a delimiter is cut out. -/
theorem strtokAt_token {gap token later : Bytes}
    (scans : StringAt memory saved (gap ++ token ++ later))
    (gapDelimits : ∀ byte ∈ gap, byte ∈ delimiters) (isToken : IsToken delimiters token)
    (stops : ∀ byte ∈ later.head?, byte ∈ delimiters) :
    ∃ after next, strtokAt delimiters memory saved = (some (saved + gap.length), after, next) ∧
      Cut memory saved token later.tail (saved + gap.length) after next := by
  obtain ⟨front, tail, rfl, rfl, zeroFree⟩ := scans
  have tokenFree : 0 ∉ token := fun member => zeroFree (by simp [member])
  cases later with
  | nil =>
    rw [List.append_nil] at zeroFree ⊢
    refine ⟨_, _, strtokAt_last front tail zeroFree gapDelimits isToken, .inl rfl,
      ⟨front ++ gap, tail, by simp, by simp, ?_⟩, tokenFree, Nat.le_refl _⟩
    intro region length
    exact ⟨front ++ gap ++ region, tail, by simp, by simp [length, Nat.add_assoc], by simp⟩
  | cons byte later =>
    have laterFree : 0 ∉ later := fun member => zeroFree (by simp [member])
    have found := strtokAt_cut front tail zeroFree gapDelimits isToken (stops byte rfl)
    refine ⟨_, _, found, .inr ⟨_, ?_, (set_behind_token front gap token later tail byte).symm⟩,
      ⟨front ++ gap, later ++ 0 :: tail, rfl, by simp, ?_⟩, tokenFree, Nat.le_succ _⟩
    · exact Nat.le_add_right_of_le (Nat.le_add_right _ _)
    · intro region length
      exact ⟨front ++ gap ++ region ++ [0], tail, by simp, by simp [length, Nat.add_assoc],
        laterFree⟩

/-- A call in memory finds what a call on the text finds. -/
theorem strtokAt_spec (delimiters : Bytes) (scans : StringAt memory saved rest) :
    (strtok delimiters rest = (none, []) ∧ ∃ next, strtokAt delimiters memory saved =
        (none, memory, next) ∧ StringAt memory next [] ∧ saved ≤ next) ∨
      ∃ token later item after next, strtok delimiters rest = (some token, later) ∧
        strtokAt delimiters memory saved = (some item, after, next) ∧ saved ≤ item ∧
        later.length < rest.length ∧ Cut memory saved token later item after next := by
  rcases only_or_token delimiters rest with
    only | ⟨gap, token, later, rfl, gapDelimits, isToken, stops⟩
  · obtain ⟨found, stands⟩ := strtokAt_of_only scans only
    have skipped : rest.dropWhile (· ∈ delimiters) = [] :=
      List.dropWhile_eq_nil_iff.mpr (by simpa using only)
    refine .inl ⟨?_, _, found, stands, Nat.le_add_right _ _⟩
    rw [strtok, skipped]
  · obtain ⟨after, next, found, cut⟩ := strtokAt_token scans gapDelimits isToken stops
    have positive := List.length_pos_iff.mpr isToken.1
    refine .inr ⟨token, later.tail, _, after, next,
      strtok_token delimiters gap token later gapDelimits isToken stops, found,
      Nat.le_add_right _ _, ?_, cut⟩
    simp only [List.length_append, List.length_tail]
    omega

/-! ### What stays -/

/-- The token stands where it was cut out. -/
theorem Cut.stands {token later after : Bytes} {item next : Nat}
    (cut : Cut memory saved token later item after next) : StringAt after item token := by
  obtain ⟨front, tail, same, length, _⟩ := cut.placed
  exact ⟨front, tail, same, length, cut.zeroFree⟩

/-- The next call goes on in the rest of the text. -/
theorem Cut.scans {token later after : Bytes} {item next : Nat}
    (cut : Cut memory saved token later item after next) : StringAt after next later := by
  obtain ⟨front, tail, rfl, _, goesOn⟩ := cut.placed
  exact goesOn token rfl

/-- A token cut out earlier stays. -/
theorem Cut.keeps {token later after earlier : Bytes} {item next address : Nat}
    (cut : Cut memory saved token later item after next) (stands : StringAt memory address earlier)
    (before : address + earlier.length ≤ saved) : StringAt after address earlier := by
  rcases cut.unchanged with rfl | ⟨stop, behind, rfl⟩
  · exact stands
  · exact stands.set (Nat.le_trans before behind)

/-! ### One call after the other -/

/-- So many calls of `strtok` on one text: the addresses of the tokens, and the memory that the
last call leaves. -/
def strtokCalls (delimiters : Bytes) : Nat → Bytes → Nat → List (Option Nat) × Bytes
  | 0, memory, _ => ([], memory)
  | calls + 1, memory, saved =>
    let (token, memory, saved) := strtokAt delimiters memory saved
    let (tokens, memory) := strtokCalls delimiters calls memory saved
    (token :: tokens, memory)

/-- The tokens that so many calls find in a text. -/
def strtokTexts (delimiters : Bytes) : Nat → Bytes → List (Option Bytes)
  | 0, _ => []
  | calls + 1, saved =>
    let (token, saved) := strtok delimiters saved
    token :: strtokTexts delimiters calls saved

/-- After the last call, every address has the token that was found there, and what stood in front
of the text still stands there. -/
theorem strtokCalls_spec (delimiters : Bytes) (calls : Nat) (scans : StringAt memory saved rest) :
    (strtokCalls delimiters calls memory saved).1.map
        (Option.map (stringAt (strtokCalls delimiters calls memory saved).2)) =
      strtokTexts delimiters calls rest ∧
    ∀ address earlier, StringAt memory address earlier → address + earlier.length ≤ saved →
      StringAt (strtokCalls delimiters calls memory saved).2 address earlier := by
  induction calls generalizing memory saved rest with
  | zero => exact ⟨rfl, fun _ _ stands _ => stands⟩
  | succ calls inductionHypothesis =>
    simp only [strtokCalls, strtokTexts]
    rcases strtokAt_spec delimiters scans with
      ⟨nothing, next, found, ends, behind⟩ |
      ⟨token, later, item, after, next, isToken, found, inside, _, cut⟩
    · obtain ⟨tokens, stays⟩ := inductionHypothesis ends
      rw [nothing, found]
      exact ⟨congrArg (none :: ·) tokens, fun address earlier stands before =>
        stays address earlier stands (Nat.le_trans before behind)⟩
    · obtain ⟨tokens, stays⟩ := inductionHypothesis cut.scans
      have reads := (stays item token cut.stands cut.inside).eq
      have forward : saved ≤ next :=
        Nat.le_trans inside (Nat.le_trans (Nat.le_add_right item token.length) cut.inside)
      rw [isToken, found]
      refine ⟨?_, fun address earlier stands before =>
        stays address earlier (cut.keeps stands before) (Nat.le_trans before forward)⟩
      rw [List.map_cons, Option.map_some, reads, tokens]

end Tokens

/-! ### Strings that are written to -/

/-- `strlen`. -/
def strlen (memory : Bytes) (address : Nat) : Nat := (stringAt memory address).length

/-- `strchr`: the address of the first such byte of the string. -/
def strchr (memory : Bytes) (address : Nat) (byte : UInt8) : Option Nat :=
  let text := stringAt memory address
  if byte ∈ text then some (address + (text.takeWhile (· ≠ byte)).length) else none

/-- `strcat` into an array of some size, undefined when text and terminator do not fit. -/
def strcat (size : Nat) (dest source : Bytes) : Option Bytes :=
  if dest.length + source.length < size then some (dest ++ source) else none

theorem strcat_eq_some_iff {size : Nat} {dest source text : Bytes} :
    strcat size dest source = some text ↔
      dest.length + source.length < size ∧ dest ++ source = text := by
  unfold strcat
  split <;> simp [*]

theorem isSome_strcat {size : Nat} {dest source : Bytes} :
    (strcat size dest source).isSome = true ↔ dest.length + source.length < size := by
  unfold strcat
  split <;> simp [*]

theorem strcat_of_fits {size : Nat} {dest source : Bytes}
    (fits : dest.length + source.length < size) : strcat size dest source = some (dest ++ source) :=
  if_pos fits

/-- Two texts after each other fit as one. -/
theorem strcat_strcat (size : Nat) (dest first second : Bytes) :
    (strcat size dest first >>= fun dest => strcat size dest second) =
      strcat size dest (first ++ second) := by
  ext text
  simp only [Option.bind_eq_bind, Option.bind_eq_some_iff, strcat_eq_some_iff, List.length_append]
  constructor
  · rintro ⟨middle, ⟨_, rfl⟩, fits, rfl⟩
    rw [List.length_append] at fits
    exact ⟨by omega, (List.append_assoc _ _ _).symm⟩
  · rintro ⟨fits, rfl⟩
    exact ⟨dest ++ first, ⟨by omega, rfl⟩, by rw [List.length_append]; omega,
      List.append_assoc _ _ _⟩

end CText
