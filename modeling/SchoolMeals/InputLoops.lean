/-
This file is about the loops of the client that ask again until an answer is
well formed. None of them looks for the end of the input. Each ends exactly when
one of the texts that it is given is well formed, or when the input is empty
from the beginning and its buffer happens to hold such a text; in every other
case it goes on asking behind the last text, for ever.
-/

import SchoolMeals.Library.Retry
import SchoolMeals.LoginMenu
import SchoolMeals.Offices

namespace SchoolMeals

open CText Lines Retry

/-! ### The loops -/

/-- `while (1)` around `safe_input`, for so many rounds: the text it accepts and the bytes left to
read. -/
def inputUntil (accepts : Bytes → Bool) (size : Nat) : Nat → Bytes → Bytes → Option (Bytes × Bytes)
  | 0, _, _ => none
  | rounds + 1, buffer, stdin =>
    let (text, stdin) := safeInput buffer size stdin
    if accepts text then some (text, stdin) else inputUntil accepts size rounds text stdin

/-- `get_id_input`. -/
def getIdInput (size rounds : Nat) (id stdin : Bytes) : Option (Bytes × Bytes) :=
  inputUntil isValidId size rounds id stdin

/-- `get_password_input`. -/
def getPasswordInput (size rounds : Nat) (password stdin : Bytes) : Option (Bytes × Bytes) :=
  inputUntil isValidPassword size rounds password stdin

/-- `get_edu_office_input`. -/
def getEduOfficeInput (size rounds : Nat) (eduOffice stdin : Bytes) : Option (Bytes × Bytes) :=
  inputUntil (fun eduOffice => (getEduOfficeCode eduOffice).isSome) size rounds eduOffice stdin

/-- `get_school_input`. -/
def getSchoolInput (size rounds : Nat) (school stdin : Bytes) : Option (Bytes × Bytes) :=
  inputUntil (fun school => 2 ≤ school.length) size rounds school stdin

/-- What a loop of `handle_login_menu_input` accepts. -/
def menuInput (accepts : Bytes → Bool) (size rounds : Nat) (array stdin : Bytes) :
    Option (Bytes × Bytes) :=
  (promptUntil accepts size rounds array stdin).2.map fun prompt => (prompt.text, prompt.stdin)

/-- A size that `fgets` takes as it is. -/
structure BufferSize where
  size : Nat
  fits : FitsInt size

/-- The six loops; the caller of a function passes the size of its buffer. -/
inductive InputLoop where
  | idInput (buffer : BufferSize)
  | passwordInput (buffer : BufferSize)
  | eduOfficeInput (buffer : BufferSize)
  | schoolInput (buffer : BufferSize)
  | menuId
  | menuPassword

def InputLoop.run : InputLoop → Nat → Bytes → Bytes → Option (Bytes × Bytes)
  | idInput buffer => getIdInput buffer.size
  | passwordInput buffer => getPasswordInput buffer.size
  | eduOfficeInput buffer => getEduOfficeInput buffer.size
  | schoolInput buffer => getSchoolInput buffer.size
  | menuId => menuInput isValidId maxIdLen
  | menuPassword => menuInput isValidPassword maxPwLen

/-! ### What is typed -/

/-- The texts that `safe_input` stores of the lines, one for each of them. A zero byte in a line
that is stored as a whole hides its newline, and then the line behind it is thrown away. -/
def safeTexts (size : Nat) : Bool → List Bytes → List Bytes
  | _, [] => []
  | true, _ :: lines => safeTexts size false lines
  | false, line :: lines =>
    cString (kept 10 size line) :: safeTexts size (0 ∈ line ∧ line.length < size) lines

/-- The texts that `fgets` stores in an array, without their newlines. -/
def promptTexts (size : Nat) (stdin : Bytes) : List Bytes :=
  (pieces 10 (size - 1) (size - 1) stdin).map fun piece => (cString piece).takeWhile (· ≠ 10)

def InputLoop.accepts : InputLoop → Bytes → Bool
  | idInput _ => isValidId
  | passwordInput _ => isValidPassword
  | eduOfficeInput _ => fun eduOffice => (getEduOfficeCode eduOffice).isSome
  | schoolInput _ => fun school => 2 ≤ school.length
  | menuId => isValidId
  | menuPassword => isValidPassword

/-- What a loop checks when there is nothing to read: `strcspn` still cuts the array. -/
def InputLoop.keeps : InputLoop → Bytes → Bytes
  | menuId, array | menuPassword, array => array.takeWhile (· ≠ 10)
  | _, buffer => buffer

/-- The texts that a loop gets to see, as long as it goes on. -/
def InputLoop.texts : InputLoop → Bytes → List Bytes
  | idInput buffer, stdin | passwordInput buffer, stdin | eduOfficeInput buffer, stdin
  | schoolInput buffer, stdin => safeTexts buffer.size false (lines 10 stdin)
  | menuId, stdin => promptTexts maxIdLen stdin
  | menuPassword, stdin => promptTexts maxPwLen stdin

/-! ### `safe_input` as a reader -/

def safeReader (size : Nat) : Reader Bytes Bytes where
  next stdin := if stdin = [] then none else some (safeInput [] size stdin)
  keep buffer := buffer
  keep_keep _ := rfl
  keep_next _ := rfl

section SafeInput

variable {size : Nat}

theorem safeInput_nothing (fits : FitsInt size) (buffer : Bytes) :
    safeInput buffer size [] = (buffer, []) := by
  rw [safeInput, fgetsInt_of_fitsInt fits]
  rfl

theorem safeReader_read (fits : FitsInt size) (buffer stdin : Bytes) :
    (safeReader size).read buffer stdin = safeInput buffer size stdin := by
  by_cases nothing : stdin = []
  · subst nothing
    rw [safeInput_nothing fits]
    exact Reader.read_end rfl
  · have reads : (safeReader size).next stdin = some (safeInput [] size stdin) := if_neg nothing
    have same : safeInput buffer size stdin = safeInput [] size stdin := by
      rw [safeInput, safeInput, fgetsInt_of_fitsInt fits, fgets, if_neg nothing]
    rw [same]
    exact Reader.read_some reads

theorem inputUntil_eq (fits : FitsInt size) (accepts : Bytes → Bool) (rounds : Nat)
    (buffer stdin : Bytes) :
    inputUntil accepts size rounds buffer stdin =
      (safeReader size).readUntil accepts rounds buffer stdin := by
  induction rounds generalizing buffer stdin with
  | zero => rfl
  | succ rounds inductionHypothesis =>
    rw [inputUntil, Reader.readUntil, safeReader_read fits]
    simp only [inductionHypothesis]

theorem lines_clearInputBuffer (stdin : Bytes) :
    lines 10 (clearInputBuffer stdin) = (lines 10 stdin).tail := by
  by_cases newline : 10 ∈ stdin
  · obtain ⟨content, rest, rfl, plain⟩ := List.eq_append_cons_of_mem newline
    rw [clearInputBuffer_line plain, lines_append plain]
    rfl
  · rw [clearInputBuffer_end newline]
    by_cases nothing : stdin = []
    · rw [nothing]
      rfl
    · rw [lines_plain newline nothing]
      rfl

theorem safeTexts_skip (lines : List Bytes) :
    safeTexts size true lines = safeTexts size false lines.tail := by
  cases lines <;> rfl

theorem safeTexts_line {content : Bytes} (newlineFree : 10 ∉ content) (rest : Bytes) :
    safeTexts size false (lines 10 (content ++ 10 :: rest)) =
      cString (content.take (size - 1)) ::
        safeTexts size false (lines 10
          (if 0 ∈ content ∧ content.length < size - 1 then clearInputBuffer rest else rest)) := by
  have hidden : (0 ∈ content ++ [10] ∧ (content ++ [10]).length < size) ↔
      0 ∈ content ∧ content.length < size - 1 := by
    rw [List.length_append, List.length_singleton, Nat.lt_sub_iff_add_lt]
    simp
  rw [lines_append newlineFree, safeTexts, kept, takeWhile_append newlineFree]
  simp only [hidden]
  split
  · rename_i hides
    rw [decide_eq_true hides, safeTexts_skip, lines_clearInputBuffer]
  · rename_i shows
    rw [decide_eq_false shows]

theorem safeTexts_end {content : Bytes} (newlineFree : 10 ∉ content) (nonempty : content ≠ []) :
    safeTexts size false (lines 10 content) = [cString (content.take (size - 1))] := by
  rw [lines_plain newlineFree nonempty, safeTexts, kept, takeWhile_plain newlineFree]
  cases decide (0 ∈ content ∧ content.length < size) <;> rfl

theorem length_clearInputBuffer (stdin : Bytes) : (clearInputBuffer stdin).length ≤ stdin.length :=
  (List.tail_sublist _).length_le.trans (List.dropWhile_suffix _).length_le

/-- The calls of `safe_input` are given these texts, one by one. -/
theorem gives_safeTexts (fits : FitsInt size) (stdin : Bytes) :
    (safeReader size).Gives stdin (safeTexts size false (lines 10 stdin)) := by
  induction left : stdin.length using Nat.strongRecOn generalizing stdin with
  | ind left inductionHypothesis =>
    by_cases nothing : stdin = []
    · subst nothing
      exact .nothing rfl
    have reads : (safeReader size).next stdin = some (safeInput [] size stdin) := if_neg nothing
    by_cases newline : 10 ∈ stdin
    · obtain ⟨content, rest, rfl, plain⟩ := List.eq_append_cons_of_mem newline
      rw [safeInput_newline fits plain] at reads
      rw [safeTexts_line plain]
      refine .text reads (inductionHypothesis _ ?_ _ rfl)
      have shorter := length_clearInputBuffer rest
      rw [← left, List.length_append, List.length_cons]
      split <;> omega
    · rw [safeInput_end fits newline nothing] at reads
      rw [safeTexts_end newline nothing]
      exact .text reads (.nothing rfl)

end SafeInput

/-! ### A prompt as a reader -/

def promptReader (size : Nat) : Reader Bytes Bytes where
  next stdin :=
    if stdin = [] then none
    else some ((promptFor [] size stdin).text, (promptFor [] size stdin).stdin)
  keep array := array.takeWhile (· ≠ 10)
  keep_keep _ := List.takeWhile_idem
  keep_next := by
    intro stdin text rest found
    split at found
    · cases found
    · rename_i nonempty
      cases found
      rw [promptFor_of_nonempty nonempty]
      exact List.takeWhile_idem

theorem promptReader_read (array : Bytes) (size : Nat) (stdin : Bytes) :
    (promptReader size).read array stdin =
      ((promptFor array size stdin).text, (promptFor array size stdin).stdin) := by
  by_cases nothing : stdin = []
  · subst nothing
    exact Reader.read_end rfl
  · have reads : (promptReader size).next stdin =
      some ((promptFor [] size stdin).text, (promptFor [] size stdin).stdin) := if_neg nothing
    rw [Reader.read_some reads, promptFor_of_nonempty nothing, promptFor_of_nonempty nothing]

theorem menuInput_eq (accepts : Bytes → Bool) (size rounds : Nat) (array stdin : Bytes) :
    menuInput accepts size rounds array stdin =
      (promptReader size).readUntil accepts rounds array stdin := by
  induction rounds generalizing array stdin with
  | zero => rfl
  | succ rounds inductionHypothesis =>
    have reads := promptReader_read array size stdin
    cases answer : accepts (promptFor array size stdin).text with
    | true =>
      rw [menuInput, promptUntil_accepted rounds answer,
        Reader.readUntil_accepted rounds (by rw [reads]; exact answer), reads]
      rfl
    | false =>
      rw [menuInput, promptUntil_refused rounds answer,
        Reader.readUntil_refused rounds (by rw [reads]; exact answer), reads]
      exact inductionHypothesis _ _

/-- The calls of `fgets` are given these texts, one by one. -/
theorem gives_promptTexts {size : Nat} (room : 2 ≤ size) (stdin : Bytes) :
    (promptReader size).Gives stdin (promptTexts size stdin) := by
  induction left : stdin.length using Nat.strongRecOn generalizing stdin with
  | ind left inductionHypothesis =>
    by_cases nothing : stdin = []
    · subst nothing
      exact .nothing rfl
    have reads : (promptReader size).next stdin =
      some ((promptFor [] size stdin).text, (promptFor [] size stdin).stdin) := if_neg nothing
    have roomLeft : 0 < size - 1 := Nat.sub_pos_of_lt room
    have some : 0 < stdin.length := List.length_pos_of_ne_nil nothing
    rw [promptFor_of_nonempty nothing] at reads
    rw [promptTexts, pieces_eq 10 _ roomLeft nothing]
    refine .text reads (inductionHypothesis _ ?_ _ rfl)
    rw [List.length_drop]
    omega

/-! ### When the loops end -/

section Ends

variable (accepts : Bytes → Bool) {size : Nat} (buffer stdin : Bytes)

theorem inputUntil_ends_iff (fits : FitsInt size) :
    Ends (fun rounds => inputUntil accepts size rounds buffer stdin) ↔
      (stdin = [] ∧ accepts buffer = true) ∨
        ∃ text ∈ safeTexts size false (lines 10 stdin), accepts text = true := by
  have atEnd : (safeReader size).next stdin = none ↔ stdin = [] := ite_eq_left_iff.trans (by simp)
  simp only [inputUntil_eq fits]
  rw [Reader.ends_iff (gives_safeTexts fits stdin), atEnd]
  rfl

theorem menuInput_ends_iff (room : 2 ≤ size) :
    Ends (fun rounds => menuInput accepts size rounds buffer stdin) ↔
      (stdin = [] ∧ accepts (buffer.takeWhile (· ≠ 10)) = true) ∨
        ∃ text ∈ promptTexts size stdin, accepts text = true := by
  have atEnd : (promptReader size).next stdin = none ↔ stdin = [] :=
    ite_eq_left_iff.trans (by simp)
  simp only [menuInput_eq]
  rw [Reader.ends_iff (gives_promptTexts room stdin), atEnd]
  rfl

end Ends

/-- Whatever is in the buffer and whatever is typed, a loop ends exactly when it is given a
well-formed text, or finds one in its buffer while there is nothing to be given. -/
theorem inputLoop_ends_iff (loop : InputLoop) (buffer stdin : Bytes) :
    Ends (fun rounds => loop.run rounds buffer stdin) ↔
      (stdin = [] ∧ loop.accepts (loop.keeps buffer) = true) ∨
        ∃ text ∈ loop.texts stdin, loop.accepts text = true := by
  cases loop with
  | idInput array | passwordInput array | eduOfficeInput array | schoolInput array =>
    exact inputUntil_ends_iff _ buffer stdin array.fits
  | menuId => exact menuInput_ends_iff isValidId buffer stdin (by decide)
  | menuPassword => exact menuInput_ends_iff isValidPassword buffer stdin (by decide)

/-- An id that is too short, and nothing behind it. -/
theorem not_ends_shortId :
    ¬ Ends fun rounds =>
      InputLoop.run (.idInput ⟨20, by decide, by decide⟩) rounds [] (utf8 "ab\n") := fun ends =>
  absurd ((inputUntil_ends_iff isValidId [] (utf8 "ab\n") ⟨by decide, by decide⟩).mp ends)
    (by decide)

/-- A registration whose id is never well formed never gets to the server. -/
theorem passed_of_endless {arrays : Arrays} {stdin : Bytes}
    (endless : ¬ Ends fun rounds => InputLoop.run .menuId rounds arrays.id stdin) (rounds : Nat) :
    (handleLoginMenuInput rounds 2 arrays stdin).passed = none := by
  rw [handleLoginMenuInput]
  rcases found : promptUntil isValidId maxIdLen rounds arrays.id stdin with ⟨ids, none | id⟩
  · rfl
  · refine absurd ⟨rounds, (id.text, id.stdin), ?_⟩ endless
    show menuInput isValidId maxIdLen rounds arrays.id stdin = _
    rw [menuInput, found]
    rfl

end SchoolMeals
