/-
This file models the dialogues of `handle_login_menu_input`, which read each
answer with `fgets` into an array of its own and ask again for an id or a
password that is not well formed. What a line has beyond its array stays in
`stdin` and is read as the next answer, so the answers keep to their lines
exactly when every line fits together with its newline. `safe_input` throws the
rest of a line away and keeps to the lines always.
-/

import SchoolMeals.PeriodInput

namespace SchoolMeals

open CText Lines

/-! ### The dialogues -/

/-- A prompt that was answered: the size of its array, the string in it and the bytes left to
read. -/
structure Prompt where
  size : Nat
  text : Bytes
  stdin : Bytes

/-- `fgets(array, size, stdin)` and `array[strcspn(array, "\n")] = 0`. At the end of the input the
array holds what it held before. -/
def promptFor (array : Bytes) (size : Nat) (stdin : Bytes) : Prompt :=
  match fgets size stdin with
  | none => ⟨size, array.takeWhile (· ≠ 10), stdin⟩
  | some (stored, rest) => ⟨size, (cString stored).takeWhile (· ≠ 10), rest⟩

/-- The prompts of `while (1)` within so many rounds, and the one whose answer ended it. -/
def promptUntil (accepts : Bytes → Bool) (size : Nat) : Nat → Bytes → Bytes →
    List Prompt × Option Prompt
  | 0, _, _ => ([], none)
  | rounds + 1, array, stdin =>
    let prompt := promptFor array size stdin
    if accepts prompt.text then ([prompt], some prompt)
    else
      let (later, last) := promptUntil accepts size rounds prompt.text prompt.stdin
      (prompt :: later, last)

/-- What the arrays on the stack hold before anything is read into them. -/
structure Arrays where
  id : Bytes
  pw : Bytes
  eduOffice : Bytes
  schoolName : Bytes

/-- The handler that a dialogue calls with its answers. -/
inductive MenuCall where
  | login (id pw : Bytes)
  | register (id pw eduOffice schoolName : Bytes)

def MenuCall.fields : MenuCall → List Bytes
  | login id pw => [id, pw]
  | register id pw eduOffice schoolName => [id, pw, eduOffice, schoolName]

/-- The prompts of a dialogue, and the call at its end if it got there. -/
structure Dialogue where
  prompts : List Prompt
  passed : Option MenuCall

/-- `handle_login_menu_input`, with so many rounds for each of its loops. -/
def handleLoginMenuInput (rounds : Nat) (choice : Int) (arrays : Arrays) (stdin : Bytes) :
    Dialogue :=
  match choice with
  | 1 =>
    let id := promptFor arrays.id maxIdLen stdin
    let pw := promptFor arrays.pw maxPwLen id.stdin
    ⟨[id, pw], some (.login id.text pw.text)⟩
  | 2 =>
    match promptUntil isValidId maxIdLen rounds arrays.id stdin with
    | (ids, none) => ⟨ids, none⟩
    | (ids, some id) =>
      match promptUntil isValidPassword maxPwLen rounds arrays.pw id.stdin with
      | (pws, none) => ⟨ids ++ pws, none⟩
      | (pws, some pw) =>
        let eduOffice := promptFor arrays.eduOffice maxEduOfficeLen pw.stdin
        let schoolName := promptFor arrays.schoolName maxSchoolNameLen eduOffice.stdin
        ⟨ids ++ pws ++ [eduOffice, schoolName],
          some (.register id.text pw.text eduOffice.text schoolName.text)⟩
  | _ => ⟨[], none⟩

/-! ### Prompts and lines -/

/-- A prompt takes one line: it keeps what its array has room for, and leaves the lines behind. -/
def Prompt.Takes (prompt : Prompt) (line : Bytes) (rest : List Bytes) : Prop :=
  prompt.text = kept 10 prompt.size line ∧ lines 10 prompt.stdin = rest

/-- The prompts take the lines one by one. -/
def Successive : List Prompt → List Bytes → Prop
  | [], _ => True
  | _ :: _, [] => False
  | prompt :: prompts, line :: rest => prompt.Takes line rest ∧ Successive prompts rest

instance (prompt : Prompt) (line : Bytes) (rest : List Bytes) :
    Decidable (prompt.Takes line rest) :=
  inferInstanceAs (Decidable (_ ∧ _))

instance instDecidableSuccessive : (prompts : List Prompt) → (lines : List Bytes) →
    Decidable (Successive prompts lines)
  | [], _ => isTrue trivial
  | _ :: _, [] => isFalse id
  | prompt :: prompts, line :: rest =>
    have := instDecidableSuccessive prompts rest
    inferInstanceAs (Decidable (prompt.Takes line rest ∧ Successive prompts rest))

theorem successive_append (earlier later : List Prompt) (lines : List Bytes) :
    Successive (earlier ++ later) lines ↔
      Successive earlier lines ∧ Successive later (lines.drop earlier.length) := by
  induction earlier generalizing lines with
  | nil => simp [Successive]
  | cons prompt earlier inductionHypothesis =>
    cases lines with
    | nil => simp [Successive]
    | cons line lines =>
      rw [List.cons_append, Successive, Successive, inductionHypothesis, and_assoc]
      rfl

section Prompts

variable {stdin line : Bytes} {rest : List Bytes}

theorem size_promptFor (array : Bytes) (size : Nat) (stdin : Bytes) :
    (promptFor array size stdin).size = size := by
  rw [promptFor]
  split <;> rfl

/-- What a prompt is given while there is something to read. -/
theorem promptFor_of_nonempty (nonempty : stdin ≠ []) (array : Bytes) (size : Nat) :
    promptFor array size stdin =
      ⟨size,
        (cString (stdin.take (min ((stdin.takeWhile (· ≠ 10)).length + 1) (size - 1)))).takeWhile
          (· ≠ 10),
        stdin.drop (min ((stdin.takeWhile (· ≠ 10)).length + 1) (size - 1))⟩ := by
  rw [promptFor, fgets, if_neg nonempty]

theorem zeroFree_promptFor (zeroFree : 0 ∉ stdin) (array : Bytes) (size : Nat) :
    0 ∉ (promptFor array size stdin).stdin := by
  by_cases nothing : stdin = []
  · rw [nothing]
    exact List.not_mem_nil
  · rw [promptFor_of_nonempty nothing]
    exact fun member => zeroFree (List.mem_of_mem_drop member)

/-- A bound changes nothing when it is not below what there is to take. -/
theorem take_min_of_fits {whole room : Nat} (fits : (stdin.take whole).length ≤ room) :
    stdin.take (min whole room) = stdin.take whole ∧
      stdin.drop (min whole room) = stdin.drop whole := by
  rw [List.length_take] at fits
  rcases Nat.lt_or_ge room whole with beyond | inside
  · have all : stdin.length ≤ room := by omega
    rw [Nat.min_eq_right beyond.le, List.take_of_length_le all,
      List.take_of_length_le (all.trans beyond.le), List.drop_of_length_le all,
      List.drop_of_length_le (all.trans beyond.le)]
    exact ⟨rfl, rfl⟩
  · rw [Nat.min_eq_left inside]
    exact ⟨rfl, rfl⟩

/-- A prompt takes its line exactly when the line fits. -/
theorem promptFor_takes_iff (zeroFree : 0 ∉ stdin) (found : lines 10 stdin = line :: rest)
    (array : Bytes) (size : Nat) :
    (promptFor array size stdin).Takes line rest ↔ line.length < size := by
  have nonempty : stdin ≠ [] := by
    rintro rfl
    cases found
  rw [lines_eq 10 nonempty] at found
  obtain ⟨rfl, rfl⟩ := List.cons.inj found
  rw [promptFor_of_nonempty nonempty]
  have positive : 0 < (stdin.takeWhile (· ≠ 10)).length + 1 := Nat.succ_pos _
  revert positive
  generalize (stdin.takeWhile (· ≠ 10)).length + 1 = whole
  intro positive
  have somethingLeft : 0 < stdin.length := List.length_pos_of_ne_nil nonempty
  have lineLength : (stdin.take whole).length = min whole stdin.length := List.length_take
  constructor
  · -- what is left behind is as long as the lines behind
    rintro ⟨-, behind⟩
    have left := congrArg (fun later => later.flatten.length) behind
    simp only [flatten_lines, List.length_drop] at left
    omega
  · intro fits
    have stored := take_min_of_fits (Nat.le_sub_one_of_lt fits)
    have plain : 0 ∉ stdin.take whole := fun member => zeroFree (List.mem_of_mem_take member)
    have short : ((stdin.take whole).takeWhile (· ≠ 10)).length ≤ size - 1 :=
      (List.takeWhile_prefix _).length_le.trans (Nat.le_sub_one_of_lt fits)
    simp only [stored, cString_of_zeroFree _ plain]
    exact ⟨(List.take_of_length_le short).symm, rfl⟩

/-- A field that `safe_input` reads takes its line, whether it fits or not. -/
theorem safeInput_takes {size : Nat} (fits : FitsInt size) (zeroFree : 0 ∉ stdin)
    (found : lines 10 stdin = line :: rest) (buffer : Bytes) :
    Prompt.Takes ⟨size, (safeInput buffer size stdin).1, (safeInput buffer size stdin).2⟩
      line rest := by
  by_cases newline : 10 ∈ stdin
  · obtain ⟨content, later, rfl, plain⟩ := List.eq_append_cons_of_mem newline
    have contentFree : 0 ∉ content := fun member => zeroFree (List.mem_append_left _ member)
    rw [lines_append plain] at found
    obtain ⟨rfl, rfl⟩ := List.cons.inj found
    rw [safeInput_line fits plain contentFree]
    refine ⟨?_, rfl⟩
    rw [kept, takeWhile_append plain]
  · have nonempty : stdin ≠ [] := by
      rintro rfl
      cases found
    rw [lines_plain newline nonempty] at found
    obtain ⟨rfl, rfl⟩ := List.cons.inj found
    rw [safeInput_lastLine fits newline zeroFree nonempty]
    refine ⟨?_, rfl⟩
    rw [kept, takeWhile_plain newline]

end Prompts

section Rounds

variable {accepts : Bytes → Bool} {size : Nat} {array stdin : Bytes} (rounds : Nat)

theorem promptUntil_accepted (accepted : accepts (promptFor array size stdin).text = true) :
    promptUntil accepts size (rounds + 1) array stdin =
      ([promptFor array size stdin], some (promptFor array size stdin)) := by
  rw [promptUntil]
  exact if_pos accepted

theorem promptUntil_refused (refused : accepts (promptFor array size stdin).text = false) :
    promptUntil accepts size (rounds + 1) array stdin =
      (promptFor array size stdin ::
          (promptUntil accepts size rounds (promptFor array size stdin).text
            (promptFor array size stdin).stdin).1,
        (promptUntil accepts size rounds (promptFor array size stdin).text
          (promptFor array size stdin).stdin).2) := by
  rw [promptUntil]
  exact if_neg (by rw [refused]; decide)

end Rounds

/-! ### Dialogues and questionnaires -/

/-- The prompts for one question after another, each with its own array. -/
def interview (rounds : Nat) : List (Question UInt8 × Bytes) → Bytes →
    List Prompt × Option (List Bytes)
  | [], _ => ([], some [])
  | (question, array) :: later, stdin =>
    match promptUntil question.accepts question.size rounds array stdin with
    | (prompts, none) => (prompts, none)
    | (prompts, some last) =>
      let (others, texts) := interview rounds later last.stdin
      (prompts ++ others, texts.map (last.text :: ·))

/-- What the dialogues ask for: any login, but only well-formed ids and passwords to register. -/
def questions : Int → List (Question UInt8)
  | 1 => [⟨maxIdLen, fun _ => true⟩, ⟨maxPwLen, fun _ => true⟩]
  | 2 => [⟨maxIdLen, isValidId⟩, ⟨maxPwLen, isValidPassword⟩, ⟨maxEduOfficeLen, fun _ => true⟩,
      ⟨maxSchoolNameLen, fun _ => true⟩]
  | _ => []

def Arrays.list (arrays : Arrays) : List Bytes :=
  [arrays.id, arrays.pw, arrays.eduOffice, arrays.schoolName]

theorem questions_zip (choice : Int) (arrays : Arrays) :
    ((questions choice).zip arrays.list).map Prod.fst = questions choice := by
  unfold questions
  split <;> rfl

/-- The dialogues ask their questions one after the other. -/
theorem handleLoginMenuInput_interview (rounds : Nat) (choice : Int) (arrays : Arrays)
    (stdin : Bytes) : ∃ enough, rounds ≤ enough ∧
      (handleLoginMenuInput rounds choice arrays stdin).prompts =
        (interview enough ((questions choice).zip arrays.list) stdin).1 ∧
      ∀ call ∈ (handleLoginMenuInput rounds choice arrays stdin).passed,
        (interview enough ((questions choice).zip arrays.list) stdin).2 = some call.fields := by
  unfold handleLoginMenuInput questions
  split
  · exact ⟨rounds + 1, Nat.le_succ _, rfl, fun call passed => by cases passed; rfl⟩
  · refine ⟨rounds, Nat.le_refl _, ?_⟩
    cases rounds with
    | zero => exact ⟨rfl, fun call passed => nomatch passed⟩
    | succ rounds =>
      simp only [Arrays.list, List.zip_cons_cons, interview]
      rcases promptUntil isValidId maxIdLen (rounds + 1) arrays.id stdin with ⟨ids, none | id⟩
      · exact ⟨rfl, fun call passed => nomatch passed⟩
      · simp only
        rcases promptUntil isValidPassword maxPwLen (rounds + 1) arrays.pw id.stdin with
          ⟨pws, none | pw⟩
        · exact ⟨rfl, fun call passed => nomatch passed⟩
        · refine ⟨?_, fun call passed => ?_⟩
          · exact List.append_assoc _ _ _
          · cases passed
            rfl
  · exact ⟨rounds, Nat.le_refl _, rfl, fun call passed => nomatch passed⟩

section Lines

variable {question : Question UInt8} {later : List (Question UInt8)} {stdin : Bytes}

/-- Lines that fit are taken one by one until the question has its answer. -/
theorem promptUntil_of_fit (rounds : Nat) (array : Bytes) (zeroFree : 0 ∉ stdin)
    (fit : Fit 10 (question :: later) (lines 10 stdin)) :
    Successive (promptUntil question.accepts question.size rounds array stdin).1
        (lines 10 stdin) ∧
      ∀ last ∈ (promptUntil question.accepts question.size rounds array stdin).2,
        0 ∉ last.stdin ∧ Fit 10 later (lines 10 last.stdin) ∧
          (lines 10 stdin).drop
              (promptUntil question.accepts question.size rounds array stdin).1.length =
            lines 10 last.stdin ∧
          givenAnswers 10 (question :: later) (lines 10 stdin) =
            (givenAnswers 10 later (lines 10 last.stdin)).map (last.text :: ·) := by
  induction rounds generalizing array stdin with
  | zero => exact ⟨trivial, fun last none => nomatch none⟩
  | succ rounds inductionHypothesis =>
    cases found : lines 10 stdin with
    | nil =>
      rw [found] at fit
      exact fit.elim
    | cons line rest =>
      rw [found] at fit
      obtain ⟨fits, next⟩ := fit
      have takes := (promptFor_takes_iff zeroFree found array question.size).mpr fits
      have stillFree := zeroFree_promptFor zeroFree array question.size
      have text := takes.1
      rw [size_promptFor] at text
      rw [givenAnswers]
      by_cases accepted : question.accepts (kept 10 question.size line) = true
      · rw [if_pos accepted] at next ⊢
        rw [← text] at accepted
        rw [promptUntil_accepted rounds accepted]
        refine ⟨⟨takes, trivial⟩, fun last ended => ?_⟩
        cases ended
        rw [takes.2, text]
        exact ⟨stillFree, next, rfl, rfl⟩
      · rw [if_neg accepted] at next ⊢
        rw [← text] at accepted
        rw [promptUntil_refused rounds (Bool.eq_false_of_not_eq_true accepted)]
        rw [← takes.2] at next
        have further :=
          inductionHypothesis (promptFor array question.size stdin).text stillFree next
        rw [takes.2] at further
        exact ⟨⟨takes, further.1⟩, further.2⟩

/-- Prompts that take their lines, with more rounds than lines, find the answer, and only where
the lines fit. -/
theorem fit_of_promptUntil (rounds : Nat) (array : Bytes) (zeroFree : 0 ∉ stdin)
    (enough : (lines 10 stdin).length < rounds)
    (successive : Successive
      (promptUntil question.accepts question.size rounds array stdin).1 (lines 10 stdin)) :
    ∃ last ∈ (promptUntil question.accepts question.size rounds array stdin).2,
      0 ∉ last.stdin ∧ (lines 10 last.stdin).length < rounds ∧
        (lines 10 stdin).drop
            (promptUntil question.accepts question.size rounds array stdin).1.length =
          lines 10 last.stdin ∧
        (Fit 10 later (lines 10 last.stdin) → Fit 10 (question :: later) (lines 10 stdin)) := by
  induction rounds generalizing array stdin with
  | zero => exact absurd enough (Nat.not_lt_zero _)
  | succ rounds inductionHypothesis =>
    have stillFree := zeroFree_promptFor zeroFree array question.size
    cases accepted : question.accepts (promptFor array question.size stdin).text with
    | true =>
      rw [promptUntil_accepted rounds accepted] at successive ⊢
      cases found : lines 10 stdin with
      | nil =>
        rw [found] at successive
        exact successive.elim
      | cons line rest =>
        rw [found] at successive enough
        have takes := successive.1
        have fits := (promptFor_takes_iff zeroFree found array question.size).mp takes
        have text := takes.1
        rw [size_promptFor] at text
        refine ⟨_, rfl, stillFree, ?_, takes.2.symm, fun fit => ⟨fits, ?_⟩⟩
        · rw [takes.2]
          exact Nat.lt_of_succ_lt enough
        · rw [← text, if_pos accepted, ← takes.2]
          exact fit
    | false =>
      rw [promptUntil_refused rounds accepted] at successive ⊢
      cases found : lines 10 stdin with
      | nil =>
        rw [found] at successive
        exact successive.elim
      | cons line rest =>
        rw [found] at successive enough
        obtain ⟨takes, further⟩ := successive
        have fits := (promptFor_takes_iff zeroFree found array question.size).mp takes
        have text := takes.1
        rw [size_promptFor] at text
        rw [← takes.2] at further enough
        obtain ⟨last, ended, lastFree, fewer, behind, fit⟩ := inductionHypothesis
          (promptFor array question.size stdin).text stillFree
          (Nat.lt_of_succ_lt_succ enough) further
        refine ⟨last, ended, lastFree, Nat.lt_succ_of_lt fewer, ?_, fun laterFit => ⟨fits, ?_⟩⟩
        · rw [← behind, takes.2]
          rfl
        · rw [← text, if_neg (by rw [accepted]; decide), ← takes.2]
          exact fit laterFit

/-- When the lines fit, the interview takes them one by one and gets their answers. -/
theorem interview_of_fit (rounds : Nat) (asked : List (Question UInt8 × Bytes)) {stdin : Bytes}
    (zeroFree : 0 ∉ stdin) (fit : Fit 10 (asked.map Prod.fst) (lines 10 stdin)) :
    Successive (interview rounds asked stdin).1 (lines 10 stdin) ∧
      ∀ texts ∈ (interview rounds asked stdin).2,
        givenAnswers 10 (asked.map Prod.fst) (lines 10 stdin) = some texts := by
  induction asked generalizing stdin with
  | nil =>
    refine ⟨trivial, fun texts ended => ?_⟩
    cases ended
    rw [List.map_nil, givenAnswers]
  | cons pair asked inductionHypothesis =>
    obtain ⟨question, array⟩ := pair
    have first := @promptUntil_of_fit question (asked.map Prod.fst) stdin rounds array zeroFree fit
    rw [interview]
    generalize promptUntil question.accepts question.size rounds array stdin = own at first ⊢
    obtain ⟨prompts, _ | last⟩ := own
    · exact ⟨first.1, fun texts none => nomatch none⟩
    · obtain ⟨stillFree, laterFit, behind, answered⟩ := first.2 last rfl
      have others := inductionHypothesis stillFree laterFit
      refine ⟨(successive_append _ _ _).mpr ⟨first.1, ?_⟩, fun texts ended => ?_⟩
      · rw [behind]
        exact others.1
      · obtain ⟨later, laterEnded, rfl⟩ := Option.map_eq_some_iff.mp ended
        rw [List.map_cons, answered, others.2 later laterEnded]
        rfl

/-- An interview that takes its lines one by one finds lines that fit. -/
theorem fit_of_interview (rounds : Nat) (asked : List (Question UInt8 × Bytes)) {stdin : Bytes}
    (zeroFree : 0 ∉ stdin) (enough : (lines 10 stdin).length < rounds)
    (successive : Successive (interview rounds asked stdin).1 (lines 10 stdin)) :
    Fit 10 (asked.map Prod.fst) (lines 10 stdin) := by
  induction asked generalizing stdin with
  | nil =>
    rw [List.map_nil, Fit]
    trivial
  | cons pair asked inductionHypothesis =>
    obtain ⟨question, array⟩ := pair
    have first :=
      @fit_of_promptUntil question (asked.map Prod.fst) stdin rounds array zeroFree enough
    rw [interview] at successive
    generalize promptUntil question.accepts question.size rounds array stdin = own
      at first successive
    obtain ⟨prompts, _ | last⟩ := own
    · obtain ⟨_, ended, _⟩ := first successive
      cases ended
    · obtain ⟨own, others⟩ := (successive_append _ _ _).mp successive
      obtain ⟨_, ended, stillFree, fewer, behind, fit⟩ := first own
      cases ended
      rw [behind] at others
      exact fit (inductionHypothesis stillFree fewer others)

end Lines

/-! ### When the answers keep to their lines -/

/-- Whatever the number of rounds, each prompt takes one line after the other, and what is passed
on are the answers that these lines give. -/
def KeepsToLines (choice : Int) (arrays : Arrays) (stdin : Bytes) : Prop :=
  ∀ rounds, Successive (handleLoginMenuInput rounds choice arrays stdin).prompts (lines 10 stdin) ∧
    ∀ call ∈ (handleLoginMenuInput rounds choice arrays stdin).passed,
      givenAnswers 10 (questions choice) (lines 10 stdin) = some call.fields

/-- The dialogues keep to the lines exactly when the lines that they ask for are there and fit. -/
theorem keepsToLines_iff (choice : Int) (arrays : Arrays) {stdin : Bytes} (zeroFree : 0 ∉ stdin) :
    KeepsToLines choice arrays stdin ↔ Fit 10 (questions choice) (lines 10 stdin) := by
  have asked := questions_zip choice arrays
  constructor
  · intro keeps
    obtain ⟨enough, least, prompts, _⟩ :=
      handleLoginMenuInput_interview ((lines 10 stdin).length + 1) choice arrays stdin
    have successive := (keeps ((lines 10 stdin).length + 1)).1
    rw [prompts] at successive
    rw [← asked]
    exact fit_of_interview enough _ zeroFree least successive
  · intro fit rounds
    obtain ⟨enough, _, prompts, passed⟩ :=
      handleLoginMenuInput_interview rounds choice arrays stdin
    rw [← asked] at fit ⊢
    obtain ⟨successive, answered⟩ := interview_of_fit enough _ zeroFree fit
    rw [prompts]
    exact ⟨successive, fun call member => answered _ (passed call member)⟩

/-- A registration that asks for its id twice. -/
theorem keepsToLines_iff_fitting :
    KeepsToLines 2 ⟨[], [], [], []⟩ (utf8 "u\nuser1\n1234\nSeoul\nHigh school\n") :=
  (keepsToLines_iff 2 ⟨[], [], [], []⟩ (by decide)).mpr (by decide)

/-- An id of nineteen bytes leaves its newline to the password. -/
theorem not_keepsToLines_nineteen :
    ¬ KeepsToLines 1 ⟨[], [], [], []⟩ (utf8 "abcdefghijklmnopqrs\n1234\n") := by
  intro keeps
  have successive := (keeps 0).1
  revert successive
  decide

end SchoolMeals
