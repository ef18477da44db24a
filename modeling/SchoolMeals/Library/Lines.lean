/-
This file is a small library of line input. A text is cut behind each of its
stops, so its lines hold everything it holds, and what is behind the last stop
is a line as well. A questionnaire is answered line by line: each question keeps
what its buffer has room for, and asks for another line until it accepts one.
-/

import Mathlib.Data.List.TakeWhile

namespace Lines

section

variable {α : Type} [DecidableEq α] (stop : α)

/-- The lines of a text, each with the stop at its end. -/
def lines : List α → List (List α)
  | [] => []
  | letter :: text =>
    if letter = stop then [letter] :: lines text
    else
      match lines text with
      | [] => [[letter]]
      | first :: later => (letter :: first) :: later

/-- The first line takes all up to the first stop, and the stop itself. -/
theorem lines_eq {text : List α} (nonempty : text ≠ []) :
    lines stop text =
      text.take ((text.takeWhile (· ≠ stop)).length + 1) ::
        lines stop (text.drop ((text.takeWhile (· ≠ stop)).length + 1)) := by
  induction text with
  | nil => exact absurd rfl nonempty
  | cons letter text inductionHypothesis =>
    by_cases isStop : letter = stop
    · rw [lines, if_pos isStop, List.takeWhile_cons_of_neg (by simpa using isStop)]
      rfl
    · rw [lines, if_neg isStop, List.takeWhile_cons_of_pos (by simpa using isStop)]
      by_cases last : text = []
      · rw [last]
        rfl
      · rw [inductionHypothesis last]
        rfl

section

variable {stop} {content : List α} (plain : stop ∉ content)

include plain

theorem takeWhile_plain : content.takeWhile (· ≠ stop) = content := by
  rw [List.takeWhile_eq_self_iff]
  intro letter member
  simpa using ne_of_mem_of_not_mem member plain

theorem takeWhile_append (text : List α) :
    (content ++ stop :: text).takeWhile (· ≠ stop) = content := by
  rw [List.takeWhile_append_of_pos, List.takeWhile_cons_of_neg (by simp), List.append_nil]
  intro letter member
  simpa using ne_of_mem_of_not_mem member plain

theorem lines_append (text : List α) :
    lines stop (content ++ stop :: text) = (content ++ [stop]) :: lines stop text := by
  induction content with
  | nil => exact if_pos rfl
  | cons letter content inductionHypothesis =>
    have later := inductionHypothesis fun member => plain (List.mem_cons_of_mem _ member)
    rw [List.cons_append, lines, if_neg (ne_of_mem_of_not_mem List.mem_cons_self plain), later]
    rfl

/-- What has no stop is one line. -/
theorem lines_plain (nonempty : content ≠ []) : lines stop content = [content] := by
  have short : content.length ≤ content.length + 1 := Nat.le_succ _
  rw [lines_eq stop nonempty, takeWhile_plain plain, List.take_of_length_le short,
    List.drop_of_length_le short]
  rfl

end

theorem flatten_lines (text : List α) : (lines stop text).flatten = text := by
  induction text with
  | nil => rfl
  | cons letter text inductionHypothesis =>
    rw [lines]
    split
    · rw [List.flatten_cons, inductionHypothesis]
      rfl
    · cases found : lines stop text with
      | nil => rw [← inductionHypothesis, found]; rfl
      | cons first later => rw [← inductionHypothesis, found]; rfl

/-! ### Pieces of lines -/

/-- The pieces of a text: it is cut behind each stop, and where a piece has no room left. -/
def pieces (room : Nat) : Nat → List α → List (List α)
  | _, [] => []
  | left, letter :: text =>
    if letter = stop ∨ left ≤ 1 then [letter] :: pieces room room text
    else
      match pieces room (left - 1) text with
      | [] => [[letter]]
      | first :: later => (letter :: first) :: later

/-- The first piece takes the first line, as far as there is room for it. -/
theorem pieces_eq (room : Nat) {left : Nat} (roomLeft : 0 < left) {text : List α}
    (nonempty : text ≠ []) :
    pieces stop room left text =
      text.take (min ((text.takeWhile (· ≠ stop)).length + 1) left) ::
        pieces stop room room
          (text.drop (min ((text.takeWhile (· ≠ stop)).length + 1) left)) := by
  induction text generalizing left with
  | nil => exact absurd rfl nonempty
  | cons letter text inductionHypothesis =>
    by_cases isStop : letter = stop
    · rw [pieces, if_pos (Or.inl isStop), List.takeWhile_cons_of_neg (by simpa using isStop),
        List.length_nil, Nat.min_eq_left roomLeft]
      rfl
    · rw [List.takeWhile_cons_of_pos (by simpa using isStop), List.length_cons]
      rcases Nat.lt_or_ge 1 left with more | one
      · obtain ⟨left, rfl⟩ := Nat.exists_eq_add_of_lt more
        have taken : min ((text.takeWhile (· ≠ stop)).length + 1 + 1) (1 + left + 1) =
            min ((text.takeWhile (· ≠ stop)).length + 1) (1 + left) + 1 := by omega
        rw [pieces, if_neg (not_or.mpr ⟨isStop, Nat.not_le.mpr more⟩), taken, Nat.add_sub_cancel]
        rw [List.take_succ_cons, List.drop_succ_cons]
        by_cases last : text = []
        · rw [last, List.take_nil, List.drop_nil]
          rfl
        · rw [inductionHypothesis (Nat.add_pos_left Nat.one_pos left) last]
      · have taken : min ((text.takeWhile (· ≠ stop)).length + 1 + 1) left = 1 := by omega
        rw [pieces, if_pos (Or.inr one), taken]
        rfl

/-! ### Questionnaires -/

/-- A question with the buffer for its answer. -/
structure Question (α : Type) where
  size : Nat
  accepts : List α → Bool

/-- What a buffer with room for its terminator keeps of a line. -/
def kept (size : Nat) (line : List α) : List α := (line.takeWhile (· ≠ stop)).take (size - 1)

/-- The answers that the lines give to the questions, if there are enough of them. -/
def givenAnswers : List (Question α) → List (List α) → Option (List (List α))
  | [], _ => some []
  | _ :: _, [] => none
  | question :: questions, line :: lines =>
    if question.accepts (kept stop question.size line) then
      (givenAnswers questions lines).map (kept stop question.size line :: ·)
    else givenAnswers (question :: questions) lines

/-- Each question gets its lines until it accepts one, and these fit into its buffer together with
their stops. -/
def Fit : List (Question α) → List (List α) → Prop
  | [], _ => True
  | _ :: _, [] => False
  | question :: questions, line :: lines =>
    line.length < question.size ∧
      if question.accepts (kept stop question.size line) then Fit questions lines
      else Fit (question :: questions) lines

instance instDecidableFit : (questions : List (Question α)) → (lines : List (List α)) →
    Decidable (Fit stop questions lines)
  | [], _ => isTrue (by rw [Fit]; trivial)
  | _ :: _, [] => isFalse id
  | question :: questions, line :: lines =>
    have := instDecidableFit questions lines
    have := instDecidableFit (question :: questions) lines
    inferInstanceAs (Decidable (line.length < question.size ∧
      if question.accepts (kept stop question.size line) then Fit stop questions lines
      else Fit stop (question :: questions) lines))

end

end Lines
