/-
This file is a small library of C strings. A C string is the list of its bytes
before the terminator, so a buffer is read up to its first zero byte and no
operation here ever produces the terminator itself. The library covers what a
line protocol written in C rests on: the tokeniser `strtok`, the bounded copies
`strncpy` and `snprintf`, and the width-limited conversions of `sscanf`.

The tokeniser takes a *set* of delimiters. The central fact is that fields which
are non-empty and free of delimiters survive being written behind a separator of
delimiters and read back one `strtok` call at a time; conversely every token is
non-empty and free of delimiters, so no other field can survive. What a whole
sequence of calls reads off a text are its `fields`; a text that is cut short
has no more of them.
-/

import Mathlib.Data.List.Infix
import Mathlib.Data.List.TakeWhile

namespace CText

/-- The bytes of a C string, without its terminator. -/
abbrev Bytes := List UInt8

/-- The bytes of a string literal, in the UTF-8 encoding the compiler stores. -/
def utf8 (literal : String) : Bytes := literal.toUTF8.data.toList

/-- What every byte of a text is found to be, one after the other. -/
theorem forall_mem_of_all {Holds : UInt8 → Prop} [DecidablePred Holds] {text : Bytes}
    (checked : (text.all fun byte => Holds byte) = true) : ∀ byte ∈ text, Holds byte :=
  fun byte member => of_decide_eq_true (List.all_eq_true.mp checked byte member)

/-- The C string that starts at the head of some memory. -/
def cString (memory : Bytes) : Bytes := memory.takeWhile (· ≠ 0)

theorem cString_of_zeroFree (text : Bytes) (zeroFree : 0 ∉ text) : cString text = text := by
  unfold cString
  rw [List.takeWhile_eq_self_iff]
  intro byte member
  simpa using ne_of_mem_of_not_mem member zeroFree

theorem cString_take {text : Bytes} (zeroFree : 0 ∉ text) (count : Nat) :
    cString (text.take count) = text.take count :=
  cString_of_zeroFree _ fun member => zeroFree (List.mem_of_mem_take member)

theorem zeroFree_cString (memory : Bytes) : 0 ∉ cString memory := fun member => by
  simpa using List.mem_takeWhile_imp member

@[simp] theorem cString_cString (memory : Bytes) : cString (cString memory) = cString memory :=
  cString_of_zeroFree _ (zeroFree_cString memory)

/-- What is behind a terminator does not count. -/
theorem cString_append_of_mem {text : Bytes} (zero : 0 ∈ text) (rest : Bytes) :
    cString (text ++ rest) = cString text := by
  unfold cString
  rw [List.takeWhile_append, if_neg]
  intro whole
  have all : text.takeWhile (· ≠ 0) = text := (List.takeWhile_prefix _).eq_of_length whole
  simpa using List.takeWhile_eq_self_iff.mp all 0 zero

theorem cString_append {text : Bytes} (rest : Bytes) (zeroFree : 0 ∉ text) :
    cString (text ++ rest) = text ++ cString rest := by
  unfold cString
  rw [List.takeWhile_append_of_pos]
  intro byte member
  simpa using ne_of_mem_of_not_mem member zeroFree

/-- A text up to the first byte of a kind, and from there on. -/
theorem cut_at_byte {byte : UInt8} {text : Bytes} (member : byte ∈ text) :
    ∃ rest, text = text.takeWhile (· ≠ byte) ++ byte :: rest := by
  have left : text.dropWhile (· ≠ byte) ≠ [] := by
    rw [Ne, List.dropWhile_eq_nil_iff]
    exact fun plain => absurd (plain byte member) (by simp)
  obtain ⟨first, rest, split⟩ := List.exists_cons_of_ne_nil left
  have same : first = byte := by
    have stopped := List.head?_dropWhile_not (· ≠ byte) text
    rw [split] at stopped
    simpa using stopped
  exact ⟨rest, by rw [← same, ← split, same, List.takeWhile_append_dropWhile]⟩

/-! ### Bounded copies -/

/-- `strncpy(dest, source, count)` read back as a string, where `beyond` is the string that
already starts at `dest + count`. A source shorter than the count is padded with zero bytes;
a longer one is cut and leaves no terminator, so the reader runs on into `beyond`. -/
def strncpy (source : Bytes) (count : Nat) (beyond : Bytes) : Bytes :=
  if source.length < count then source else source.take count ++ beyond

/-- Into zeroed memory a bounded copy is a prefix. -/
theorem strncpy_zeroed (source : Bytes) (count : Nat) :
    strncpy source count [] = source.take count := by
  unfold strncpy
  split
  · rename_i short
    exact (List.take_of_length_le (Nat.le_of_lt short)).symm
  · exact List.append_nil _

/-- A source shorter than the count is copied whole, whatever the memory held. -/
theorem strncpy_of_short (source : Bytes) (count : Nat) (beyond : Bytes)
    (short : source.length < count) : strncpy source count beyond = source := if_pos short

/-- `snprintf(buffer, size, …)` of an already formatted text. -/
def snprintf (size : Nat) (formatted : Bytes) : Bytes := formatted.take (size - 1)

theorem snprintf_of_fits (size : Nat) (formatted : Bytes) (fits : formatted.length ≤ size - 1) :
    snprintf size formatted = formatted := List.take_of_length_le fits

/-- `strncat(dest, source, count)`. -/
def strncat (dest source : Bytes) (count : Nat) : Bytes := dest ++ source.take count

/-! ### The tokeniser -/

section Tokens

variable (delimiters : Bytes)

/-- One call of `strtok`: the token, or `none` for the null pointer, and the text the next
call continues in. -/
def strtok (saved : Bytes) : Option Bytes × Bytes :=
  match saved.dropWhile (· ∈ delimiters) with
  | [] => (none, [])
  | start => (some (start.takeWhile (· ∉ delimiters)),
      (start.dropWhile (· ∉ delimiters)).tail)

@[simp] theorem strtok_nil : strtok delimiters [] = (none, []) := rfl

/-- A text that is checked byte by byte. -/
theorem avoids_of_all {delimiters text : Bytes} (checked : text.all (· ∉ delimiters) = true) :
    ∀ byte ∈ text, byte ∉ delimiters := by simpa using checked

/-- A field that `strtok` can return: non-empty and free of delimiters. -/
def IsToken (field : Bytes) : Prop := field ≠ [] ∧ ∀ byte ∈ field, byte ∉ delimiters

instance (field : Bytes) : Decidable (IsToken delimiters field) :=
  haveI : Decidable (∀ byte ∈ field, byte ∉ delimiters) := List.decidableBAll _ field
  inferInstanceAs (Decidable (field ≠ [] ∧ ∀ byte ∈ field, byte ∉ delimiters))

/-- Every token is non-empty and free of delimiters. -/
theorem isToken_of_strtok (saved token : Bytes) (found : (strtok delimiters saved).1 = some token) :
    IsToken delimiters token := by
  unfold strtok at found
  cases equal : saved.dropWhile (· ∈ delimiters) with
  | nil =>
    rw [equal] at found
    cases found
  | cons first rest =>
    rw [equal] at found
    have outside : first ∉ delimiters := by
      have head := List.head_dropWhile_not (· ∈ delimiters) (l := saved) (by rw [equal]; simp)
      simpa [equal] using head
    obtain rfl := Option.some.inj found
    refine ⟨by simp [outside], fun byte member => ?_⟩
    simpa using List.mem_takeWhile_imp member

/-- The gap in front of a token is what is skipped. -/
theorem span_gap {gap token : Bytes} (rest : Bytes) (gapDelimits : ∀ byte ∈ gap, byte ∈ delimiters)
    (isToken : IsToken delimiters token) :
    (gap ++ token ++ rest).takeWhile (· ∈ delimiters) = gap ∧
      (gap ++ token ++ rest).dropWhile (· ∈ delimiters) = token ++ rest := by
  obtain ⟨nonempty, outside⟩ := isToken
  rw [List.append_assoc, List.takeWhile_append_of_pos (by simpa using gapDelimits),
    List.dropWhile_append_of_pos (by simpa using gapDelimits)]
  cases token with
  | nil => exact absurd rfl nonempty
  | cons first _ => simp [outside first (by simp)]

/-- A token reaches to the end of the text or to a further delimiter. -/
theorem span_token {token rest : Bytes} (isToken : IsToken delimiters token)
    (stops : ∀ byte ∈ rest.head?, byte ∈ delimiters) :
    (token ++ rest).takeWhile (· ∉ delimiters) = token ∧
      (token ++ rest).dropWhile (· ∉ delimiters) = rest := by
  obtain ⟨_, outside⟩ := isToken
  rw [List.takeWhile_append_of_pos (by simpa using outside),
    List.dropWhile_append_of_pos (by simpa using outside)]
  cases rest with
  | nil => simp
  | cons byte _ => simp [stops byte rfl]

/-- A token written behind a gap of delimiters and before the end of the text or a further
delimiter is returned whole. -/
theorem strtok_token (gap token rest : Bytes) (gapDelimits : ∀ byte ∈ gap, byte ∈ delimiters)
    (isToken : IsToken delimiters token)
    (stops : ∀ byte ∈ rest.head?, byte ∈ delimiters) :
    strtok delimiters (gap ++ token ++ rest) = (some token, rest.tail) := by
  obtain ⟨_, skipped⟩ := span_gap delimiters rest gapDelimits isToken
  obtain ⟨body, remainder⟩ := span_token delimiters isToken stops
  unfold strtok
  rw [skipped]
  split
  · rename_i empty
    exact absurd (List.append_eq_nil_iff.mp empty).1 isToken.1
  · rw [body, remainder]

/-- The fields of a request, each behind the separator. -/
def trailing (separator : Bytes) (fields : List Bytes) : Bytes :=
  fields.flatMap (separator ++ ·)

variable {delimiters} {separator : Bytes}

theorem trailing_cons (field : Bytes) (fields : List Bytes) :
    trailing separator (field :: fields) = separator ++ field ++ trailing separator fields := by
  simp [trailing]

end Tokens

/-! ### All tokens of a text -/

section Fields

variable (delimiters : Bytes)

/-- The tokens of a text: its non-empty pieces between delimiters. -/
def fields (text : Bytes) : List Bytes :=
  (text.splitOnP (· ∈ delimiters)).filter (· ≠ [])

@[simp] theorem fields_nil : fields delimiters [] = [] := rfl

variable {delimiters}

theorem fields_delimiter {byte : UInt8} (text : Bytes) (delimits : byte ∈ delimiters) :
    fields delimiters (byte :: text) = fields delimiters text := by
  rw [fields, List.splitOnP_cons_eq_if_modifyHead, if_pos (by simpa using delimits)]
  rfl

/-- At a delimiter a text falls into two parts. -/
theorem fields_append {byte : UInt8} (text rest : Bytes) (delimits : byte ∈ delimiters) :
    fields delimiters (text ++ byte :: rest) =
      fields delimiters text ++ fields delimiters rest := by
  rw [fields, List.splitOnP_append_cons text rest (by simpa using delimits), List.filter_append]
  rfl

theorem fields_gap {gap : Bytes} (text : Bytes) (delimits : ∀ byte ∈ gap, byte ∈ delimiters) :
    fields delimiters (gap ++ text) = fields delimiters text := by
  induction gap with
  | nil => rfl
  | cons byte gap inductionHypothesis =>
    rw [List.cons_append, fields_delimiter _ (delimits byte (by simp)),
      inductionHypothesis fun other member => delimits other (by simp [member])]

theorem splitOnP_token {token : Bytes} (rest : Bytes)
    (outside : ∀ byte ∈ token, byte ∉ delimiters) :
    (token ++ rest).splitOnP (· ∈ delimiters) =
      (rest.splitOnP (· ∈ delimiters)).modifyHead (token ++ ·) := by
  induction token with
  | nil => exact (congrFun List.modifyHead_id _).symm
  | cons byte token inductionHypothesis =>
    rw [List.cons_append, List.splitOnP_cons_eq_if_modifyHead,
      if_neg (by simpa using outside byte (by simp)),
      inductionHypothesis fun other member => outside other (by simp [member])]
    cases rest.splitOnP (· ∈ delimiters) <;> rfl

/-- A token in front of the end of the text or of a delimiter is the first field. -/
theorem fields_token {token : Bytes} (rest : Bytes) (isToken : IsToken delimiters token)
    (stops : ∀ byte ∈ rest.head?, byte ∈ delimiters) :
    fields delimiters (token ++ rest) = token :: fields delimiters rest := by
  rw [fields, splitOnP_token rest isToken.2]
  cases rest with
  | nil => simp [isToken.1]
  | cons byte rest =>
    rw [List.splitOnP_cons_eq_if_modifyHead, if_pos (by simpa using stops byte rfl),
      fields_delimiter rest (stops byte rfl)]
    simp [fields, isToken.1]

theorem fields_singleton {token : Bytes} (isToken : IsToken delimiters token) :
    fields delimiters token = [token] := by
  have only := fields_token [] isToken (by simp)
  rwa [List.append_nil] at only

/-- A token in front of a separator is the first field, whatever comes behind. -/
theorem fields_separated {separator token : Bytes}
    (separates : ∀ byte ∈ separator, byte ∈ delimiters) (nonempty : separator ≠ [])
    (isToken : IsToken delimiters token) (rest : Bytes) :
    fields delimiters (token ++ separator ++ rest) = token :: fields delimiters rest := by
  have stops : ∀ byte ∈ (separator ++ rest).head?, byte ∈ delimiters := by
    cases separator with
    | nil => exact absurd rfl nonempty
    | cons first separator => simpa using separates first (by simp)
  rw [List.append_assoc, fields_token _ isToken stops, fields_gap _ separates]

/-- Fields written behind a separator are read back. -/
theorem fields_trailing {separator : Bytes} (separates : ∀ byte ∈ separator, byte ∈ delimiters)
    (nonempty : separator ≠ []) (first : Bytes) (others : List Bytes)
    (firstToken : IsToken delimiters first)
    (tokens : ∀ field ∈ others, IsToken delimiters field) :
    fields delimiters (first ++ trailing separator others) = first :: others := by
  induction others generalizing first with
  | nil =>
    rw [show trailing separator [] = [] from rfl, List.append_nil, fields_singleton firstToken]
  | cons second others inductionHypothesis =>
    rw [trailing_cons, List.append_assoc, ← List.append_assoc,
      fields_separated separates nonempty firstToken,
      inductionHypothesis second (tokens second (by simp))
        fun field member => tokens field (by simp [member])]

variable (delimiters)

/-- A text holds delimiters only, or it begins with a gap and a token. -/
theorem only_or_token (text : Bytes) :
    (∀ byte ∈ text, byte ∈ delimiters) ∨
      ∃ gap token rest, text = gap ++ token ++ rest ∧ (∀ byte ∈ gap, byte ∈ delimiters) ∧
        IsToken delimiters token ∧ ∀ byte ∈ rest.head?, byte ∈ delimiters := by
  cases start : text.dropWhile (· ∈ delimiters) with
  | nil =>
    refine Or.inl fun byte member => ?_
    simpa using List.dropWhile_eq_nil_iff.mp start byte member
  | cons first later =>
    have outside : first ∉ delimiters := by
      have head := List.head_dropWhile_not (· ∈ delimiters) (l := text) (by rw [start]; simp)
      simpa [start] using head
    refine Or.inr ⟨text.takeWhile (· ∈ delimiters), (first :: later).takeWhile (· ∉ delimiters),
      (first :: later).dropWhile (· ∉ delimiters), ?_, fun byte member => ?_,
      ⟨by simp [outside], fun byte member => ?_⟩, fun byte member => ?_⟩
    · rw [List.append_assoc, List.takeWhile_append_dropWhile, ← start,
        List.takeWhile_append_dropWhile]
    · simpa using List.mem_takeWhile_imp member
    · simpa using List.mem_takeWhile_imp member
    · have stopped := List.head?_dropWhile_not (· ∉ delimiters) (first :: later)
      rw [member] at stopped
      simpa using stopped

/-- A call of `strtok` takes the first field. -/
theorem fields_strtok (saved : Bytes) :
    (strtok delimiters saved).1 = (fields delimiters saved).head? ∧
      fields delimiters (strtok delimiters saved).2 = (fields delimiters saved).tail := by
  rcases only_or_token delimiters saved with
    only | ⟨gap, token, rest, rfl, gapDelimits, isToken, stops⟩
  · have empty : fields delimiters (saved ++ []) = [] := fields_gap [] only
    rw [List.append_nil] at empty
    have skipped : saved.dropWhile (· ∈ delimiters) = [] :=
      List.dropWhile_eq_nil_iff.mpr (by simpa using only)
    rw [empty, strtok, skipped]
    exact ⟨rfl, rfl⟩
  · rw [strtok_token delimiters gap token rest gapDelimits isToken stops, List.append_assoc,
      fields_gap _ gapDelimits, fields_token rest isToken stops]
    refine ⟨rfl, ?_⟩
    cases rest with
    | nil => rfl
    | cons byte rest => exact (fields_delimiter rest (stops byte rfl)).symm

/-- A field is made of bytes of its text. -/
theorem subset_of_mem_fields {text field : Bytes} (member : field ∈ fields delimiters text) :
    field ⊆ text := by
  induction size : text.length using Nat.strongRecOn generalizing text with
  | ind size inductionHypothesis =>
    rcases only_or_token delimiters text with
      only | ⟨gap, token, rest, rfl, gapDelimits, isToken, stops⟩
    · have empty : fields delimiters (text ++ []) = [] := fields_gap [] only
      rw [← List.append_nil text, empty] at member
      cases member
    · rw [List.append_assoc, fields_gap _ gapDelimits, fields_token rest isToken stops] at member
      rcases List.mem_cons.mp member with rfl | later
      · exact fun byte inside => List.mem_append_left _ (List.mem_append_right _ inside)
      · have shorter : rest.length < token.length + rest.length :=
          Nat.lt_add_of_pos_left (List.length_pos_of_ne_nil isToken.1)
        have within : rest.length < (gap ++ token ++ rest).length := by
          rw [List.length_append, List.length_append, Nat.add_assoc]
          exact Nat.lt_add_left _ shorter
        rw [size] at within
        exact fun byte inside =>
          List.mem_append_right _ (inductionHypothesis _ within later rfl inside)

/-- Every field is a token. -/
theorem isToken_of_mem_fields {text field : Bytes} (member : field ∈ fields delimiters text) :
    IsToken delimiters field := by
  suffices outside : ∀ piece ∈ text.splitOnP (· ∈ delimiters), ∀ byte ∈ piece,
      byte ∉ delimiters by
    obtain ⟨piece, nonempty⟩ := List.mem_filter.mp member
    exact ⟨of_decide_eq_true nonempty, outside field piece⟩
  clear member
  induction text with
  | nil => simp
  | cons first text inductionHypothesis =>
    rw [List.splitOnP_cons_eq_if_modifyHead]
    by_cases delimits : first ∈ delimiters
    · rw [if_pos (decide_eq_true delimits)]
      simpa using inductionHypothesis
    · rw [if_neg (by simpa using delimits)]
      cases pieces : text.splitOnP (· ∈ delimiters) with
      | nil => simp
      | cons piece later =>
        rw [pieces] at inductionHypothesis
        intro found foundMember byte inside
        rcases List.mem_cons.mp foundMember with rfl | laterMember
        · rcases List.mem_cons.mp inside with rfl | pieceMember
          · exact delimits
          · exact inductionHypothesis piece (by simp) byte pieceMember
        · exact inductionHypothesis found (by simp [laterMember]) byte inside

/-- Cutting a text short may lose fields and never adds one. -/
theorem length_fields_append (text more : Bytes) :
    (fields delimiters text).length ≤ (fields delimiters (text ++ more)).length := by
  induction count : text.length using Nat.strongRecOn generalizing text with
  | ind count inductionHypothesis =>
    subst count
    rcases only_or_token delimiters text with
      only | ⟨gap, token, rest, rfl, gapDelimits, isToken, stops⟩
    · rw [← List.append_nil text, fields_gap [] only]
      exact Nat.zero_le _
    · rw [List.append_assoc gap, List.append_assoc gap, fields_gap _ gapDelimits,
        fields_gap _ gapDelimits, fields_token rest isToken stops, List.append_assoc]
      cases rest with
      | nil =>
        rcases only_or_token delimiters (token ++ more) with
          only | ⟨otherGap, other, later, split, otherDelimits, otherToken, otherStops⟩
        · obtain ⟨byte, member⟩ := List.exists_mem_of_ne_nil token isToken.1
          exact absurd (only byte (by simp [member])) (isToken.2 byte member)
        · rw [List.nil_append, split, List.append_assoc, fields_gap _ otherDelimits,
            fields_token later otherToken otherStops]
          exact Nat.succ_le_succ (Nat.zero_le _)
      | cons byte rest =>
        rw [fields_token (byte :: rest ++ more) isToken (by simpa using stops byte rfl)]
        have shorter : (byte :: rest).length < (gap ++ token ++ byte :: rest).length := by
          have positive := List.length_pos_iff.mpr isToken.1
          simp only [List.length_append]
          omega
        exact Nat.succ_le_succ (inductionHypothesis _ shorter (byte :: rest) rfl)

end Fields

/-! ### The pieces between the occurrences of a text -/

section Pieces

variable (separator : Bytes)

/-- The pieces of a text, the first bytes of which are left out. -/
def piecesFrom : Nat → Bytes → List Bytes
  | _, [] => [[]]
  | skip + 1, _ :: rest => piecesFrom skip rest
  | 0, byte :: rest =>
    if separator <+: byte :: rest then [] :: piecesFrom (separator.length - 1) rest
    else (piecesFrom 0 rest).modifyHead (byte :: ·)

/-- The pieces of a text between the occurrences of a separator that is a text of its own. -/
def pieces (text : Bytes) : List Bytes := piecesFrom separator 0 text

/-- A separator of three bytes; one of its bytes alone does not separate. -/
example : pieces [1, 2, 3] [7, 1, 2, 3, 2, 1, 2, 3] = [[7], [2], []] := by decide

theorem piecesFrom_drop (skip : Nat) (text : Bytes) :
    piecesFrom separator skip text = pieces separator (text.drop skip) := by
  induction skip generalizing text with
  | zero => rfl
  | succ skip inductionHypothesis =>
    cases text with
    | nil => rfl
    | cons byte text => exact inductionHypothesis text

variable {separator} (nonempty : separator ≠ [])

include nonempty

/-- A text is one piece, or a piece in front of a separator and further pieces. -/
theorem pieces_cases (text : Bytes) :
    pieces separator text = [text] ∨ ∃ first rest, text = first ++ separator ++ rest ∧
      pieces separator text = first :: pieces separator rest := by
  induction text with
  | nil => exact .inl rfl
  | cons byte text inductionHypothesis =>
    by_cases separates : separator <+: byte :: text
    · refine .inr ⟨[], text.drop (separator.length - 1), ?_, ?_⟩
      · obtain ⟨rest, split⟩ := separates
        cases separator with
        | nil => exact absurd rfl nonempty
        | cons first separator =>
          obtain ⟨rfl, rfl⟩ := List.cons.inj split
          simp
      · rw [← piecesFrom_drop]
        exact if_pos separates
    · have step : pieces separator (byte :: text) =
          (pieces separator text).modifyHead (byte :: ·) := if_neg separates
      rcases inductionHypothesis with whole | ⟨first, rest, rfl, split⟩
      · exact .inl (by rw [step, whole, List.modifyHead_cons])
      · exact .inr ⟨byte :: first, rest, rfl, by rw [step, split, List.modifyHead_cons]⟩

/-- Where the separator is made of delimiters, the tokens are those of the pieces. -/
theorem fields_pieces {delimiters : Bytes} (separates : ∀ byte ∈ separator, byte ∈ delimiters)
    (text : Bytes) :
    fields delimiters text = (pieces separator text).flatMap (fields delimiters) := by
  induction count : text.length using Nat.strongRecOn generalizing text with
  | ind count inductionHypothesis =>
    subst count
    rcases pieces_cases nonempty text with whole | ⟨first, rest, rfl, split⟩
    · rw [whole, List.flatMap_singleton]
    · have later := inductionHypothesis rest.length (by
        have positive := List.length_pos_iff.mpr nonempty
        simp only [List.length_append]
        omega) rest rfl
      rw [split, List.flatMap_cons, ← later]
      cases separator with
      | nil => exact absurd rfl nonempty
      | cons byte separator =>
        rw [List.append_assoc, List.cons_append, fields_append _ _ (separates byte (by simp)),
          fields_gap _ fun other member => separates other (by simp [member])]

/-- And so are those of texts joined by it. -/
theorem fields_intercalate {delimiters : Bytes} (separates : ∀ byte ∈ separator, byte ∈ delimiters)
    (texts : List Bytes) :
    fields delimiters (List.intercalate separator texts) = texts.flatMap (fields delimiters) := by
  induction texts with
  | nil => rfl
  | cons first texts inductionHypothesis =>
    cases texts with
    | nil => simp
    | cons second texts =>
      rw [List.intercalate_cons_cons, List.flatMap_cons, ← inductionHypothesis]
      cases separator with
      | nil => exact absurd rfl nonempty
      | cons byte separator =>
        rw [List.append_assoc, List.cons_append, fields_append _ _ (separates byte (by simp)),
          fields_gap _ fun other member => separates other (by simp [member])]

omit nonempty in
theorem mem_of_mem_intercalate {texts : List Bytes} {byte : UInt8}
    (member : byte ∈ List.intercalate separator texts) :
    byte ∈ separator ∨ ∃ text ∈ texts, byte ∈ text := by
  induction texts with
  | nil => cases member
  | cons first texts inductionHypothesis =>
    cases texts with
    | nil => exact .inr ⟨first, List.mem_cons_self, by simpa using member⟩
    | cons second texts =>
      rw [List.intercalate_cons_cons] at member
      rcases List.mem_append.mp member with front | later
      · rcases List.mem_append.mp front with inFirst | inSeparator
        · exact .inr ⟨first, List.mem_cons_self, inFirst⟩
        · exact .inl inSeparator
      · rcases inductionHypothesis later with inSeparator | ⟨text, isText, inside⟩
        · exact .inl inSeparator
        · exact .inr ⟨text, List.mem_cons_of_mem _ isText, inside⟩

end Pieces

/-- A buffer read as a string after the first call of `strtok` on it: the call ends the buffer
behind the first token. -/
def cutByStrtok (delimiters buffer : Bytes) : Bytes :=
  buffer.takeWhile (· ∈ delimiters) ++
    (buffer.dropWhile (· ∈ delimiters)).takeWhile (· ∉ delimiters)

/-- `strstr(text, pattern) != NULL`. -/
def strstr (text pattern : Bytes) : Bool := decide (pattern <:+: text)

/-- What a text contains, every longer text contains. -/
theorem strstr_mono {front text pattern : Bytes} (isPrefix : front <+: text)
    (found : strstr front pattern = true) : strstr text pattern = true :=
  decide_eq_true ((of_decide_eq_true found).trans isPrefix.isInfix)

/-! ### Scanning -/

/-- `isspace` in the C locale. -/
def isSpace (byte : UInt8) : Bool := byte = 32 || (9 ≤ byte && byte ≤ 13)

/-- `isdigit` in the C locale. -/
def isDigit (byte : UInt8) : Bool := 48 ≤ byte && byte ≤ 57

theorem isSpace_of_isDigit {byte : UInt8} (digit : isDigit byte = true) : isSpace byte = false := by
  simp only [isDigit, isSpace, Bool.and_eq_true, decide_eq_true_eq, Bool.or_eq_false_iff,
    decide_eq_false_iff_not, UInt8.le_iff_toNat_le, UInt8.ext_iff] at digit ⊢
  simp at digit ⊢
  omega

/-- `isalnum` in the C locale. -/
def isAlnum (byte : UInt8) : Bool :=
  isDigit byte || (65 ≤ byte && byte ≤ 90) || (97 ≤ byte && byte ≤ 122)

/-- The conversion `%<width>[^stop]`: at least one and at most `width` bytes before `stop`. -/
def scanUntil (stop : UInt8) (width : Nat) (input : Bytes) : Option (Bytes × Bytes) :=
  match (input.takeWhile (· ≠ stop)).take width with
  | [] => none
  | found => some (found, input.drop found.length)

/-- A literal byte of the format. -/
def scanByte (expected : UInt8) : Bytes → Option Bytes
  | [] => none
  | byte :: rest => if byte = expected then some rest else none

/-- The conversion `%<width>s`: white space is skipped, then at least one and at most `width`
bytes up to the next white space. -/
def scanWord (width : Nat) (input : Bytes) : Option (Bytes × Bytes) :=
  match ((input.dropWhile isSpace).takeWhile (! isSpace ·)).take width with
  | [] => none
  | found => some (found, (input.dropWhile isSpace).drop found.length)

theorem scanUntil_append (stop : UInt8) (width : Nat) (field rest : Bytes) (nonempty : field ≠ [])
    (avoids : stop ∉ field) (fits : field.length ≤ width) :
    scanUntil stop width (field ++ stop :: rest) = some (field, stop :: rest) := by
  have taken : ((field ++ stop :: rest).takeWhile (· ≠ stop)).take width = field := by
    rw [List.takeWhile_append_of_pos, List.takeWhile_cons_of_neg (by simp), List.append_nil,
      List.take_of_length_le fits]
    intro byte member
    simpa using ne_of_mem_of_not_mem member avoids
  unfold scanUntil
  rw [taken]
  split
  · exact absurd rfl nonempty
  · rw [List.drop_left]

theorem scanWord_eq (width : Nat) (field : Bytes) (nonempty : field ≠ [])
    (solid : ∀ byte ∈ field, isSpace byte = false) (fits : field.length ≤ width) :
    scanWord width field = some (field, []) := by
  have start : field.dropWhile isSpace = field := by
    cases field with
    | nil => rfl
    | cons first _ => exact List.dropWhile_cons_of_neg (by simp [solid first (by simp)])
  have taken : (field.takeWhile (! isSpace ·)).take width = field := by
    rw [List.takeWhile_eq_self_iff.mpr (by simpa using solid), List.take_of_length_le fits]
  unfold scanWord
  rw [start, taken]
  split
  · exact absurd rfl nonempty
  · rw [List.drop_length]

/-! ### Numbers -/

/-- The value of a run of digits. -/
def decimal (digits : Bytes) : Nat :=
  digits.foldl (fun value digit => 10 * value + (digit.toNat - 48)) 0

/-- An optional sign with at least one digit: the value, and how many bytes it takes. -/
def signed (field : Bytes) : Option (Int × Nat) :=
  let digits := if field.head? = some 45 || field.head? = some 43 then field.tail else field
  match digits.takeWhile isDigit with
  | [] => none
  | found =>
    let value := if field.head? = some 45 then -(decimal found : Int) else decimal found
    some (value, field.length - digits.length + found.length)

/-- A number that is read into an `int`: it stops at the bounds of a `long`, of which the last 32
bits are kept. C leaves a number beyond `int` open. -/
def readAsInt (value : Int) : Int :=
  (BitVec.ofInt 32 (max (-9223372036854775808) (min value 9223372036854775807))).toInt

def atoi (text : Bytes) : Int :=
  match signed (text.dropWhile isSpace) with
  | none => 0
  | some (value, _) => readAsInt value

/-- The conversion `%<width>d`: white space is skipped, then a number of at most `width` bytes. -/
def scanInt (width : Nat) (input : Bytes) : Option (Int × Bytes) :=
  let start := input.dropWhile isSpace
  match signed (start.take width) with
  | none => none
  | some (value, used) => some (readAsInt value, start.drop used)

theorem readAsInt_of_int {value : Int} (low : -2147483648 ≤ value) (high : value ≤ 2147483647) :
    readAsInt value = value := by
  have kept : max (-9223372036854775808) (min value 9223372036854775807) = value := by omega
  rw [readAsInt, kept, BitVec.toInt_ofInt]
  exact Int.bmod_eq_of_le (by omega) (by omega)

theorem takeWhile_digits {digits rest : Bytes} (areDigits : ∀ byte ∈ digits, isDigit byte = true)
    (stops : ∀ byte ∈ rest.head?, isDigit byte = false) :
    (digits ++ rest).takeWhile isDigit = digits := by
  rw [List.takeWhile_append_of_pos areDigits]
  cases rest with
  | nil => exact List.append_nil digits
  | cons byte rest =>
    rw [List.takeWhile_cons_of_neg (by simp [stops byte rfl]), List.append_nil]

/-- A run of digits is a number without a sign. -/
theorem signed_digits {digits rest : Bytes} (nonempty : digits ≠ [])
    (areDigits : ∀ byte ∈ digits, isDigit byte = true)
    (stops : ∀ byte ∈ rest.head?, isDigit byte = false) :
    signed (digits ++ rest) = some ((decimal digits : Int), digits.length) := by
  have unsigned : ∀ sign : UInt8, isDigit sign = false → (digits ++ rest).head? ≠ some sign := by
    intro sign other first
    obtain ⟨byte, more, rfl⟩ := List.exists_cons_of_ne_nil nonempty
    obtain rfl : byte = sign := Option.some.inj first
    rw [areDigits byte List.mem_cons_self] at other
    cases other
  have minus := unsigned 45 (by decide)
  have plus := unsigned 43 (by decide)
  have taken := takeWhile_digits areDigits stops
  simp only [signed, minus, plus, decide_false, Bool.or_self, Bool.false_eq_true, if_false, taken,
    Nat.sub_self, Nat.zero_add]

/-- Behind a minus it is the negative number. -/
theorem signed_minus {digits rest : Bytes} (nonempty : digits ≠ [])
    (areDigits : ∀ byte ∈ digits, isDigit byte = true)
    (stops : ∀ byte ∈ rest.head?, isDigit byte = false) :
    signed (45 :: (digits ++ rest)) = some (-(decimal digits : Int), digits.length + 1) := by
  have taken := takeWhile_digits areDigits stops
  simp only [signed, List.head?_cons, decide_true, Bool.true_or, if_true, List.tail_cons, taken]
  rw [List.length_cons, Nat.add_sub_cancel_left, Nat.add_comm]

theorem signed_of_digits {field : Bytes} (nonempty : field ≠ [])
    (digits : ∀ byte ∈ field, isDigit byte = true) :
    signed field = some ((decimal field : Int), field.length) := by
  have alone := @signed_digits field [] nonempty digits (by simp)
  rwa [List.append_nil] at alone

theorem le_nine_of_isDigit {byte : UInt8} (digit : isDigit byte = true) :
    48 ≤ byte.toNat ∧ byte.toNat ≤ 57 := by
  simp only [isDigit, Bool.and_eq_true, decide_eq_true_eq, UInt8.le_iff_toNat_le] at digit
  exact digit

theorem decimal_concat (digits : Bytes) (digit : UInt8) :
    decimal (digits ++ [digit]) = 10 * decimal digits + (digit.toNat - 48) := by
  simp only [decimal, List.foldl_append, List.foldl_cons, List.foldl_nil]

/-- No digits stand for more than as many nines. -/
theorem decimal_le {digits : Bytes} (areDigits : ∀ byte ∈ digits, isDigit byte = true) :
    decimal digits ≤ decimal (List.replicate digits.length 57) := by
  induction digits using List.reverseRecOn with
  | nil => exact Nat.le_refl _
  | append_singleton digits digit inductionHypothesis =>
    have earlier := inductionHypothesis fun byte member =>
      areDigits byte (List.mem_append_left _ member)
    have bounds := le_nine_of_isDigit (areDigits digit List.mem_concat_self)
    rw [List.length_append, List.length_singleton, List.replicate_succ', decimal_concat,
      decimal_concat]
    show 10 * decimal digits + (digit.toNat - 48) ≤ 10 * decimal _ + 9
    omega

/-- A conversion takes as many digits as it may. -/
theorem scanInt_of_digits {width : Nat} {input : Bytes} (positive : 0 < width) (small : width < 10)
    (enough : width ≤ input.length) (digits : ∀ byte ∈ input, isDigit byte = true) :
    scanInt width input = some ((decimal (input.take width) : Int), input.drop width) := by
  have solid : input.dropWhile isSpace = input := by
    cases input with
    | nil => rfl
    | cons byte input =>
      refine List.dropWhile_cons_of_neg ?_
      rw [isSpace_of_isDigit (digits byte List.mem_cons_self)]
      exact Bool.false_ne_true
  have length : (input.take width).length = width := List.length_take_of_le enough
  have nonempty : input.take width ≠ [] := by
    rw [← List.length_pos_iff, length]
    exact positive
  have nines : ∀ width < 10, decimal (List.replicate width 57) ≤ 2147483647 := by decide
  have bounded := @decimal_le (input.take width) fun byte member =>
    digits byte (List.mem_of_mem_take member)
  rw [length] at bounded
  have isInt : readAsInt (decimal (input.take width)) = decimal (input.take width) :=
    readAsInt_of_int (by omega) (Int.ofNat_le.mpr (bounded.trans (nines width small)))
  rw [scanInt, solid, signed_of_digits nonempty fun byte member =>
    digits byte (List.mem_of_mem_take member), length]
  simp only [isInt]

/-! ### Comparison -/

/-- `strcmp`, as the difference of the first bytes that differ; the terminator counts as zero. -/
def strcmp : Bytes → Bytes → Int
  | [], [] => 0
  | [], byte :: _ => -(byte.toNat : Int)
  | byte :: _, [] => byte.toNat
  | left :: lefts, right :: rights =>
    if left = right then strcmp lefts rights else (left.toNat : Int) - right.toNat

/-- Of two runs of digits of one length, the one behind the smaller number is smaller. -/
theorem foldl_digits_lt {lefts rights : Bytes} (length : lefts.length = rights.length)
    (digits : ∀ byte ∈ lefts, isDigit byte = true) {left right : Nat} (smaller : left < right) :
    lefts.foldl (fun value digit => 10 * value + (digit.toNat - 48)) left <
      rights.foldl (fun value digit => 10 * value + (digit.toNat - 48)) right := by
  induction lefts generalizing rights left right with
  | nil =>
    cases rights with
    | nil => exact smaller
    | cons _ _ => cases length
  | cons first lefts inductionHypothesis =>
    cases rights with
    | nil => cases length
    | cons second rights =>
      have bounds := le_nine_of_isDigit (digits first List.mem_cons_self)
      have later := fun byte member => digits byte (List.mem_cons_of_mem first member)
      refine inductionHypothesis (Nat.succ.inj length) later ?_
      show 10 * left + (first.toNat - 48) < 10 * right + (second.toNat - 48)
      omega

/-- Runs of digits of one length compare as their numbers do. -/
theorem strcmp_pos_of_digits {lefts rights : Bytes} (length : lefts.length = rights.length)
    (leftDigits : ∀ byte ∈ lefts, isDigit byte = true)
    (rightDigits : ∀ byte ∈ rights, isDigit byte = true) :
    0 < strcmp lefts rights ↔ decimal rights < decimal lefts := by
  unfold decimal
  generalize 0 = value
  induction lefts generalizing rights value with
  | nil =>
    cases rights with
    | nil => simp [strcmp]
    | cons _ _ => cases length
  | cons left lefts inductionHypothesis =>
    cases rights with
    | nil => cases length
    | cons right rights =>
      have leftLater := fun byte member => leftDigits byte (List.mem_cons_of_mem left member)
      have rightLater := fun byte member => rightDigits byte (List.mem_cons_of_mem right member)
      have leftBounds := le_nine_of_isDigit (leftDigits left List.mem_cons_self)
      have rightBounds := le_nine_of_isDigit (rightDigits right List.mem_cons_self)
      rw [strcmp, List.foldl_cons, List.foldl_cons]
      by_cases same : left = right
      · rw [if_pos same, same]
        exact inductionHypothesis (Nat.succ.inj length) leftLater rightLater _
      · have differ : left.toNat ≠ right.toNat := fun equal => same (UInt8.toNat_inj.mp equal)
        rw [if_neg same]
        rcases Nat.lt_or_gt_of_ne differ with less | greater
        · have later := foldl_digits_lt (Nat.succ.inj length) leftLater
            (by omega : 10 * value + (left.toNat - 48) < 10 * value + (right.toNat - 48))
          exact iff_of_false (by omega) (Nat.lt_asymm later)
        · have later := foldl_digits_lt (Nat.succ.inj length).symm rightLater
            (by omega : 10 * value + (right.toNat - 48) < 10 * value + (left.toNat - 48))
          exact iff_of_true (by omega) later

/-- Swapping the texts turns the sign. -/
theorem strcmp_swap (lefts rights : Bytes) : strcmp rights lefts = -strcmp lefts rights := by
  induction lefts generalizing rights with
  | nil => cases rights <;> simp [strcmp]
  | cons left lefts inductionHypothesis =>
    cases rights with
    | nil => simp [strcmp]
    | cons right rights =>
      rw [strcmp, strcmp]
      by_cases same : left = right
      · rw [if_pos same, if_pos same.symm, inductionHypothesis]
      · rw [if_neg same, if_neg (Ne.symm same)]
        omega

/-! ### Numbers of a fixed width -/

/-- The last digits of a number, zeros in front. -/
def padded : Nat → Nat → Bytes
  | 0, _ => []
  | width + 1, value => padded width (value / 10) ++ [UInt8.ofNat (48 + value % 10)]

theorem length_padded (width value : Nat) : (padded width value).length = width := by
  induction width generalizing value with
  | zero => rfl
  | succ width inductionHypothesis =>
    rw [padded, List.length_append, inductionHypothesis]
    rfl

theorem toNat_lastDigit (value : Nat) :
    (UInt8.ofNat (48 + value % 10)).toNat = 48 + value % 10 := by
  rw [UInt8.toNat_ofNat']
  exact Nat.mod_eq_of_lt (by omega)

theorem padded_digits (width value : Nat) : ∀ byte ∈ padded width value, isDigit byte = true := by
  induction width generalizing value with
  | zero => exact fun _ member => nomatch member
  | succ width inductionHypothesis =>
    intro byte member
    rcases List.mem_append.mp member with earlier | last
    · exact inductionHypothesis _ byte earlier
    · rw [List.mem_singleton.mp last, isDigit, Bool.and_eq_true, decide_eq_true_eq,
        decide_eq_true_eq, UInt8.le_iff_toNat_le, UInt8.le_iff_toNat_le, toNat_lastDigit]
      exact ⟨Nat.le_add_right _ _, by show 48 + value % 10 ≤ 57; omega⟩

theorem decimal_padded_succ (width value : Nat) :
    decimal (padded (width + 1) value) = 10 * decimal (padded width (value / 10)) + value % 10 := by
  rw [padded, decimal_concat, toNat_lastDigit, Nat.add_sub_cancel_left]

/-- Digits are the number they stand for, written at their own width. -/
theorem padded_decimal {digits : Bytes} (areDigits : ∀ byte ∈ digits, isDigit byte = true) :
    padded digits.length (decimal digits) = digits := by
  induction digits using List.reverseRecOn with
  | nil => rfl
  | append_singleton digits digit inductionHypothesis =>
    have earlier := inductionHypothesis fun byte member =>
      areDigits byte (List.mem_append_left _ member)
    have bounds := le_nine_of_isDigit (areDigits digit List.mem_concat_self)
    have quotient : (10 * decimal digits + (digit.toNat - 48)) / 10 = decimal digits := by omega
    have last : 48 + (10 * decimal digits + (digit.toNat - 48)) % 10 = digit.toNat := by omega
    rw [List.length_append, List.length_singleton, decimal_concat, padded, quotient, last,
      UInt8.ofNat_toNat, earlier]

end CText
