/-
This file is a small library of SQL text: how an `INSERT` statement assembled by
string formatting is read back. A string literal runs from its opening quote to
the first quote that is not doubled, and a doubled quote inside it stands for
one quote. The central fact is that a field pasted between two quotes is read
back as itself exactly when it contains no quote: not only is a quote-free field
safe, no field with a quote is ever read back unchanged.
-/

import Mathlib.Data.List.Induction
import SchoolMeals.Library.CText

namespace SqlText

open CText

/-- The quote of a string literal. -/
def quote : UInt8 := 39

/-- The literal whose opening quote has just been read: its value and the text behind its
closing quote. -/
def readLiteral : Bytes → Option (Bytes × Bytes)
  | [] => none
  | [byte] => if byte = quote then some ([], []) else none
  | byte :: next :: rest =>
    if byte = quote then
      if next = quote then (readLiteral rest).map fun found => (quote :: found.1, found.2)
      else some ([], next :: rest)
    else (readLiteral (next :: rest)).map fun found => (byte :: found.1, found.2)

/-- White space and line comments; the flag says whether the text starts inside a comment. -/
def skipBlanks : Bool → Bytes → Bytes
  | _, [] => []
  | true, byte :: rest => skipBlanks (byte ≠ 10) rest
  | false, byte :: rest =>
    if isSpace byte then skipBlanks false rest
    else if byte = 45 ∧ rest.head? = some 45 then skipBlanks true rest
    else byte :: rest

/-- One symbol, with blanks in front of it. -/
def readSymbol (symbol : UInt8) (text : Bytes) : Option Bytes :=
  scanByte symbol (skipBlanks false text)

/-- One literal, with blanks in front of it. -/
def readQuoted (text : Bytes) : Option (Bytes × Bytes) :=
  (readSymbol quote text).bind readLiteral

/-- `count + 1` literals between commas. -/
def readValues : Nat → Bytes → Option (List Bytes × Bytes)
  | 0, text => (readQuoted text).map fun found => ([found.1], found.2)
  | count + 1, text =>
    (readQuoted text).bind fun found => (readSymbol 44 found.2).bind fun rest =>
      (readValues count rest).map fun more => (found.1 :: more.1, more.2)

/-- The end of a single statement: nothing follows but blanks and at most one semicolon. -/
def isStatementEnd (text : Bytes) : Bool :=
  match skipBlanks false text with
  | [] => true
  | byte :: rest => byte = 59 && skipBlanks false rest = []

/-- The values of a text that is one `INSERT` statement: the given head, up to the opening
parenthesis of the values, then `count + 1` literals and nothing else. -/
def readInsert (head : Bytes) (count : Nat) (text : Bytes) : Option (List Bytes) :=
  if text.take head.length = head then
    (readValues count (text.drop head.length)).bind fun found =>
      (readSymbol 41 found.2).bind fun rest => if isStatementEnd rest then some found.1 else none
  else none

/-! ### One literal -/

theorem readLiteral_byte (byte : UInt8) (text : Bytes) (different : byte ≠ quote) :
    readLiteral (byte :: text) =
      (readLiteral text).map fun found => (byte :: found.1, found.2) := by
  cases text with
  | nil => simp [readLiteral, different]
  | cons next rest => rw [readLiteral, if_neg different]

theorem readLiteral_pair (rest : Bytes) :
    readLiteral (quote :: quote :: rest) =
      (readLiteral rest).map fun found => (quote :: found.1, found.2) := by
  rw [readLiteral, if_pos rfl, if_pos rfl]

theorem readLiteral_close (rest : Bytes) (single : rest.head? ≠ some quote) :
    readLiteral (quote :: rest) = some ([], rest) := by
  cases rest with
  | nil => rfl
  | cons next rest =>
    have different : next ≠ quote := by simpa using single
    rw [readLiteral, if_pos rfl, if_neg different]

/-- A quote-free field between quotes is read back as itself. -/
theorem readLiteral_field (field rest : Bytes) (quoteFree : quote ∉ field)
    (single : rest.head? ≠ some quote) :
    readLiteral (field ++ quote :: rest) = some (field, rest) := by
  induction field with
  | nil => exact readLiteral_close rest single
  | cons byte field inductionHypothesis =>
    rw [List.mem_cons, not_or] at quoteFree
    rw [List.cons_append, readLiteral_byte _ _ (Ne.symm quoteFree.1),
      inductionHypothesis quoteFree.2]
    rfl

/-- Behind a byte that is no quote no quote can be owed. -/
theorem readLiteral_byte_inv {byte : UInt8} {text field after : Bytes} {pending : Nat}
    (different : byte ≠ quote)
    (read : readLiteral (byte :: text) =
      some (List.replicate pending quote ++ byte :: field, after)) :
    pending = 0 ∧ readLiteral text = some (field, after) := by
  rw [readLiteral_byte _ _ different, Option.map_eq_some_iff] at read
  obtain ⟨⟨value, rest⟩, found, equal⟩ := read
  cases pending with
  | zero =>
    simp only [List.replicate_zero, List.nil_append, Prod.mk.injEq, List.cons.injEq,
      true_and] at equal
    rw [found, equal.1, equal.2]
    exact ⟨rfl, rfl⟩
  | succ pending =>
    simp only [List.replicate_succ, List.cons_append, Prod.mk.injEq, List.cons.injEq] at equal
    exact absurd equal.1.1 different

/-- An owed quote may be taken from either end of the debt. -/
theorem replicate_append_quote (pending : Nat) (field : Bytes) :
    List.replicate pending quote ++ quote :: field =
      quote :: (List.replicate pending quote ++ field) := by
  rw [List.append_cons, ← List.replicate_succ', List.replicate_succ, List.cons_append]

/-- No field with a quote is read back as itself. A pair of quotes is read in one step, so the
value falls behind the text; `pending` counts the quotes the value still owes. -/
theorem quoteFree_of_pending (next : UInt8) (rest : Bytes) (different : next ≠ quote)
    (field : Bytes) : ∀ (pending : Nat) (after : Bytes),
      readLiteral (field ++ quote :: next :: rest) =
        some (List.replicate pending quote ++ field, after) → pending = 0 ∧ quote ∉ field := by
  have single : (next :: rest).head? ≠ some quote := by simpa using different
  induction field using List.twoStepInduction with
  | nil =>
    intro pending after read
    rw [List.nil_append, readLiteral_close _ single] at read
    cases pending with
    | zero => exact ⟨rfl, List.not_mem_nil⟩
    | succ _ => simp [List.replicate_succ] at read
  | singleton byte =>
    intro pending after read
    by_cases same : byte = quote
    · -- the closing quote would be the second half of a pair
      subst same
      rw [List.singleton_append, readLiteral_pair, replicate_append_quote,
        Option.map_eq_some_iff] at read
      obtain ⟨⟨value, tail⟩, found, equal⟩ := read
      rw [List.append_nil, Prod.mk.injEq, List.cons.injEq] at equal
      rw [readLiteral_byte _ _ different, Option.map_eq_some_iff] at found
      obtain ⟨_, _, starts⟩ := found
      cases pending with
      | zero => exact absurd ((Prod.mk.inj starts).1.trans equal.1.2) (List.cons_ne_nil _ _)
      | succ pending =>
        have heads := (Prod.mk.inj starts).1.trans equal.1.2
        exact absurd (List.cons.inj heads).1 different
    · obtain ⟨rfl, _⟩ := readLiteral_byte_inv same read
      exact ⟨rfl, by simpa using Ne.symm same⟩
  | cons_cons byte second field pairHypothesis byteHypothesis =>
    intro pending after read
    by_cases same : byte = quote
    · subst same
      by_cases pair : second = quote
      · -- the pair is one quote of the value, so one more quote is owed
        subst pair
        rw [List.cons_append, List.cons_append, readLiteral_pair, Option.map_eq_some_iff] at read
        obtain ⟨⟨value, tail⟩, found, equal⟩ := read
        rw [replicate_append_quote, replicate_append_quote, Prod.mk.injEq, List.cons.injEq] at equal
        have owed : value = List.replicate (pending + 1) quote ++ field := by
          rw [List.replicate_succ, List.cons_append]
          exact equal.1.2
        exact absurd (pairHypothesis (pending + 1) tail (owed ▸ found)).1 (Nat.succ_ne_zero _)
      · -- a single quote closes the literal before the field is read
        rw [List.cons_append, List.cons_append, readLiteral_close _ (by simpa using pair)] at read
        have equal := (Prod.mk.inj (Option.some.inj read)).1
        simp at equal
    · obtain ⟨rfl, tail⟩ := readLiteral_byte_inv same read
      have quoteFree := (byteHypothesis second 0 after tail).2
      refine ⟨rfl, fun member => ?_⟩
      rcases List.mem_cons.mp member with equal | member
      · exact same equal.symm
      · exact quoteFree member

/-! ### A formatted statement -/

/-- The format `'%s', …, '%s'`. -/
def pasteValues : List Bytes → Bytes
  | [] => []
  | [field] => quote :: (field ++ [quote])
  | field :: next :: fields => quote :: (field ++ quote :: 44 :: 32 :: pasteValues (next :: fields))

/-- The format `<head>'%s', …, '%s');`. -/
def insertText (head : Bytes) (fields : List Bytes) : Bytes :=
  head ++ pasteValues fields ++ [41, 59]

theorem readQuoted_quote (text : Bytes) : readQuoted (quote :: text) = readLiteral text := rfl

theorem readQuoted_blank (text : Bytes) : readQuoted (32 :: quote :: text) = readLiteral text := rfl

/-- Quote-free fields are read back from the formatted values. -/
theorem readValues_pasteValues (rest : Bytes) (first : Bytes) (fields : List Bytes)
    (quoteFree : ∀ field ∈ first :: fields, quote ∉ field) :
    readValues fields.length (pasteValues (first :: fields) ++ 41 :: rest) =
      some (first :: fields, 41 :: rest) ∧
    readValues fields.length (32 :: pasteValues (first :: fields) ++ 41 :: rest) =
      some (first :: fields, 41 :: rest) := by
  induction fields generalizing first with
  | nil =>
    have read := readLiteral_field first (41 :: rest) (quoteFree first (by simp)) (by simp [quote])
    have text : pasteValues [first] ++ 41 :: rest = quote :: (first ++ quote :: 41 :: rest) := by
      simp [pasteValues]
    rw [List.cons_append, text]
    simp only [List.length_nil, readValues, readQuoted_quote, readQuoted_blank, read,
      Option.map_some, and_self]
  | cons next fields inductionHypothesis =>
    have tail := (inductionHypothesis next
      fun field member => quoteFree field (List.mem_cons_of_mem _ member)).2
    have read := readLiteral_field first (44 :: 32 :: pasteValues (next :: fields) ++ 41 :: rest)
      (quoteFree first (by simp)) (by simp [quote])
    have text : pasteValues (first :: next :: fields) ++ 41 :: rest =
        quote :: (first ++ quote :: (44 :: 32 :: pasteValues (next :: fields) ++ 41 :: rest)) := by
      simp [pasteValues]
    have comma : readSymbol 44 (44 :: 32 :: pasteValues (next :: fields) ++ 41 :: rest) =
        some (32 :: pasteValues (next :: fields) ++ 41 :: rest) := rfl
    rw [List.cons_append, text]
    simp only [List.length_cons, readValues, readQuoted_quote, readQuoted_blank, read,
      Option.bind_some, comma, tail, Option.map_some, and_self]

/-- Fields that are read back from the formatted values are quote-free. -/
theorem quoteFree_of_readValues (rest after : Bytes) (first : Bytes) (fields : List Bytes)
    (read : readValues fields.length (pasteValues (first :: fields) ++ 41 :: rest) =
        some (first :: fields, after) ∨
      readValues fields.length (32 :: pasteValues (first :: fields) ++ 41 :: rest) =
        some (first :: fields, after)) :
    ∀ field ∈ first :: fields, quote ∉ field := by
  induction fields generalizing first with
  | nil =>
    have text : pasteValues [first] ++ 41 :: rest = quote :: (first ++ quote :: 41 :: rest) := by
      simp [pasteValues]
    rw [List.cons_append, text] at read
    simp only [List.length_nil, readValues, readQuoted_quote, readQuoted_blank, or_self,
      Option.map_eq_some_iff] at read
    obtain ⟨⟨value, tail⟩, found, equal⟩ := read
    obtain rfl : value = first := by simpa using (Prod.mk.inj equal).1
    have quoteFree := (quoteFree_of_pending 41 rest (by decide) value 0 tail found).2
    simpa using quoteFree
  | cons next fields inductionHypothesis =>
    have text : pasteValues (first :: next :: fields) ++ 41 :: rest =
        quote :: (first ++ quote :: 44 :: 32 :: (pasteValues (next :: fields) ++ 41 :: rest)) := by
      simp [pasteValues]
    rw [List.cons_append, text] at read
    simp only [List.length_cons, readValues, readQuoted_quote, readQuoted_blank, or_self,
      Option.bind_eq_some_iff, Option.map_eq_some_iff] at read
    obtain ⟨⟨value, tail⟩, found, middle, comma, ⟨more, tail'⟩, readMore, equal⟩ := read
    obtain ⟨rfl, rfl⟩ : value = first ∧ more = next :: fields := by
      simpa using (Prod.mk.inj equal).1
    have quoteFree := (quoteFree_of_pending 44 _ (by decide) value 0 tail found).2
    rw [readLiteral_field value _ quoteFree (by simp [quote])] at found
    obtain rfl := (Prod.mk.inj (Option.some.inj found)).2
    obtain rfl := Option.some.inj comma
    have equalAfter : tail' = after := (Prod.mk.inj equal).2
    have restFree := inductionHypothesis next (Or.inr (equalAfter ▸ readMore))
    intro field member
    rcases List.mem_cons.mp member with rfl | member
    · exact quoteFree
    · exact restFree field member

/-- An `INSERT` statement assembled by formatting reads as one statement whose values are the
given fields exactly when no field contains a quote. -/
theorem readInsert_insertText_iff (head first : Bytes) (fields : List Bytes) :
    readInsert head fields.length (insertText head (first :: fields)) = some (first :: fields) ↔
      ∀ field ∈ first :: fields, quote ∉ field := by
  have start : (insertText head (first :: fields)).take head.length = head := by
    simp [insertText]
  have values : (insertText head (first :: fields)).drop head.length =
      pasteValues (first :: fields) ++ 41 :: [59] := by simp [insertText]
  rw [readInsert, if_pos start, values]
  constructor
  · intro read
    simp only [Option.bind_eq_some_iff] at read
    obtain ⟨⟨found, after⟩, readFields, rest, _, ended⟩ := read
    split at ended
    · obtain rfl := Option.some.inj ended
      exact quoteFree_of_readValues [59] after first fields (Or.inl readFields)
    · cases ended
  · intro quoteFree
    rw [(readValues_pasteValues [59] first fields quoteFree).1]
    rfl

end SqlText
