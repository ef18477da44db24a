/-
This file is a small library of query strings. The parameters of a URL are what
stands between ampersands, behind the first question mark and in front of the
first hash; a parameter is a name and, behind the first equals sign, a value, and
both are percent-decoded. Values that are written without being encoded are read
back exactly when they are literal: no ampersand, no hash, and nothing to decode.
A text that is cut never reads back.
-/

import SchoolMeals.Library.CText

namespace CText

/-! ### Percent-encoding -/

/-- The value of a hexadecimal digit. -/
def hexValue (byte : UInt8) : Option UInt8 :=
  if 48 ≤ byte ∧ byte ≤ 57 then some (byte - 48)
  else if 65 ≤ byte ∧ byte ≤ 70 then some (byte - 55)
  else if 97 ≤ byte ∧ byte ≤ 102 then some (byte - 87)
  else none

/-- The byte that a percent sign and two digits stand for. -/
def escapedByte (high low : UInt8) : Option UInt8 := do
  let high ← hexValue high
  let low ← hexValue low
  return 16 * high + low

/-- Every percent sign with two hexadecimal digits behind it is replaced. -/
def percentDecode : Bytes → Bytes
  | [] => []
  | [byte] => [byte]
  | [first, second] => [first, second]
  | byte :: high :: low :: rest =>
    if byte = 37 then
      match escapedByte high low with
      | some value => value :: percentDecode rest
      | none => byte :: percentDecode (high :: low :: rest)
    else byte :: percentDecode (high :: low :: rest)

/-- The bytes that are never encoded: letters, digits, `-`, `.`, `_` and `~`. -/
def isUnreserved (byte : UInt8) : Bool :=
  (48 ≤ byte ∧ byte ≤ 57) ∨ (65 ≤ byte ∧ byte ≤ 90) ∨ (97 ≤ byte ∧ byte ≤ 122) ∨
    byte = 45 ∨ byte = 46 ∨ byte = 95 ∨ byte = 126

/-- A digit of a percent-encoding. -/
def hexDigit (value : UInt8) : UInt8 := if value < 10 then 48 + value else 55 + value

def percentEncode (text : Bytes) : Bytes :=
  text.flatMap fun byte =>
    if isUnreserved byte then [byte] else [37, hexDigit (byte / 16), hexDigit (byte % 16)]

theorem percentDecode_cons_of_ne {byte : UInt8} (other : byte ≠ 37) (text : Bytes) :
    percentDecode (byte :: text) = byte :: percentDecode text := by
  match text with
  | [] => rfl
  | [_] => rfl
  | high :: low :: rest => rw [percentDecode, if_neg other]

theorem percentDecode_escaped {high low value : UInt8} (escaped : escapedByte high low = some value)
    (rest : Bytes) : percentDecode (37 :: high :: low :: rest) = value :: percentDecode rest := by
  rw [percentDecode, if_pos rfl, escaped]

theorem length_percentDecode_le (text : Bytes) : (percentDecode text).length ≤ text.length := by
  fun_induction percentDecode text with
  | case1 | case2 | case3 => exact Nat.le_refl _
  | case4 high low rest value _ inductionHypothesis =>
    simp only [List.length_cons]
    omega
  | case5 high low rest _ inductionHypothesis => exact Nat.succ_le_succ inductionHypothesis
  | case6 byte high low rest _ inductionHypothesis => exact Nat.succ_le_succ inductionHypothesis

theorem escapedByte_hexDigit (byte : UInt8) :
    escapedByte (hexDigit (byte / 16)) (hexDigit (byte % 16)) = some byte := by
  have all : ∀ value : Fin 256, escapedByte (hexDigit (UInt8.ofNat value.val / 16))
      (hexDigit (UInt8.ofNat value.val % 16)) = some (UInt8.ofNat value.val) := by decide +kernel
  simpa using all ⟨byte.toNat, byte.toNat_lt⟩

/-- What is encoded is read back. -/
theorem percentDecode_percentEncode (text : Bytes) : percentDecode (percentEncode text) = text := by
  induction text with
  | nil => rfl
  | cons byte text inductionHypothesis =>
    rw [percentEncode, List.flatMap_cons]
    by_cases plain : isUnreserved byte
    · have other : byte ≠ 37 := fun percent => absurd (percent ▸ plain) (by decide)
      rw [if_pos plain, List.singleton_append, percentDecode_cons_of_ne other]
      exact congrArg (byte :: ·) inductionHypothesis
    · rw [if_neg plain]
      exact (percentDecode_escaped (escapedByte_hexDigit byte) _).trans
        (congrArg (byte :: ·) inductionHypothesis)

theorem isUnreserved_hexDigit (byte : UInt8) :
    isUnreserved (hexDigit (byte / 16)) ∧ isUnreserved (hexDigit (byte % 16)) := by
  have all : ∀ value : Fin 256, isUnreserved (hexDigit (UInt8.ofNat value.val / 16)) ∧
      isUnreserved (hexDigit (UInt8.ofNat value.val % 16)) := by decide +kernel
  simpa using all ⟨byte.toNat, byte.toNat_lt⟩

/-- An encoded text has unreserved bytes and percent signs only. -/
theorem mem_percentEncode {text : Bytes} {byte : UInt8} (member : byte ∈ percentEncode text) :
    isUnreserved byte ∨ byte = 37 := by
  obtain ⟨source, _, inside⟩ := List.mem_flatMap.mp member
  by_cases plain : isUnreserved source
  · rw [if_pos plain, List.mem_singleton] at inside
    exact .inl (inside ▸ plain)
  · obtain ⟨high, low⟩ := isUnreserved_hexDigit source
    rw [if_neg plain] at inside
    simp only [List.mem_cons, List.not_mem_nil, or_false] at inside
    rcases inside with rfl | rfl | rfl
    · exact .inr rfl
    · exact .inl high
    · exact .inl low

/-- There is no percent sign with two hexadecimal digits behind it. -/
def EscapeFree (text : Bytes) : Prop :=
  ∀ front high low rest, text = front ++ 37 :: high :: low :: rest → escapedByte high low = none

theorem EscapeFree.tail {byte : UInt8} {text : Bytes} (free : EscapeFree (byte :: text)) :
    EscapeFree text :=
  fun front high low rest split => free (byte :: front) high low rest (split ▸ rfl)

/-- Only such a text decodes to itself: every replacement makes a text shorter. -/
theorem percentDecode_eq_self_iff (text : Bytes) : percentDecode text = text ↔ EscapeFree text := by
  have cons {byte high low : UInt8} {rest : Bytes}
      (inductionHypothesis : percentDecode (high :: low :: rest) = high :: low :: rest ↔
        EscapeFree (high :: low :: rest))
      (first : byte = 37 → escapedByte high low = none) :
      byte :: percentDecode (high :: low :: rest) = byte :: high :: low :: rest ↔
        EscapeFree (byte :: high :: low :: rest) := by
    rw [List.cons_inj_right, inductionHypothesis]
    refine ⟨fun free front otherHigh otherLow later split => ?_, EscapeFree.tail⟩
    cases front with
    | nil =>
      simp only [List.nil_append, List.cons.injEq] at split
      obtain ⟨isPercent, rfl, rfl, rfl⟩ := split
      exact first isPercent
    | cons _ front => exact free front otherHigh otherLow later (List.cons.inj split).2
  have short {text : Bytes} (few : text.length ≤ 2) : EscapeFree text := by
    rintro front high low rest rfl
    simp only [List.length_append, List.length_cons] at few
    omega
  fun_induction percentDecode text with
  | case1 | case2 | case3 => exact iff_of_true rfl (short (by simp))
  | case4 high low rest value escaped _ =>
    refine iff_of_false (fun same => ?_) fun free => ?_
    · have lengths := congrArg List.length same
      have bound := length_percentDecode_le rest
      simp only [List.length_cons] at lengths
      omega
    · rw [free [] high low rest rfl] at escaped
      cases escaped
  | case5 high low rest escaped inductionHypothesis =>
    exact cons inductionHypothesis fun _ => escaped
  | case6 byte high low rest other inductionHypothesis =>
    exact cons inductionHypothesis fun percent => absurd percent other

/-! ### Parameters -/

/-- A piece between ampersands: a name, and what stands behind its first equals sign. -/
def splitParameter (piece : Bytes) : Bytes × Option Bytes :=
  if 61 ∈ piece then
    (percentDecode (piece.takeWhile (· ≠ 61)),
      some (percentDecode (piece.dropWhile (· ≠ 61)).tail))
  else (percentDecode piece, none)

/-- The parameters in a query. -/
def parametersOf (query : Bytes) : List (Bytes × Option Bytes) :=
  (query.splitOnP (· ∈ utf8 "&")).map splitParameter

/-- The parameters of a URL, without its fragment. -/
def readQuery (url : Bytes) : List (Bytes × Option Bytes) :=
  parametersOf ((url.takeWhile (· ≠ 35)).dropWhile (· ≠ 63)).tail

/-- A parameter as it is written without being encoded. -/
def writeParameter (parameter : Bytes × Bytes) : Bytes :=
  parameter.1 ++ utf8 "=" ++ parameter.2

/-- A list of parameters as a query. -/
def writeParameters : List (Bytes × Bytes) → Bytes
  | [] => []
  | [parameter] => writeParameter parameter
  | parameter :: parameters => writeParameter parameter ++ utf8 "&" ++ writeParameters parameters

/-- A value that is read back as it is written. -/
structure IsLiteral (value : Bytes) : Prop where
  ampersand : 38 ∉ value
  hash : 35 ∉ value
  escapeFree : EscapeFree value

/-- A name without any of the characters that mean something. -/
def IsName (name : Bytes) : Prop := ∀ byte ∈ name, byte ∉ utf8 "&#%="

instance (name : Bytes) : Decidable (IsName name) := List.decidableBAll _ name

/-- A name decodes to itself. -/
theorem IsName.decode {name : Bytes} (isName : IsName name) : percentDecode name = name := by
  rw [percentDecode_eq_self_iff]
  rintro front high low rest rfl
  exact absurd (show (37 : UInt8) ∈ utf8 "&#%=" by decide) (isName 37 (by simp))

/-- In front of the query there is neither a question mark nor a hash. -/
theorem readQuery_behind {base : Bytes} (hash : 35 ∉ base) (question : 63 ∉ base) (query : Bytes) :
    readQuery (base ++ 63 :: query) = parametersOf (query.takeWhile (· ≠ 35)) := by
  have noHash : ∀ byte ∈ base, decide (byte ≠ 35) = true := fun byte member =>
    decide_eq_true (ne_of_mem_of_not_mem member hash)
  have noQuestion : ∀ byte ∈ base, decide (byte ≠ 63) = true := fun byte member =>
    decide_eq_true (ne_of_mem_of_not_mem member question)
  rw [readQuery, List.takeWhile_append_of_pos noHash, List.takeWhile_cons_of_pos (by decide),
    List.dropWhile_append_of_pos noQuestion, List.dropWhile_cons_of_neg (by decide), List.tail_cons]

theorem splitParameter_written {name : Bytes} (isName : IsName name) (value : Bytes) :
    splitParameter (writeParameter (name, value)) = (name, some (percentDecode value)) := by
  have equals : utf8 "=" = [61] := by decide
  have outside : ∀ byte ∈ name, decide (byte ≠ 61) = true := fun byte member =>
    decide_eq_true fun same => absurd (show byte ∈ utf8 "&#%=" by rw [same]; decide)
      (isName byte member)
  rw [writeParameter, equals, List.append_assoc, List.singleton_append, splitParameter,
    if_pos (by simp), List.takeWhile_append_of_pos outside,
    List.dropWhile_append_of_pos outside, List.takeWhile_cons_of_neg (by decide),
    List.dropWhile_cons_of_neg (by decide), List.append_nil, isName.decode, List.tail_cons]

/-- A piece is read as a name and a value when it begins with them as they are written, and the
value decodes to itself. -/
theorem splitParameter_prefix_iff {name value piece : Bytes} (isName : IsName name)
    (begins : piece <+: writeParameter (name, value)) :
    splitParameter piece = (name, some value) ↔
      piece = writeParameter (name, value) ∧ percentDecode value = value := by
  have equals : utf8 "=" = [61] := by decide
  have written (text : Bytes) :
      splitParameter (name ++ 61 :: text) = (name, some (percentDecode text)) := by
    rw [← splitParameter_written isName, writeParameter, equals, List.append_assoc,
      List.singleton_append]
  rw [writeParameter, equals, List.append_assoc, List.singleton_append] at begins ⊢
  constructor
  · intro same
    have member : 61 ∈ piece := by
      by_contra absent
      rw [splitParameter, if_neg absent] at same
      cases (Prod.mk.inj same).2
    have notName : ¬ piece <+: name := fun inName =>
      isName 61 (inName.subset member) (by decide)
    have front : name ++ [61] <+: piece := by
      rcases List.prefix_or_prefix_of_prefix begins
        (⟨value, by simp⟩ : name ++ [61] <+: name ++ 61 :: value) with shorter | longer
      · rcases List.prefix_concat_iff.mp shorter with same | shorter
        · rw [same]
        · exact absurd shorter notName
      · exact longer
    obtain ⟨text, rfl⟩ := front
    rw [List.append_assoc, List.singleton_append] at same begins ⊢
    rw [written] at same
    have decoded : percentDecode text = value := Option.some.inj (Prod.mk.inj same).2
    have inside : text <+: value :=
      (List.prefix_cons_inj 61).mp ((List.prefix_append_right_inj name).mp begins)
    have whole : text = value := by
      refine inside.eq_of_length_le ?_
      rw [← decoded]
      exact length_percentDecode_le text
    exact ⟨by rw [whole], whole ▸ decoded⟩
  · rintro ⟨rfl, same⟩
    rw [written, same]

theorem parametersOf_of_absent {query : Bytes} (absent : 38 ∉ query) :
    parametersOf query = [splitParameter query] := by
  have ampersand : utf8 "&" = [38] := by decide
  have outside : ∀ byte ∈ query, byte ∉ utf8 "&" := fun byte member inside => by
    rw [ampersand, List.mem_singleton] at inside
    exact absent (inside ▸ member)
  have pieces := splitOnP_token [] outside
  rw [List.append_nil] at pieces
  rw [parametersOf, pieces]
  simp

theorem parametersOf_append {piece : Bytes} (absent : 38 ∉ piece) (query : Bytes) :
    parametersOf (piece ++ 38 :: query) = splitParameter piece :: parametersOf query := by
  have whole := parametersOf_of_absent absent
  rw [parametersOf] at whole ⊢
  rw [List.splitOnP_append_cons piece query (by decide), List.map_append, whole]
  rfl

theorem parametersOf_ne_nil (query : Bytes) : parametersOf query ≠ [] := by
  rw [parametersOf, Ne, List.map_eq_nil_iff]
  exact List.splitOnP_ne_nil _ _

/-- The first piece of a query that begins a written list. -/
theorem first_literal {name value piece : Bytes} (isName : IsName name)
    (begins : piece <+: writeParameter (name, value)) (ampersand : 38 ∉ piece) (hash : 35 ∉ piece)
    (same : splitParameter piece = (name, some value)) :
    piece = writeParameter (name, value) ∧ IsLiteral value := by
  obtain ⟨rfl, decoded⟩ := (splitParameter_prefix_iff isName begins).mp same
  have inside : ∀ byte ∈ value, byte ∈ writeParameter (name, value) := fun byte member =>
    List.mem_append_right _ member
  exact ⟨rfl, fun member => ampersand (inside _ member), fun member => hash (inside _ member),
    (percentDecode_eq_self_iff value).mp decoded⟩

/-- A value without an ampersand or a hash leaves its parameter without them. -/
theorem writeParameter_plain {name value : Bytes} (isName : IsName name) (ampersand : 38 ∉ value)
    (hash : 35 ∉ value) :
    38 ∉ writeParameter (name, value) ∧ 35 ∉ writeParameter (name, value) := by
  have equals : utf8 "=" = [61] := by decide
  have nameAmpersand : 38 ∉ name := fun member => isName 38 member (by decide)
  have nameHash : 35 ∉ name := fun member => isName 35 member (by decide)
  constructor
  · simp [writeParameter, equals, nameAmpersand, ampersand]
  · simp [writeParameter, equals, nameHash, hash]

theorem splitParameter_literal {name value : Bytes} (isName : IsName name)
    (literal : IsLiteral value) : splitParameter (writeParameter (name, value)) =
      (name, some value) := by
  rw [splitParameter_written isName, (percentDecode_eq_self_iff value).mpr literal.escapeFree]

theorem writeParameters_cons (parameter : Bytes × Bytes) {parameters : List (Bytes × Bytes)}
    (nonempty : parameters ≠ []) :
    writeParameters (parameter :: parameters) =
      writeParameter parameter ++ 38 :: writeParameters parameters := by
  have ampersand : utf8 "&" = [38] := by decide
  rw [writeParameters, ampersand, List.append_assoc, List.singleton_append]
  exact nonempty

/-- What begins a text and has no ampersand ends in front of the first one. -/
theorem prefix_of_absent {piece first rest : Bytes} (absent : 38 ∉ piece)
    (begins : piece <+: first ++ 38 :: rest) : piece <+: first := by
  rcases List.prefix_or_prefix_of_prefix begins (List.prefix_append first _) with
    shorter | ⟨more, rfl⟩
  · exact shorter
  · have inRest : more <+: 38 :: rest := (List.prefix_append_right_inj first).mp begins
    cases more with
    | nil => rw [List.append_nil]
    | cons byte more =>
      have same : byte = 38 := (List.cons_prefix_cons.mp inRest).1
      exact absurd (List.mem_append_right first (same ▸ List.mem_cons_self)) absent

/-- The text behind a parameter and its ampersand is cut on its own. -/
theorem cut_behind {first rest : Bytes} (hash : 35 ∉ first) {limit : Nat}
    (room : first.length < limit) :
    ((first ++ 38 :: rest).take limit).takeWhile (· ≠ 35) =
      first ++ 38 :: ((rest.take (limit - first.length - 1)).takeWhile (· ≠ 35)) := by
  have outside : ∀ byte ∈ first, decide (byte ≠ 35) = true := fun byte member =>
    decide_eq_true (ne_of_mem_of_not_mem member hash)
  obtain ⟨more, isMore⟩ : ∃ more, limit - first.length = more + 1 :=
    ⟨limit - first.length - 1, by omega⟩
  rw [List.take_append, List.take_of_length_le (Nat.le_of_lt room), isMore, List.take_succ_cons,
    List.takeWhile_append_of_pos outside, List.takeWhile_cons_of_pos (by decide),
    Nat.add_sub_cancel]

/-- A list of parameters that is cut somewhere is read back exactly when it is not cut, and all
values are literal. -/
theorem parametersOf_take_iff {parameters : List (Bytes × Bytes)} (nonempty : parameters ≠ [])
    (names : ∀ parameter ∈ parameters, IsName parameter.1) (limit : Nat) :
    parametersOf (((writeParameters parameters).take limit).takeWhile (· ≠ 35)) =
        parameters.map (fun parameter => (parameter.1, some parameter.2)) ↔
      (∀ parameter ∈ parameters, IsLiteral parameter.2) ∧
        (writeParameters parameters).length ≤ limit := by
  induction parameters generalizing limit with
  | nil => exact absurd rfl nonempty
  | cons parameter parameters inductionHypothesis =>
    obtain ⟨firstName, otherNames⟩ := List.forall_mem_cons.mp names
    obtain ⟨name, value⟩ := parameter
    have isName : IsName name := firstName
    have plain (literal : IsLiteral value) :=
      writeParameter_plain isName literal.ampersand literal.hash
    have isCut (text : Bytes) : (text.take limit).takeWhile (· ≠ 35) <+: text :=
      (List.takeWhile_prefix _).trans (List.take_prefix _ _)
    have noHash (text : Bytes) : 35 ∉ (text.take limit).takeWhile (· ≠ 35) := fun member => by
      simpa using List.mem_takeWhile_imp member
    cases parameters with
    | nil =>
      simp only [List.forall_mem_singleton, List.map_cons, List.map_nil, writeParameters]
      constructor
      · intro same
        have absent : 38 ∉ ((writeParameter (name, value)).take limit).takeWhile (· ≠ 35) := by
          intro member
          obtain ⟨rest, split⟩ := cut_at_byte member
          rw [split,
            parametersOf_append (fun inside => by simpa using List.mem_takeWhile_imp inside)]
            at same
          exact parametersOf_ne_nil rest (List.cons.inj same).2
        rw [parametersOf_of_absent absent] at same
        obtain ⟨whole, literal⟩ := first_literal isName (isCut _) absent (noHash _)
          (List.cons.inj same).1
        refine ⟨literal, ?_⟩
        have bound := (List.takeWhile_prefix (· ≠ 35)
          (l := (writeParameter (name, value)).take limit)).length_le
        rw [whole, List.length_take] at bound
        omega
      · rintro ⟨literal, fits⟩
        obtain ⟨ampersand, hash⟩ := plain literal
        have kept : (writeParameter (name, value)).takeWhile (· ≠ 35) =
            writeParameter (name, value) := List.takeWhile_eq_self_iff.mpr fun byte member =>
          decide_eq_true (ne_of_mem_of_not_mem member hash)
        rw [List.take_of_length_le fits, kept, parametersOf_of_absent ampersand,
          splitParameter_literal isName literal]
    | cons second parameters =>
      have later := inductionHypothesis (List.cons_ne_nil _ _) otherNames
      rw [writeParameters_cons _ (List.cons_ne_nil _ _), List.map_cons, List.forall_mem_cons,
        List.length_append, List.length_cons]
      constructor
      · intro same
        have member : 38 ∈ ((writeParameter (name, value) ++
            38 :: writeParameters (second :: parameters)).take limit).takeWhile (· ≠ 35) := by
          by_contra absent
          rw [parametersOf_of_absent absent] at same
          cases (List.cons.inj same).2
        obtain ⟨rest, split⟩ := cut_at_byte member
        generalize isPiece : (((writeParameter (name, value) ++
          38 :: writeParameters (second :: parameters)).take limit).takeWhile (· ≠ 35)).takeWhile
            (· ≠ 38) = piece at split
        have pieceAmpersand : 38 ∉ piece := fun inside => by
          rw [← isPiece] at inside
          simpa using List.mem_takeWhile_imp inside
        have pieceHash : 35 ∉ piece := fun inside =>
          noHash _ (split ▸ List.mem_append_left _ inside)
        have begins : piece <+: writeParameter (name, value) :=
          prefix_of_absent pieceAmpersand (List.IsPrefix.trans ⟨_, split.symm⟩ (isCut _))
        rw [split, parametersOf_append pieceAmpersand] at same
        obtain ⟨rfl, literal⟩ := first_literal isName begins pieceAmpersand pieceHash
          (List.cons.inj same).1
        have room : (writeParameter (name, value)).length < limit := by
          have taken := (List.takeWhile_prefix (· ≠ 35) (l := (writeParameter (name, value) ++
            38 :: writeParameters (second :: parameters)).take limit)).length_le
          rw [split, List.length_take, List.length_append, List.length_cons] at taken
          omega
        rw [cut_behind pieceHash room, List.append_cancel_left_eq, List.cons_inj_right] at split
        rw [← split] at same
        obtain ⟨literals, fits⟩ := (later _).mp (List.cons.inj same).2
        exact ⟨⟨literal, literals⟩, by omega⟩
      · rintro ⟨⟨literal, literals⟩, fits⟩
        obtain ⟨ampersand, hash⟩ := plain literal
        rw [cut_behind hash (by omega), parametersOf_append ampersand,
          splitParameter_literal isName literal, (later _).mpr ⟨literals, by omega⟩]

/-- Values without an ampersand or a hash are read back decoded. -/
theorem parametersOf_written {parameters : List (Bytes × Bytes)} (nonempty : parameters ≠ [])
    (names : ∀ parameter ∈ parameters, IsName parameter.1)
    (values : ∀ parameter ∈ parameters, 38 ∉ parameter.2 ∧ 35 ∉ parameter.2) :
    35 ∉ writeParameters parameters ∧ parametersOf (writeParameters parameters) =
      parameters.map fun parameter => (parameter.1, some (percentDecode parameter.2)) := by
  induction parameters with
  | nil => exact absurd rfl nonempty
  | cons parameter parameters inductionHypothesis =>
    obtain ⟨isName, otherNames⟩ := List.forall_mem_cons.mp names
    obtain ⟨isPlain, otherValues⟩ := List.forall_mem_cons.mp values
    obtain ⟨ampersand, hash⟩ := writeParameter_plain isName isPlain.1 isPlain.2
    cases parameters with
    | nil =>
      exact ⟨hash, (parametersOf_of_absent ampersand).trans
        (congrArg (fun read => [read]) (splitParameter_written isName parameter.2))⟩
    | cons second parameters =>
      obtain ⟨laterHash, later⟩ := inductionHypothesis (List.cons_ne_nil _ _) otherNames otherValues
      rw [writeParameters_cons _ (List.cons_ne_nil _ _), List.map_cons, ← later]
      refine ⟨?_, (parametersOf_append ampersand _).trans
        (congrArg (· :: _) (splitParameter_written isName parameter.2))⟩
      rw [List.mem_append, List.mem_cons]
      exact fun member => member.elim hash fun member => member.elim (by decide) laterHash

end CText
