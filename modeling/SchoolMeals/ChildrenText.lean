/-
This file is about the two functions that write a list of children as JSON. One
writes the comma in front of an element, the other behind it, and both through an
array of 256 bytes into one of 4096. For as many children as the server keeps,
with fields that fit their arrays and need no escapes, nothing is cut, and a
JSON parser reads exactly the children.
-/

import SchoolMeals.Library.JsonText
import SchoolMeals.Server

namespace SchoolMeals

open CText JsonText

/-! ### Children and their values -/

/-- A string that fits its array, is UTF-8 and stands for itself in a JSON text. -/
structure Printable (size : Nat) (text : Bytes) : Prop where
  fits : text.length < size
  valid : IsUtf8 text
  plain : ∀ byte ∈ text, IsPlain byte

/-- A record all of whose fields are such strings. -/
structure Child.IsPrintable (child : Child) : Prop where
  id : Printable maxIdLen child.id
  name : Printable maxNameLen child.name
  eduOffice : Printable maxEduOfficeLen child.eduOffice
  schoolName : Printable maxSchoolNameLen child.schoolName

/-- The fields that the `GET_CHILDREN` branch writes. -/
def Child.shortFields (child : Child) : List (Bytes × Bytes) :=
  [(utf8 "id", child.id), (utf8 "name", child.name)]

/-- The fields that `get_children` writes. -/
def Child.allFields (child : Child) : List (Bytes × Bytes) :=
  [(utf8 "id", child.id), (utf8 "name", child.name), (utf8 "edu_office", child.eduOffice),
    (utf8 "school_name", child.schoolName)]

/-- The JSON object with these strings as its members. -/
def stringsValue (fields : List (Bytes × Bytes)) : Value :=
  .object (fields.map fun field => (field.1, .string field.2))

def stringsText (fields : List (Bytes × Bytes)) : Bytes :=
  objectText (fields.map fun field => (field.1, quoted field.2))

theorem shortFields_written (child : Child) :
    utf8 "\x7b\"id\":\"" ++ child.id ++ utf8 "\",\"name\":\"" ++ child.name ++ utf8 "\"\x7d" =
      stringsText child.shortFields := by
  have opening : utf8 "\x7b\"id\":\"" = 123 :: (quoted (utf8 "id") ++ [58, 34]) := by decide
  have between : utf8 "\",\"name\":\"" = 34 :: 44 :: (quoted (utf8 "name") ++ [58, 34]) := by decide
  have closing : utf8 "\"\x7d" = [34, 125] := by decide
  rw [opening, between, closing]
  simp [stringsText, Child.shortFields, objectText, commaSeparated, memberText, quoted]

theorem allFields_written (child : Child) :
    utf8 "\x7b\"id\":\"" ++ child.id ++ utf8 "\",\"name\":\"" ++ child.name ++
        utf8 "\",\"edu_office\":\"" ++ child.eduOffice ++ utf8 "\",\"school_name\":\"" ++
        child.schoolName ++ utf8 "\"\x7d" =
      stringsText child.allFields := by
  have opening : utf8 "\x7b\"id\":\"" = 123 :: (quoted (utf8 "id") ++ [58, 34]) := by decide
  have name : utf8 "\",\"name\":\"" = 34 :: 44 :: (quoted (utf8 "name") ++ [58, 34]) := by decide
  have office : utf8 "\",\"edu_office\":\"" =
      34 :: 44 :: (quoted (utf8 "edu_office") ++ [58, 34]) := by decide
  have school : utf8 "\",\"school_name\":\"" =
      34 :: 44 :: (quoted (utf8 "school_name") ++ [58, 34]) := by decide
  have closing : utf8 "\"\x7d" = [34, 125] := by decide
  rw [opening, name, office, school, closing]
  simp [stringsText, Child.allFields, objectText, commaSeparated, memberText, quoted]

/-! ### The loops -/

/-- A loop that appends each piece through an array of 256 bytes. -/
def appendPieces (pieces : List Bytes) (json : Bytes) : Bytes :=
  pieces.foldl (fun json piece =>
    strncat json (snprintf 256 piece) (bufferSize - json.length - 1)) json

/-- The end of both functions. -/
def closeList (json : Bytes) : Bytes := strncat json (utf8 "]") (bufferSize - json.length - 1)

/-- What one loop appends: the comma in front of all elements but the first. -/
def commaFirst (texts : List Bytes) : List Bytes :=
  texts.zipIdx.map fun (text, index) => (if index > 0 then utf8 "," else []) ++ text

/-- What the other loop appends: the comma behind all elements but the last. -/
def commaLast (texts : List Bytes) : List Bytes :=
  texts.zipIdx.map fun (text, index) =>
    text ++ if index + 1 < texts.length then utf8 "," else []

theorem childrenList_eq (children : List Child) :
    childrenList children = closeList (appendPieces
      (commaFirst (children.map fun child => stringsText child.shortFields)) (utf8 "[")) := by
  have round : (fun (json : Bytes) (entry : Child × Nat) => strncat json (snprintf 256 <|
        (if entry.2 > 0 then utf8 "," else []) ++ utf8 "\x7b\"id\":\"" ++ entry.1.id ++
        utf8 "\",\"name\":\"" ++ entry.1.name ++ utf8 "\"\x7d") (bufferSize - json.length - 1)) =
      fun json entry => strncat json (snprintf 256 <|
        (if entry.2 > 0 then utf8 "," else []) ++ stringsText entry.1.shortFields)
        (bufferSize - json.length - 1) := by
    funext json entry
    rw [← shortFields_written]
    simp only [List.append_assoc]
  rw [appendPieces, commaFirst, List.zipIdx_map, List.map_map, List.foldl_map]
  exact congrArg (fun step => closeList (children.zipIdx.foldl step (utf8 "["))) round

theorem childrenJson_eq (children : List Child) :
    childrenJson children = closeList (appendPieces
      (commaLast (children.map fun child => stringsText child.allFields)) (utf8 "[")) := by
  have round : (fun (json : Bytes) (entry : Child × Nat) => strncat json (snprintf 256 <|
        utf8 "\x7b\"id\":\"" ++ entry.1.id ++ utf8 "\",\"name\":\"" ++ entry.1.name ++
        utf8 "\",\"edu_office\":\"" ++ entry.1.eduOffice ++ utf8 "\",\"school_name\":\"" ++
        entry.1.schoolName ++ utf8 "\"\x7d" ++
        (if entry.2 + 1 < children.length then utf8 "," else [])) (bufferSize - json.length - 1)) =
      fun json entry => strncat json (snprintf 256 <| stringsText entry.1.allFields ++
        if entry.2 + 1 < children.length then utf8 "," else []) (bufferSize - json.length - 1) := by
    funext json entry
    rw [← allFields_written]
  rw [appendPieces, commaLast, List.zipIdx_map, List.map_map, List.foldl_map, List.length_map]
  exact congrArg (fun step => closeList (children.zipIdx.foldl step (utf8 "["))) round

/-- Pieces that fit are appended as they are. -/
theorem appendPieces_of_fits {pieces : List Bytes} (each : ∀ piece ∈ pieces, piece.length ≤ 255)
    {json : Bytes} (fits : json.length + pieces.flatten.length ≤ bufferSize - 1) :
    appendPieces pieces json = json ++ pieces.flatten := by
  induction pieces generalizing json with
  | nil => exact (List.append_nil json).symm
  | cons piece pieces inductionHypothesis =>
    obtain ⟨first, later⟩ := List.forall_mem_cons.mp each
    rw [List.flatten_cons, List.length_append] at fits
    have appended : strncat json (snprintf 256 piece) (bufferSize - json.length - 1) =
        json ++ piece := by
      rw [snprintf_of_fits _ _ first, strncat, List.take_of_length_le (by omega)]
    show appendPieces pieces (strncat json (snprintf 256 piece) (bufferSize - json.length - 1)) = _
    rw [appended, inductionHypothesis later (by rw [List.length_append]; omega),
      List.append_assoc, List.flatten_cons]

theorem flatten_commaFirst (texts : List Bytes) :
    (commaFirst texts).flatten = commaSeparated texts := by
  have later : ∀ (texts : List Bytes) (start : Nat), 0 < start →
      ((texts.zipIdx start).map fun (text, index) =>
        (if index > 0 then utf8 "," else []) ++ text).flatten =
        texts.flatMap fun text => 44 :: text := by
    intro texts
    induction texts with
    | nil => exact fun _ _ => rfl
    | cons text texts inductionHypothesis =>
      intro start positive
      have comma : utf8 "," = [44] := by decide
      rw [List.zipIdx_cons, List.map_cons, List.flatten_cons,
        inductionHypothesis (start + 1) (Nat.succ_pos start), List.flatMap_cons]
      show (if start > 0 then utf8 "," else []) ++ text ++ _ = _
      rw [if_pos positive, comma]
      rfl
  cases texts with
  | nil => rfl
  | cons text texts =>
    rw [commaFirst, List.zipIdx_cons, List.map_cons, List.flatten_cons,
      later texts 1 Nat.one_pos, commaSeparated_eq_flatMap]
    rfl

theorem flatten_commaLast (texts : List Bytes) :
    (commaLast texts).flatten = commaSeparated texts := by
  have onward : ∀ (texts : List Bytes) (start : Nat),
      ((texts.zipIdx start).map fun (text, index) =>
        text ++ if index + 1 < start + texts.length then utf8 "," else []).flatten =
        commaSeparated texts := by
    intro texts
    induction texts with
    | nil => exact fun _ => rfl
    | cons text texts inductionHypothesis =>
      intro start
      have comma : utf8 "," = [44] := by decide
      have rest := inductionHypothesis (start + 1)
      rw [Nat.add_assoc, Nat.add_comm 1] at rest
      rw [List.zipIdx_cons, List.map_cons, List.flatten_cons, List.length_cons, rest]
      cases texts with
      | nil => simp [commaSeparated]
      | cons next texts => simp [commaSeparated, comma]
  rw [commaLast, ← onward texts 0, Nat.zero_add]

/-! ### Nothing is cut -/

theorem length_stringsText_short {child : Child} (printable : child.IsPrintable) :
    (stringsText child.shortFields).length ≤ 218 := by
  have id := printable.id.fits
  have name := printable.name.fits
  have idLimit : maxIdLen = 20 := rfl
  have nameLimit : maxNameLen = 50 := rfl
  rw [← shortFields_written]
  simp only [List.length_append]
  have literals : (utf8 "\x7b\"id\":\"").length = 7 ∧ (utf8 "\",\"name\":\"").length = 10 ∧
      (utf8 "\"\x7d").length = 2 := by decide
  omega

theorem length_stringsText_all {child : Child} (printable : child.IsPrintable) :
    (stringsText child.allFields).length ≤ 218 := by
  have id := printable.id.fits
  have name := printable.name.fits
  have office := printable.eduOffice.fits
  have school := printable.schoolName.fits
  have limits : maxIdLen = 20 ∧ maxNameLen = 50 ∧ maxEduOfficeLen = 50 ∧ maxSchoolNameLen = 50 := by
    decide
  rw [← allFields_written]
  simp only [List.length_append]
  have literals : (utf8 "\x7b\"id\":\"").length = 7 ∧ (utf8 "\",\"name\":\"").length = 10 ∧
      (utf8 "\",\"edu_office\":\"").length = 16 ∧ (utf8 "\",\"school_name\":\"").length = 17 ∧
      (utf8 "\"\x7d").length = 2 := by decide
  omega

theorem length_flatten_le {pieces : List Bytes} {bound : Nat}
    (each : ∀ piece ∈ pieces, piece.length ≤ bound) :
    pieces.flatten.length ≤ pieces.length * bound := by
  induction pieces with
  | nil => exact Nat.zero_le _
  | cons piece pieces inductionHypothesis =>
    obtain ⟨first, later⟩ := List.forall_mem_cons.mp each
    have rest := inductionHypothesis later
    rw [List.flatten_cons, List.length_append, List.length_cons, Nat.succ_mul]
    omega

/-- A list of few enough short elements is written whole. -/
theorem closeList_appendPieces {pieces texts : List Bytes}
    (each : ∀ piece ∈ pieces, piece.length ≤ 219) (few : pieces.length ≤ maxChildren)
    (flatten : pieces.flatten = commaSeparated texts) :
    closeList (appendPieces pieces (utf8 "[")) = arrayText texts ∧
      (arrayText texts).length ≤ 2192 := by
  have total := length_flatten_le each
  have limit : maxChildren = 10 := rfl
  have size : bufferSize = 4096 := rfl
  have opening : utf8 "[" = [91] := by decide
  have closing : utf8 "]" = [93] := by decide
  have fits : (utf8 "[").length + pieces.flatten.length ≤ 2191 := by
    rw [opening, List.length_singleton]
    omega
  constructor
  · rw [appendPieces_of_fits (fun piece given => Nat.le_trans (each piece given) (by decide))
      (Nat.le_trans fits (by decide)), closeList, strncat, List.take_of_length_le]
    · rw [opening, closing, flatten, arrayText, List.singleton_append, List.cons_append]
    · rw [List.length_append, closing, List.length_singleton]
      omega
  · rw [opening, List.length_singleton, flatten] at fits
    rw [arrayText, List.length_cons, List.length_append, List.length_singleton]
    omega

/-- A comma takes one byte more. -/
theorem length_commaFirst_le {texts : List Bytes} (each : ∀ text ∈ texts, text.length ≤ 218) :
    ∀ piece ∈ commaFirst texts, piece.length ≤ 219 := by
  intro piece member
  obtain ⟨⟨text, index⟩, given, rfl⟩ := List.mem_map.mp member
  have short := each text (List.fst_mem_of_mem_zipIdx given)
  have comma : (if index > 0 then utf8 "," else []).length ≤ 1 := by split <;> decide
  show ((if index > 0 then utf8 "," else []) ++ text).length ≤ 219
  rw [List.length_append]
  omega

theorem length_commaLast_le {texts : List Bytes} (each : ∀ text ∈ texts, text.length ≤ 218) :
    ∀ piece ∈ commaLast texts, piece.length ≤ 219 := by
  intro piece member
  obtain ⟨⟨text, index⟩, given, rfl⟩ := List.mem_map.mp member
  have short := each text (List.fst_mem_of_mem_zipIdx given)
  have comma : (if index + 1 < texts.length then utf8 "," else []).length ≤ 1 := by
    split <;> decide
  show (text ++ if index + 1 < texts.length then utf8 "," else []).length ≤ 219
  rw [List.length_append]
  omega

section Children

variable {children : List Child} (few : children.length ≤ maxChildren)
  (printable : ∀ child ∈ children, child.IsPrintable)
include few printable

theorem childrenList_eq_arrayText :
    childrenList children =
        arrayText (children.map fun child => stringsText child.shortFields) ∧
      (arrayText (children.map fun child => stringsText child.shortFields)).length ≤ 2192 := by
  rw [childrenList_eq]
  refine closeList_appendPieces (length_commaFirst_le ?_) (by simpa [commaFirst] using few)
    (flatten_commaFirst _)
  rintro text member
  obtain ⟨child, given, rfl⟩ := List.mem_map.mp member
  exact length_stringsText_short (printable child given)

theorem childrenJson_eq_arrayText :
    childrenJson children =
        arrayText (children.map fun child => stringsText child.allFields) ∧
      (arrayText (children.map fun child => stringsText child.allFields)).length ≤ 2192 := by
  rw [childrenJson_eq]
  refine closeList_appendPieces (length_commaLast_le ?_) (by simpa [commaLast] using few)
    (flatten_commaLast _)
  rintro text member
  obtain ⟨child, given, rfl⟩ := List.mem_map.mp member
  exact length_stringsText_all (printable child given)

end Children

/-! ### What a parser reads -/

theorem reads_stringsText {fields : List (Bytes × Bytes)}
    (plain : ∀ field ∈ fields, (∀ byte ∈ field.1, IsPlain byte) ∧ ∀ byte ∈ field.2, IsPlain byte) :
    Reads (stringsText fields) (stringsValue fields) :=
  reads_objectText (fun field given => (plain field given).1)
    fun field given => reads_quoted (plain field given).2

theorem isUtf8_stringsText {fields : List (Bytes × Bytes)}
    (valid : ∀ field ∈ fields, IsUtf8 field.1 ∧ IsUtf8 field.2) : IsUtf8 (stringsText fields) := by
  refine isUtf8_objectText fun member given => ?_
  obtain ⟨field, isField, rfl⟩ := List.mem_map.mp given
  exact ⟨(valid field isField).1, isUtf8_quoted (valid field isField).2⟩

/-- A list of objects whose members are strings is read as it was written. -/
theorem parse_arrayText {fieldsOf : Child → List (Bytes × Bytes)} {children : List Child}
    (plain : ∀ child ∈ children, ∀ field ∈ fieldsOf child,
      (∀ byte ∈ field.1, IsPlain byte) ∧ ∀ byte ∈ field.2, IsPlain byte)
    (valid : ∀ child ∈ children, ∀ field ∈ fieldsOf child, IsUtf8 field.1 ∧ IsUtf8 field.2) :
    parse (arrayText (children.map fun child => stringsText (fieldsOf child))) =
      some (.array (children.map fun child => stringsValue (fieldsOf child))) := by
  refine (reads_arrayText fun child given => reads_stringsText (plain child given)).parse ?_
  refine isUtf8_arrayText fun text member => ?_
  obtain ⟨child, given, rfl⟩ := List.mem_map.mp member
  exact isUtf8_stringsText (valid child given)

theorem Child.IsPrintable.allFields {child : Child} (printable : child.IsPrintable) :
    ∀ field ∈ child.allFields,
      ((∀ byte ∈ field.1, IsPlain byte) ∧ ∀ byte ∈ field.2, IsPlain byte) ∧
        IsUtf8 field.1 ∧ IsUtf8 field.2 := by
  simp only [Child.allFields, List.forall_mem_cons, List.not_mem_nil, false_imp_iff, implies_true,
    and_true]
  exact ⟨⟨⟨forall_mem_of_all (by decide), printable.id.plain⟩, isUtf8_utf8 _, printable.id.valid⟩,
    ⟨⟨forall_mem_of_all (by decide), printable.name.plain⟩, isUtf8_utf8 _, printable.name.valid⟩,
    ⟨⟨forall_mem_of_all (by decide), printable.eduOffice.plain⟩, isUtf8_utf8 _,
      printable.eduOffice.valid⟩,
    ⟨forall_mem_of_all (by decide), printable.schoolName.plain⟩, isUtf8_utf8 _,
    printable.schoolName.valid⟩

/-- The short list has some of the fields of the long one. -/
theorem Child.shortFields_subset (child : Child) :
    ∀ field ∈ child.shortFields, field ∈ child.allFields :=
  fun _ given => List.mem_append_left
    [(utf8 "edu_office", child.eduOffice), (utf8 "school_name", child.schoolName)] given

/-- The identifier and the name in each element of a list. -/
def idsAndNames (list : Value) : List (Option Bytes × Option Bytes) :=
  list.elements.map fun element =>
    (element.stringAt (utf8 "id"), element.stringAt (utf8 "name"))

theorem idsAndNames_short (children : List Child) :
    idsAndNames (.array (children.map fun child => stringsValue child.shortFields)) =
      children.map fun child => (some child.id, some child.name) := by
  rw [idsAndNames, Value.elements, List.map_map]
  rfl

theorem idsAndNames_all (children : List Child) :
    idsAndNames (.array (children.map fun child => stringsValue child.allFields)) =
      children.map fun child => (some child.id, some child.name) := by
  rw [idsAndNames, Value.elements, List.map_map]
  rfl

/-- The text that `send_response` sends with a list is not cut. -/
theorem reply_getChildren_text {json : Bytes} (nonempty : json ≠ []) (short : json.length ≤ 2192) :
    Reply.text ⟨respSuccess, respGetChildrenOk, json⟩ =
      utf8 "1" ++ cmdDelimiter ++ respGetChildrenOk ++ cmdDelimiter ++ json := by
  have status : utf8 (toString respSuccess) = utf8 "1" := by decide
  rw [Reply.text, if_pos (List.length_pos_iff.mpr nonempty), status]
  refine snprintf_of_fits _ _ ?_
  have front : (utf8 "1" ++ cmdDelimiter ++ respGetChildrenOk ++ cmdDelimiter).length ≤ 100 := by
    decide
  have size : bufferSize = 4096 := rfl
  show (utf8 "1" ++ cmdDelimiter ++ respGetChildrenOk ++ cmdDelimiter ++ json).length ≤
    bufferSize - 1
  rw [List.length_append]
  omega

/-- Both lists are written whole and sent whole, a parser reads exactly the children from them, in
order, and both agree on identifiers and names. -/
structure ListedExactly (children : List Child) : Prop where
  listRead : parse (childrenList children) =
    some (.array (children.map fun child => stringsValue child.shortFields))
  jsonRead : parse (childrenJson children) =
    some (.array (children.map fun child => stringsValue child.allFields))
  listNames : (parse (childrenList children)).map idsAndNames =
    some (children.map fun child => (some child.id, some child.name))
  jsonNames : (parse (childrenJson children)).map idsAndNames =
    some (children.map fun child => (some child.id, some child.name))
  listWhole : childrenList children =
    arrayText (children.map fun child => stringsText child.shortFields)
  jsonWhole : childrenJson children =
    arrayText (children.map fun child => stringsText child.allFields)
  sentWhole : ∀ json ∈ [childrenList children, childrenJson children],
    Reply.text ⟨respSuccess, respGetChildrenOk, json⟩ =
      utf8 "1" ++ cmdDelimiter ++ respGetChildrenOk ++ cmdDelimiter ++ json

theorem listedExactly (children : List Child) (few : children.length ≤ maxChildren)
    (printable : ∀ child ∈ children, child.IsPrintable) : ListedExactly children := by
  obtain ⟨list, listLength⟩ := childrenList_eq_arrayText few printable
  obtain ⟨json, jsonLength⟩ := childrenJson_eq_arrayText few printable
  have all := fun child given => (printable child given).allFields
  have listRead : parse (childrenList children) =
      some (.array (children.map fun child => stringsValue child.shortFields)) := by
    rw [list]
    exact parse_arrayText
      (fun child given field isField =>
        (all child given field (child.shortFields_subset field isField)).1)
      (fun child given field isField =>
        (all child given field (child.shortFields_subset field isField)).2)
  have jsonRead : parse (childrenJson children) =
      some (.array (children.map fun child => stringsValue child.allFields)) := by
    rw [json]
    exact parse_arrayText (fun child given field isField => (all child given field isField).1)
      (fun child given field isField => (all child given field isField).2)
  refine ⟨listRead, jsonRead, ?_, ?_, list, json, ?_⟩
  · rw [listRead, Option.map_some, idsAndNames_short]
  · rw [jsonRead, Option.map_some, idsAndNames_all]
  · intro text member
    simp only [List.mem_cons, List.not_mem_nil, or_false] at member
    rcases member with rfl | rfl
    · rw [list]
      exact reply_getChildren_text (List.cons_ne_nil _ _) listLength
    · rw [json]
      exact reply_getChildren_text (List.cons_ne_nil _ _) jsonLength

def sampleChildren : List Child :=
  [⟨utf8 "child1", utf8 "김하나", utf8 "B10", utf8 "7010569"⟩,
    ⟨utf8 "child2", [], utf8 "J10", utf8 "7530079"⟩]

theorem isPrintable_sampleChildren : ∀ child ∈ sampleChildren, child.IsPrintable := by
  have plain : ∀ (size : Nat) (literal : String), (utf8 literal).length < size →
      ((utf8 literal).all fun byte => IsPlain byte) = true → Printable size (utf8 literal) :=
    fun _ literal fits checked => ⟨fits, isUtf8_utf8 literal, forall_mem_of_all checked⟩
  simp only [sampleChildren, List.forall_mem_cons, List.not_mem_nil, false_imp_iff, implies_true,
    and_true]
  refine ⟨⟨plain _ _ ?_ ?_, plain _ _ ?_ ?_, plain _ _ ?_ ?_, plain _ _ ?_ ?_⟩,
    ⟨plain _ _ ?_ ?_, ⟨?_, isUtf8_nil, fun _ member => nomatch member⟩, plain _ _ ?_ ?_,
      plain _ _ ?_ ?_⟩⟩ <;> decide

/-- Two children, one of them without a name. -/
theorem listedExactly_sample : ListedExactly sampleChildren :=
  listedExactly sampleChildren (by decide) isPrintable_sampleChildren

end SchoolMeals
