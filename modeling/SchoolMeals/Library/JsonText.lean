/-
This file is a small library of JSON texts: a parser for the whole format, and
rules to show what it makes of a text. A text reads as a value when the parser
takes it, and nothing behind it, for that value. Strings without escapes read as
themselves; texts that read as values can be joined to arrays and objects, which
then read as the array or object of these values.
-/

import SchoolMeals.Library.Utf8

namespace CText

namespace JsonText

/-- What a text stands for. A number is kept as it is written. -/
inductive Value where
  | null
  | boolean (value : Bool)
  | number (text : Bytes)
  | string (text : Bytes)
  | array (elements : List Value)
  | object (members : List (Bytes × Value))

/-- The elements of an array. -/
def Value.elements : Value → List Value
  | .array elements => elements
  | _ => []

/-- The string under a key of an object. -/
def Value.stringAt (key : Bytes) : Value → Option Bytes
  | .object members =>
    match members.find? (·.1 = key) with
    | some (_, .string text) => some text
    | _ => none
  | _ => none

/-! ### The parser -/

/-- Space, tabulator and line breaks. -/
def isBlank (byte : UInt8) : Bool := byte = 32 || byte = 9 || byte = 10 || byte = 13

def skipBlanks (text : Bytes) : Bytes := text.dropWhile isBlank

/-- The value of a hexadecimal digit. -/
def hexValue (byte : UInt8) : Option Nat :=
  if 48 ≤ byte ∧ byte ≤ 57 then some (byte.toNat - 48)
  else if 65 ≤ byte ∧ byte ≤ 70 then some (byte.toNat - 55)
  else if 97 ≤ byte ∧ byte ≤ 102 then some (byte.toNat - 87)
  else none

/-- Four hexadecimal digits. -/
def readUnit : Bytes → Option (Nat × Bytes)
  | first :: second :: third :: fourth :: rest => do
    let value := 4096 * (← hexValue first) + 256 * (← hexValue second) + 16 * (← hexValue third) +
      (← hexValue fourth)
    return (value, rest)
  | _ => none

/-- What stands behind the backslash of an escape: the bytes it stands for. A surrogate has to
come with its other half. -/
def readEscape : Bytes → Option (Bytes × Bytes)
  | 34 :: rest => some ([34], rest)
  | 92 :: rest => some ([92], rest)
  | 47 :: rest => some ([47], rest)
  | 98 :: rest => some ([8], rest)
  | 102 :: rest => some ([12], rest)
  | 110 :: rest => some ([10], rest)
  | 114 :: rest => some ([13], rest)
  | 116 :: rest => some ([9], rest)
  | 117 :: rest => do
    let (unit, rest) ← readUnit rest
    if unit < 0xD800 ∨ 0xDFFF < unit then
      return (String.utf8EncodeChar (Char.ofNat unit), rest)
    else
      match rest with
      | 92 :: 117 :: rest =>
        let (low, rest) ← readUnit rest
        if unit < 0xDC00 ∧ 0xDC00 ≤ low ∧ low ≤ 0xDFFF then
          let code := 0x10000 + 1024 * (unit - 0xD800) + (low - 0xDC00)
          return (String.utf8EncodeChar (Char.ofNat code), rest)
        else none
      | _ => none
  | _ => none

/-- The rest of a string behind its opening quote. Each round reads a byte or an escape, so the
length of the text bounds the rounds. -/
def readString : Nat → Bytes → Option (Bytes × Bytes)
  | 0, _ => none
  | _ + 1, [] => none
  | rounds + 1, byte :: rest => do
    if byte = 34 then return ([], rest)
    else if byte = 92 then
      let (bytes, rest) ← readEscape rest
      let (text, rest) ← readString rounds rest
      return (bytes ++ text, rest)
    else if byte < 32 then none
    else
      let (text, rest) ← readString rounds rest
      return (byte :: text, rest)

/-- One digit or more. -/
def readDigits (text : Bytes) : Option (Bytes × Bytes) :=
  match text.takeWhile isDigit with
  | [] => none
  | digits => some (digits, text.dropWhile isDigit)

/-- The digits in front of the fraction: a zero stands alone. -/
def readInteger : Bytes → Option (Bytes × Bytes)
  | 48 :: rest => some ([48], rest)
  | text => readDigits text

def readFraction : Bytes → Option (Bytes × Bytes)
  | 46 :: rest => do
    let (digits, rest) ← readDigits rest
    return (46 :: digits, rest)
  | text => some ([], text)

def readExponent : Bytes → Option (Bytes × Bytes)
  | byte :: rest => do
    if byte = 69 ∨ byte = 101 then
      let sign := rest.take 1 |>.filter fun byte => byte = 43 || byte = 45
      let (digits, rest) ← readDigits (rest.drop sign.length)
      return (byte :: sign ++ digits, rest)
    else return ([], byte :: rest)
  | [] => some ([], [])

def readNumber (text : Bytes) : Option (Value × Bytes) := do
  let minus := text.take 1 |>.filter fun byte => byte = 45
  let (integer, rest) ← readInteger (text.drop minus.length)
  let (fraction, rest) ← readFraction rest
  let (exponent, rest) ← readExponent rest
  return (.number (minus ++ integer ++ fraction ++ exponent), rest)

/-- A word that stands for a value. -/
def readWord (word : Bytes) (value : Value) (text : Bytes) : Option (Value × Bytes) :=
  if word <+: text then some (value, text.drop word.length) else none

mutual

/-- A value, behind blanks. Values, elements and members lie in each other, and each of them takes
a byte of the text, so its length bounds the rounds. -/
def readValue : Nat → Bytes → Option (Value × Bytes)
  | 0, _ => none
  | rounds + 1, text =>
    match skipBlanks text with
    | [] => none
    | byte :: rest =>
      if byte = 34 then
        (readString (rest.length + 1) rest).map fun (text, rest) => (.string text, rest)
      else if byte = 91 then
        if (skipBlanks rest).head? = some 93 then some (.array [], (skipBlanks rest).tail)
        else (readElements rounds rest).map fun (elements, rest) => (.array elements, rest)
      else if byte = 123 then
        if (skipBlanks rest).head? = some 125 then some (.object [], (skipBlanks rest).tail)
        else (readMembers rounds rest).map fun (members, rest) => (.object members, rest)
      else if byte = 110 then readWord (utf8 "null") .null (byte :: rest)
      else if byte = 116 then readWord (utf8 "true") (.boolean true) (byte :: rest)
      else if byte = 102 then readWord (utf8 "false") (.boolean false) (byte :: rest)
      else readNumber (byte :: rest)

/-- The elements of an array up to its closing bracket. -/
def readElements : Nat → Bytes → Option (List Value × Bytes)
  | 0, _ => none
  | rounds + 1, text => do
    let (element, rest) ← readValue rounds text
    match skipBlanks rest with
    | 44 :: rest =>
      let (elements, rest) ← readElements rounds rest
      return (element :: elements, rest)
    | 93 :: rest => return ([element], rest)
    | _ => none

/-- The members of an object up to its closing brace. -/
def readMembers : Nat → Bytes → Option (List (Bytes × Value) × Bytes)
  | 0, _ => none
  | rounds + 1, text => do
    match skipBlanks text with
    | 34 :: rest =>
      let (key, rest) ← readString (rest.length + 1) rest
      match skipBlanks rest with
      | 58 :: rest =>
        let (value, rest) ← readValue rounds rest
        match skipBlanks rest with
        | 44 :: rest =>
          let (members, rest) ← readMembers rounds rest
          return ((key, value) :: members, rest)
        | 125 :: rest => return ([(key, value)], rest)
        | _ => none
      | _ => none
    | _ => none

end

/-- The value of a whole text, which has to be UTF-8. -/
def parse (text : Bytes) : Option Value :=
  if IsUtf8 text then
    match readValue (text.length + 1) text with
    | some (value, rest) => if skipBlanks rest = [] then some value else none
    | none => none
  else none

/-! ### Texts that read as values -/

/-- The parser takes the text for the value, whatever comes behind it. The text begins with a byte
that is neither a blank nor the end of an array. -/
structure Reads (text : Bytes) (value : Value) : Prop where
  starts : ∃ byte more, text = byte :: more ∧ isBlank byte = false ∧ byte ≠ 93
  reads : ∀ rounds rest, text.length ≤ rounds →
    readValue (rounds + 1) (text ++ rest) = some (value, rest)

/-- A whole text that reads as a value is parsed as that value. -/
theorem Reads.parse {text : Bytes} {value : Value} (isValue : Reads text value)
    (valid : IsUtf8 text) : parse text = some value := by
  have whole := isValue.reads text.length [] (Nat.le_refl _)
  rw [List.append_nil] at whole
  rw [JsonText.parse, if_pos valid, whole]
  rfl

theorem skipBlanks_cons {byte : UInt8} (solid : isBlank byte = false) (rest : Bytes) :
    skipBlanks (byte :: rest) = byte :: rest :=
  List.dropWhile_cons_of_neg (by simp [solid])

/-! ### Strings -/

/-- A byte that stands for itself in a string. -/
def IsPlain (byte : UInt8) : Prop := ¬ byte < 32 ∧ byte ≠ 34 ∧ byte ≠ 92

instance (byte : UInt8) : Decidable (IsPlain byte) := inferInstanceAs (Decidable (_ ∧ _ ∧ _))

/-- A string without escapes. -/
def quoted (text : Bytes) : Bytes := 34 :: (text ++ [34])

theorem readString_plain {text : Bytes} (plain : ∀ byte ∈ text, IsPlain byte) (rest : Bytes)
    {rounds : Nat} (enough : text.length < rounds) :
    readString rounds (text ++ 34 :: rest) = some (text, rest) := by
  induction text generalizing rounds with
  | nil =>
    obtain ⟨rounds, rfl⟩ := Nat.exists_eq_add_of_lt enough
    rfl
  | cons byte text inductionHypothesis =>
    obtain ⟨isPlain, later⟩ := List.forall_mem_cons.mp plain
    obtain ⟨rounds, rfl⟩ : ∃ left, rounds = left + 1 := ⟨rounds - 1, by omega⟩
    rw [List.cons_append, readString, if_neg isPlain.2.1, if_neg isPlain.2.2, if_neg isPlain.1,
      inductionHypothesis later (Nat.lt_of_succ_lt_succ enough)]
    rfl

/-- A quoted text is read up to its closing quote. -/
theorem readString_quoted {text : Bytes} (plain : ∀ byte ∈ text, IsPlain byte) (rest : Bytes) :
    readString ((text ++ 34 :: rest).length + 1) (text ++ 34 :: rest) = some (text, rest) := by
  refine readString_plain plain rest ?_
  rw [List.length_append]
  omega

theorem reads_quoted {text : Bytes} (plain : ∀ byte ∈ text, IsPlain byte) :
    Reads (quoted text) (.string text) := by
  refine ⟨⟨34, text ++ [34], rfl, by decide, by decide⟩, fun rounds rest _ => ?_⟩
  have opened : quoted text ++ rest = 34 :: (text ++ 34 :: rest) := by simp [quoted]
  rw [opened, readValue, skipBlanks_cons (by decide)]
  show Option.map _ (readString _ _) = _
  rw [readString_quoted plain rest]
  rfl

/-! ### Arrays and objects -/

/-- The texts with commas between them. -/
def commaSeparated : List Bytes → Bytes
  | [] => []
  | [text] => text
  | text :: next :: texts => text ++ 44 :: commaSeparated (next :: texts)

theorem commaSeparated_cons (text next : Bytes) (texts : List Bytes) (rest : Bytes) :
    commaSeparated (text :: next :: texts) ++ rest =
      text ++ 44 :: (commaSeparated (next :: texts) ++ rest) := by
  rw [commaSeparated, List.append_assoc, List.cons_append]

theorem length_commaSeparated_cons (text next : Bytes) (texts : List Bytes) :
    (commaSeparated (text :: next :: texts)).length =
      text.length + ((commaSeparated (next :: texts)).length + 1) := by
  rw [commaSeparated, List.length_append, List.length_cons]

def arrayText (texts : List Bytes) : Bytes := 91 :: (commaSeparated texts ++ [93])

/-- A key with the text of its value. -/
def memberText (key text : Bytes) : Bytes := quoted key ++ 58 :: text

def objectText (members : List (Bytes × Bytes)) : Bytes :=
  123 :: (commaSeparated (members.map fun member => memberText member.1 member.2) ++ [125])

/-- The commas stand in front of all texts but the first. -/
theorem commaSeparated_eq_flatMap (text : Bytes) (texts : List Bytes) :
    commaSeparated (text :: texts) = text ++ texts.flatMap fun next => 44 :: next := by
  induction texts generalizing text with
  | nil => exact (List.append_nil text).symm
  | cons next texts inductionHypothesis =>
    rw [commaSeparated, inductionHypothesis, List.flatMap_cons, List.cons_append]

section Utf8

theorem isUtf8_commaSeparated {texts : List Bytes} (valid : ∀ text ∈ texts, IsUtf8 text) :
    IsUtf8 (commaSeparated texts) := by
  cases texts with
  | nil => exact isUtf8_nil
  | cons text texts =>
    obtain ⟨first, later⟩ := List.forall_mem_cons.mp valid
    rw [commaSeparated_eq_flatMap]
    exact first.append (IsUtf8.flatMap fun next member => IsUtf8.cons (by decide)
      (later next member))

theorem isUtf8_arrayText {texts : List Bytes} (valid : ∀ text ∈ texts, IsUtf8 text) :
    IsUtf8 (arrayText texts) :=
  IsUtf8.cons (by decide) ((isUtf8_commaSeparated valid).append
    (IsUtf8.cons (by decide) isUtf8_nil))

theorem isUtf8_quoted {text : Bytes} (valid : IsUtf8 text) : IsUtf8 (quoted text) :=
  IsUtf8.cons (by decide) (valid.append (IsUtf8.cons (by decide) isUtf8_nil))

theorem isUtf8_objectText {members : List (Bytes × Bytes)}
    (valid : ∀ member ∈ members, IsUtf8 member.1 ∧ IsUtf8 member.2) :
    IsUtf8 (objectText members) := by
  refine IsUtf8.cons (by decide) ((isUtf8_commaSeparated ?_).append
    (IsUtf8.cons (by decide) isUtf8_nil))
  intro text member
  obtain ⟨⟨key, value⟩, given, rfl⟩ := List.mem_map.mp member
  exact (isUtf8_quoted (valid _ given).1).append (IsUtf8.cons (by decide) (valid _ given).2)

end Utf8

section Collections

variable {Item : Type} {items : List Item} {key text : Item → Bytes} {value : Item → Value}

/-- A reader of items takes the text of one of them in front of a comma or of the closing
bracket. -/
structure TakesItem {Result : Type} (read : Nat → Bytes → Option (List Result × Bytes))
    (close : UInt8) (text : Bytes) (item : Result) : Prop where
  more : ∀ rounds rest, text.length ≤ rounds → read (rounds + 2) (text ++ 44 :: rest) =
    (read (rounds + 1) rest).map fun others => (item :: others.1, others.2)
  last : ∀ rounds rest, text.length ≤ rounds →
    read (rounds + 2) (text ++ close :: rest) = some ([item], rest)

/-- A reader that takes each of the items takes all of them. -/
theorem read_commaSeparated {Result : Type} {read : Nat → Bytes → Option (List Result × Bytes)}
    {close : UInt8} {result : Item → Result}
    (takes : ∀ item ∈ items, TakesItem read close (text item) (result item))
    (nonempty : items ≠ []) (rest : Bytes) {rounds : Nat}
    (enough : (commaSeparated (items.map text)).length < rounds) :
    read (rounds + 1) (commaSeparated (items.map text) ++ close :: rest) =
      some (items.map result, rest) := by
  induction items generalizing rounds with
  | nil => exact absurd rfl nonempty
  | cons item items inductionHypothesis =>
    obtain ⟨own, later⟩ := List.forall_mem_cons.mp takes
    obtain ⟨rounds, rfl⟩ : ∃ left, rounds = left + 1 := ⟨rounds - 1, by omega⟩
    cases items with
    | nil => exact own.last rounds rest (Nat.le_of_lt_succ enough)
    | cons next items =>
      rw [List.map_cons, List.map_cons, length_commaSeparated_cons, ← List.map_cons] at enough
      have others := inductionHypothesis later (List.cons_ne_nil _ _)
        (by omega : (commaSeparated ((next :: items).map text)).length < rounds)
      rw [List.map_cons, List.map_cons, commaSeparated_cons, ← List.map_cons,
        own.more rounds _ (by omega), others]
      rfl

theorem takesItem_element {text : Bytes} {value : Value} (isValue : Reads text value) :
    TakesItem readElements 93 text value where
  more rounds rest enough := by
    rw [readElements, isValue.reads rounds (44 :: rest) enough]
    show (readElements (rounds + 1) rest).bind _ = _
    cases readElements (rounds + 1) rest <;> rfl
  last rounds rest enough := by
    rw [readElements, isValue.reads rounds (93 :: rest) enough]
    rfl

theorem reads_arrayText (reads : ∀ item ∈ items, Reads (text item) (value item)) :
    Reads (arrayText (items.map text)) (.array (items.map value)) := by
  refine ⟨⟨91, _, rfl, by decide, by decide⟩, fun rounds rest enough => ?_⟩
  have opened : arrayText (items.map text) ++ rest =
      91 :: (commaSeparated (items.map text) ++ 93 :: rest) := by simp [arrayText]
  rw [opened, readValue, skipBlanks_cons (by decide)]
  cases items with
  | nil => rfl
  | cons item items =>
    obtain ⟨byte, more, isText, solid, unclosed⟩ := (reads item List.mem_cons_self).starts
    have begins : ∃ more, commaSeparated ((item :: items).map text) ++ 93 :: rest =
        byte :: more := by
      cases items with
      | nil => exact ⟨_, by rw [List.map_cons, isText]; rfl⟩
      | cons next items => exact ⟨_, by rw [List.map_cons, List.map_cons, isText]; rfl⟩
    obtain ⟨behind, begins⟩ := begins
    have length : (arrayText ((item :: items).map text)).length =
        (commaSeparated ((item :: items).map text)).length + 2 := by simp [arrayText]
    obtain ⟨rounds, rfl⟩ : ∃ left, rounds = left + 1 := ⟨rounds - 1, by omega⟩
    have elements := read_commaSeparated
      (fun item given => takesItem_element (reads item given)) (List.cons_ne_nil _ _) rest
      (by omega : (commaSeparated ((item :: items).map text)).length < rounds)
    have notClosed : (skipBlanks (byte :: behind)).head? ≠ some 93 := by
      rw [skipBlanks_cons solid]
      exact fun same => unclosed (Option.some.inj same)
    rw [begins] at elements ⊢
    show (if (skipBlanks (byte :: behind)).head? = some 93 then _ else _) = _
    rw [if_neg notClosed, elements]
    rfl

theorem length_memberText (key text : Bytes) :
    (memberText key text).length = key.length + (text.length + 3) := by
  simp only [memberText, quoted, List.length_append, List.length_cons, List.length_nil]
  omega

/-- A member, and what comes behind its value. -/
theorem readMembers_member {key text : Bytes} {value : Value}
    (plain : ∀ byte ∈ key, IsPlain byte) (isValue : Reads text value) {rounds : Nat}
    (enough : text.length ≤ rounds) (behind : Bytes) :
    readMembers (rounds + 2) (memberText key text ++ behind) =
      match skipBlanks behind with
      | 44 :: rest => (readMembers (rounds + 1) rest).map fun read =>
          ((key, value) :: read.1, read.2)
      | 125 :: rest => some ([(key, value)], rest)
      | _ => none := by
  have opened : memberText key text ++ behind = 34 :: (key ++ 34 :: 58 :: (text ++ behind)) := by
    simp [memberText, quoted]
  have first := isValue.reads rounds behind enough
  rw [opened, readMembers, skipBlanks_cons (by decide)]
  show (readString _ _ >>= _) = _
  rw [readString_quoted plain]
  show (readValue _ _ >>= _) = _
  rw [first]
  show (match skipBlanks behind with
    | 44 :: rest => _
    | 125 :: rest => _
    | _ => _) = _
  split
  · cases readMembers (rounds + 1) _ <;> rfl
  · rfl
  · rfl

theorem takesItem_member {key text : Bytes} {value : Value}
    (plain : ∀ byte ∈ key, IsPlain byte) (isValue : Reads text value) :
    TakesItem readMembers 125 (memberText key text) (key, value) where
  more rounds rest enough := by
    rw [length_memberText] at enough
    exact readMembers_member plain isValue (by omega) (44 :: rest)
  last rounds rest enough := by
    rw [length_memberText] at enough
    exact readMembers_member plain isValue (by omega) (125 :: rest)

theorem reads_objectText (plain : ∀ item ∈ items, ∀ byte ∈ key item, IsPlain byte)
    (reads : ∀ item ∈ items, Reads (text item) (value item)) :
    Reads (objectText (items.map fun item => (key item, text item)))
      (.object (items.map fun item => (key item, value item))) := by
  refine ⟨⟨123, _, rfl, by decide, by decide⟩, fun rounds rest enough => ?_⟩
  have opened : objectText (items.map fun item => (key item, text item)) ++ rest =
      123 :: (commaSeparated (items.map fun item => memberText (key item) (text item)) ++
        125 :: rest) := by
    simp [objectText, Function.comp_def]
  have length : (objectText (items.map fun item => (key item, text item))).length =
      (commaSeparated (items.map fun item => memberText (key item) (text item))).length + 2 := by
    simp [objectText, Function.comp_def]
  rw [opened, readValue, skipBlanks_cons (by decide)]
  cases items with
  | nil => rfl
  | cons item items =>
    -- a member begins with the quote of its key
    obtain ⟨behind, begins⟩ : ∃ more, commaSeparated ((item :: items).map fun item =>
        memberText (key item) (text item)) ++ 125 :: rest = 34 :: more := by
      cases items with
      | nil => exact ⟨_, rfl⟩
      | cons next items => exact ⟨_, rfl⟩
    obtain ⟨rounds, rfl⟩ : ∃ left, rounds = left + 1 := ⟨rounds - 1, by omega⟩
    have members := read_commaSeparated
      (fun item given => takesItem_member (plain item given) (reads item given))
      (List.cons_ne_nil _ _) rest (by omega : (commaSeparated ((item :: items).map fun item =>
        memberText (key item) (text item))).length < rounds)
    rw [begins] at members ⊢
    show Option.map _ (readMembers (rounds + 1) (34 :: behind)) = _
    rw [members]
    rfl

end Collections

end JsonText

end CText
