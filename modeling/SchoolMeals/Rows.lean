/-
This file is about the loop of `get_meals_period_from_neis` over the rows of an
answer. Every row makes an entry of its date and its dishes, and the loop appends
the entry and a line break to its array. Where it is defined at all, the text
ends up with all entries.
-/

import SchoolMeals.Dishes

namespace SchoolMeals

open CText Interaction

/-! ### The entry of a row -/

/-- The entry of a row, if its pieces are there and no `strcat` writes past `entry`. -/
def rowEntry (libraries : Libraries) (item : Json) : Option Bytes := do
  let date ← memberText libraries item (utf8 "MLSV_YMD")
  let menu ← memberText libraries item (utf8 "DDISH_NM")
  formatEntry 512 menu date

/-- The text of a member, empty where the member is null. -/
def memberBytes (libraries : Libraries) (item : Json) (key : Bytes) : Bytes :=
  (memberText libraries item key).getD []

/-- The heading of a row and the line of every dish. -/
def rowText (libraries : Libraries) (item : Json) : Bytes :=
  entryHeading (memberBytes libraries item (utf8 "MLSV_YMD")) ++
    (dishTexts (memberBytes libraries item (utf8 "DDISH_NM"))).flatMap dishLine

theorem length_formattedDate_le (date : Bytes) : (formattedDate date).length ≤ 19 :=
  ((List.takeWhile_prefix _).length_le).trans (List.length_take_le 19 _)

theorem length_entryHeading_le (date : Bytes) : (entryHeading date).length ≤ 25 := by
  have bound := length_formattedDate_le date
  have start : (utf8 "📅 ").length = 5 := by decide
  rw [entryHeading, List.length_append, List.length_append, start, length_newline]
  omega

theorem zeroFree_memberText {libraries : Libraries} {item : Json} {key text : Bytes}
    (found : memberText libraries item key = some text) : 0 ∉ text := by
  have cut (memory : Bytes) (same : some (cString memory) = some text) : 0 ∉ text := by
    rw [← Option.some.inj same]
    exact zeroFree_cString memory
  rw [memberText] at found
  split at found
  · rw [← Option.some.inj found]
    exact List.not_mem_nil
  · rename_i value _
    cases value with
    | null => cases found
    | _ => exact cut _ found

/-- An entry that fits is the text of its row. -/
theorem rowEntry_eq {libraries : Libraries} {item : Json}
    (fits : (rowEntry libraries item).isSome) :
    rowEntry libraries item = some (rowText libraries item) := by
  obtain ⟨entry, isEntry⟩ := Option.isSome_iff_exists.mp fits
  rw [isEntry]
  rw [rowEntry, Option.bind_eq_bind, Option.bind_eq_some_iff] at isEntry
  obtain ⟨date, isDate, isEntry⟩ := isEntry
  rw [Option.bind_eq_some_iff] at isEntry
  obtain ⟨menu, isMenu, isEntry⟩ := isEntry
  have room : (entryHeading date).length < 512 :=
    Nat.lt_of_le_of_lt (length_entryHeading_le date) (by decide)
  rw [formatEntry_eq (zeroFree_memberText isMenu) date room] at isEntry
  rw [← (strcat_eq_some_iff.mp isEntry).2, rowText, memberBytes, memberBytes, isDate, isMenu]
  rfl

/-! ### The loop over the rows -/

/-- How many values a `size_t` has. -/
def sizeValues : Nat := 18446744073709551616

/-- `sizeof(buffer) - strlen(buffer) - 1`, which wraps for a text longer than the array. -/
def roomLeft (buffer : Bytes) : Nat := (sizeValues + maxMealLen - buffer.length - 1) % sizeValues

/-- The entries as lines of a text, with an empty line behind each. -/
def rowLines (entries : List Bytes) : Bytes := entries.flatMap (· ++ utf8 "\n")

theorem rowLines_cons (entry : Bytes) (entries : List Bytes) :
    rowLines (entry :: entries) = entry ++ utf8 "\n" ++ rowLines entries := List.flatMap_cons

theorem roomLeft_inside {buffer : Bytes} (inside : buffer.length ≤ maxMealLen - 1) :
    roomLeft buffer = maxMealLen - 1 - buffer.length := by
  have limit : maxMealLen = 2000 := rfl
  have values : sizeValues = 18446744073709551616 := rfl
  rw [limit] at inside
  rw [roomLeft, limit, values]
  omega

/-- The bounded copy fills the array at most. -/
theorem strncat_inside {buffer entry : Bytes} (inside : buffer.length ≤ maxMealLen - 1) :
    strncat buffer entry (roomLeft buffer) = (buffer ++ entry).take (maxMealLen - 1) := by
  rw [strncat, roomLeft_inside inside, List.take_append, List.take_of_length_le inside]

theorem addRows_cons (libraries : Libraries) (item : Json) (rows : List Json) (buffer : Bytes) :
    addRows libraries (item :: rows) buffer = rowEntry libraries item >>= fun entry =>
      strcat maxMealLen (strncat buffer entry (maxMealLen - buffer.length - 1)) (utf8 "\n") >>=
        addRows libraries rows := by
  simp only [addRows, rowEntry, bind_assoc]

section Rows

variable {libraries : Libraries} {rows : List Json}
  (entries : ∀ item ∈ rows, (rowEntry libraries item).isSome)

include entries

theorem filterMap_rowEntry :
    rows.filterMap (rowEntry libraries) = rows.map (rowText libraries) := by
  rw [← List.filterMap_eq_map]
  exact List.filterMap_congr fun item member => rowEntry_eq (entries item member)

/-- The loop of the source is defined exactly as long as it stays inside, and then appends all
entries. -/
theorem addRows_lines {buffer : Bytes} (inside : buffer.length ≤ maxMealLen - 1) :
    addRows libraries rows buffer =
      strcat maxMealLen buffer (rowLines (rows.filterMap (rowEntry libraries))) := by
  have limit : maxMealLen = 2000 := rfl
  induction rows generalizing buffer with
  | nil =>
    refine (strcat_eq_some_iff.mpr ⟨?_, List.append_nil buffer⟩).symm
    show buffer.length + 0 < maxMealLen
    omega
  | cons item rows inductionHypothesis =>
    have isEntry := rowEntry_eq (entries item List.mem_cons_self)
    have room : maxMealLen - buffer.length - 1 = roomLeft buffer := by
      rw [roomLeft_inside inside]
      omega
    rw [addRows_cons, isEntry, List.filterMap_cons_some isEntry, rowLines_cons, Option.bind_eq_bind,
      Option.bind_some, room, strncat_inside inside, ← strcat_strcat]
    by_cases fits : buffer.length + (rowText libraries item).length < maxMealLen - 1
    · have whole : (buffer ++ rowText libraries item).take (maxMealLen - 1) =
          buffer ++ rowText libraries item :=
        List.take_of_length_le (by rw [List.length_append]; omega)
      have ended : strcat maxMealLen (buffer ++ rowText libraries item) (utf8 "\n") =
          some (buffer ++ rowText libraries item ++ utf8 "\n") :=
        strcat_of_fits (by rw [List.length_append, length_newline]; omega)
      have added : strcat maxMealLen buffer (rowText libraries item ++ utf8 "\n") =
          some (buffer ++ rowText libraries item ++ utf8 "\n") := by
        rw [List.append_assoc]
        exact strcat_of_fits (by rw [List.length_append, length_newline]; omega)
      have inside : (buffer ++ rowText libraries item ++ utf8 "\n").length ≤ maxMealLen - 1 := by
        simp only [List.length_append, length_newline]
        omega
      rw [whole, ended, added, Option.bind_some]
      exact inductionHypothesis (fun other member => entries other (List.mem_cons_of_mem _ member))
        inside
    · have full : ((buffer ++ rowText libraries item).take (maxMealLen - 1)).length =
          maxMealLen - 1 := by
        rw [List.length_take, List.length_append]
        omega
      have overrun : strcat maxMealLen ((buffer ++ rowText libraries item).take (maxMealLen - 1))
          (utf8 "\n") = none := by
        rw [strcat, full, if_neg (by rw [length_newline, limit]; decide)]
      have tooLong : strcat maxMealLen buffer (rowText libraries item ++ utf8 "\n") = none := by
        rw [strcat, if_neg (by rw [List.length_append, length_newline]; omega)]
      rw [overrun, tooLong]
      rfl

end Rows

/-- Where the loop is defined, so is every entry. -/
theorem entries_of_addRows {libraries : Libraries} {rows : List Json} {buffer text : Bytes}
    (added : addRows libraries rows buffer = some text) :
    ∀ item ∈ rows, (rowEntry libraries item).isSome := by
  induction rows generalizing buffer with
  | nil => exact fun item member => absurd member List.not_mem_nil
  | cons item rows inductionHypothesis =>
    rw [addRows_cons, Option.bind_eq_bind, Option.bind_eq_some_iff] at added
    obtain ⟨entry, isEntry, added⟩ := added
    rw [Option.bind_eq_some_iff] at added
    obtain ⟨ended, _, added⟩ := added
    refine List.forall_mem_cons.mpr ⟨?_, inductionHypothesis added⟩
    rw [isEntry]
    rfl

end SchoolMeals
