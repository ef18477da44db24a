/-
This file asks what documents the three descents of `neis_api.c` can stand. Each
use of a pointer that json-c hands out has a precondition: an index or a length
needs an array, a copy needs a string that is not null, and the date of a row
needs its eight characters. The functions check some of them before the use and
leave others to NEIS; the documents they are safe on are those described here.
-/

import SchoolMeals.PeriodTexts

namespace SchoolMeals

open CText Interaction

/-! ### Uses of what json-c hands out -/

/-- What a function does with a value of the document, or with the string of one. -/
inductive Use where
  /-- `json_object_array_get_idx` or `json_object_array_length` of it. -/
  | elements (node : Json)
  /-- It is passed to `strdup` or `strncpy`. -/
  | copied (text : Option Bytes)
  /-- Its characters 0 to 7 are read. -/
  | eightRead (text : Option Bytes)

/-- The precondition of a use. -/
def Use.Allowed : Use → Prop
  | .elements node => ∃ elements, node = .array elements
  | .copied text => text.isSome
  | .eightRead text => ∃ bytes, text = some bytes ∧ 8 ≤ bytes.length

end SchoolMeals
