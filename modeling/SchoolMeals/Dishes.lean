/-
This file asks which dishes of a menu are shown. Both functions show the same
lines, and every line is a piece of the menu. But the tag between two dishes is
given to `strtok`, which takes it for a set of five characters, and everything
from a dish's first parenthesis on is cut off: dishes with one of the five
characters in their names fall apart, and names that go on behind a parenthesis
are lost.
-/

import Mathlib.Algebra.Order.BigOperators.Group.List
import Mathlib.Algebra.Order.Group.Nat
import SchoolMeals.Menus

namespace SchoolMeals

open CText Interaction

/-- A string that NEIS may return for a menu. -/
structure Menu where
  text : Bytes
  zeroFree : 0 ∉ text

/-- Both functions print these lines for the menu, behind their headings, into every array that is
large enough. -/
structure Prints (menu : Menu) (lines : List Bytes) : Prop where
  meal : ∀ date size, (mealHeading date ++ lines.flatten).length < size →
    formatMeal size menu.text date = some (mealHeading date ++ lines.flatten)
  entry : ∀ date size, (entryHeading date ++ lines.flatten).length < size →
    formatEntry size menu.text date = some (entryHeading date ++ lines.flatten)

/-- They print the dish texts. -/
theorem prints_dishTexts (menu : Menu) : Prints menu ((dishTexts menu.text).map dishLine) where
  meal date size fits := by
    rw [← List.flatMap_def] at fits ⊢
    rw [formatMeal_eq size menu.zeroFree]
    exact strcat_of_fits (by simpa using fits)
  entry date size fits := by
    rw [← List.flatMap_def, List.length_append] at fits
    rw [← List.flatMap_def, formatEntry_eq menu.zeroFree date (by omega)]
    exact strcat_of_fits fits

/-- They print nothing else. -/
theorem Prints.flatten_eq {menu : Menu} {lines : List Bytes} (prints : Prints menu lines) :
    lines.flatten = (dishTexts menu.text).flatMap dishLine := by
  have other := prints.meal [] _ (Nat.lt_succ_of_le (Nat.le_max_left _
    (mealHeading [] ++ (dishTexts menu.text).flatMap dishLine).length))
  rw [formatMeal_eq _ menu.zeroFree, strcat_eq_some_iff, List.nil_append] at other
  exact (List.append_cancel_left other.2).symm

/-! ### One sequence of lines -/

/-- The texts occur one behind the other in the whole. -/
def OccurInOrder : List Bytes → Bytes → Prop
  | [], _ => True
  | text :: texts, whole => ∃ gap rest, whole = gap ++ text ++ rest ∧ OccurInOrder texts rest

theorem OccurInOrder.behind {texts : List Bytes} {whole : Bytes} (occur : OccurInOrder texts whole)
    (front : Bytes) : OccurInOrder texts (front ++ whole) := by
  cases texts with
  | nil => trivial
  | cons text texts =>
    obtain ⟨gap, rest, rfl, later⟩ := occur
    exact ⟨front ++ gap, rest, by simp only [List.append_assoc], later⟩

/-- The text of an item stands in the item. -/
theorem dishText_infix (item : Bytes) :
    ∃ front behind, item = front ++ dishText item ++ behind := by
  obtain ⟨spaces, count, split, _⟩ := dishText_split item
  refine ⟨spaces, List.replicate count 32 ++ item.dropWhile (· ≠ 40), ?_⟩
  rw [← List.append_assoc, List.append_assoc spaces, ← split, List.takeWhile_append_dropWhile]

/-- The dish texts of a menu occur in it. -/
theorem occur_dishTexts (menu : Bytes) : OccurInOrder (dishTexts menu) menu := by
  induction count : menu.length using Nat.strongRecOn generalizing menu with
  | ind count inductionHypothesis =>
    subst count
    rcases only_or_token breakTag menu with
      only | ⟨gap, token, rest, rfl, gapDelimits, isToken, stops⟩
    · have empty : fields breakTag (menu ++ []) = [] := fields_gap [] only
      rw [List.append_nil] at empty
      rw [dishTexts, empty]
      trivial
    · have shorter : rest.length < (gap ++ token ++ rest).length := by
        have positive := List.length_pos_iff.mpr isToken.1
        simp only [List.length_append]
        omega
      have later : OccurInOrder (dishTexts rest) rest := inductionHypothesis _ shorter rest rfl
      have items : fields breakTag (gap ++ token ++ rest) = token :: fields breakTag rest := by
        rw [List.append_assoc, fields_gap _ gapDelimits, fields_token rest isToken stops]
      rw [dishTexts, items, List.map_cons]
      by_cases empty : dishText token = []
      · rw [List.filter_cons_of_neg (by simpa using empty)]
        exact later.behind _
      · obtain ⟨front, behind, split⟩ := dishText_infix token
        rw [List.filter_cons_of_pos (by simpa using empty)]
        refine ⟨gap ++ front, behind ++ rest, ?_, later.behind behind⟩
        conv_lhs => rw [split]
        simp only [List.append_assoc]

/-- A text as it stands in a line: something, without a parenthesis and without spaces around. -/
structure IsDishText (text : Bytes) : Prop where
  nonempty : text ≠ []
  noParenthesis : 40 ∉ text
  first : text.head? ≠ some 32
  last : text.getLast? ≠ some 32

theorem isDishText_of_mem {menu text : Bytes} (member : text ∈ dishTexts menu) :
    IsDishText text := by
  obtain ⟨found, nonempty⟩ := List.mem_filter.mp member
  obtain ⟨item, _, rfl⟩ := List.mem_map.mp found
  obtain ⟨spaces, count, split, rfl, _⟩ := dishText_split item
  have kept : (item.takeWhile (· ≠ 40)).dropWhile (· = 32) =
      dishText item ++ List.replicate count 32 :=
    List.append_cancel_left (List.takeWhile_append_dropWhile.trans split)
  refine ⟨of_decide_eq_true nonempty, fun parenthesis => ?_, ?_, getLast?_dishText item⟩
  · have inside : 40 ∈ item.takeWhile (· ≠ 40) := by
      rw [split]
      simp [parenthesis]
    simpa using List.mem_takeWhile_imp inside
  · intro space
    have stopped := List.head?_dropWhile_not (· = 32) (item.takeWhile (· ≠ 40))
    rw [kept, List.head?_append, space] at stopped
    simp at stopped

/-- Both functions print the same lines for every menu: the lines of texts that are pieces of the
menu in its order. -/
theorem prints_pieces (menu : Menu) : ∃ texts : List Bytes, Prints menu (texts.map dishLine) ∧
    (∀ text ∈ texts, IsDishText text) ∧ OccurInOrder texts menu.text :=
  ⟨dishTexts menu.text, prints_dishTexts menu, fun _ member => isDishText_of_mem member,
    occur_dishTexts menu.text⟩

/-! ### Dishes between tags -/

/-- The functions print a line for each piece between tags that is not blank before its first
parenthesis, with that text. -/
def SplitsAtTags (menu : Menu) : Prop :=
  Prints menu ((((pieces breakTag menu.text).map dishText).filter (· ≠ [])).map dishLine)

/-- The text is blank up to its first parenthesis. -/
def BlankName (text : Bytes) : Prop := ∀ byte ∈ text.takeWhile (· ≠ 40), byte = 32

theorem dishText_eq_nil_iff (text : Bytes) : dishText text = [] ↔ BlankName text := by
  obtain ⟨spaces, count, split, isSpaces, blank⟩ := dishText_split text
  constructor
  · intro empty byte member
    rw [split, empty, blank empty, List.replicate_zero, List.append_nil, List.append_nil,
      isSpaces] at member
    simpa using List.mem_takeWhile_imp member
  · intro spacesOnly
    have dropped : (text.takeWhile (· ≠ 40)).dropWhile (· = 32) = [] :=
      List.dropWhile_eq_nil_iff.mpr fun byte member => decide_eq_true (spacesOnly byte member)
    rw [dishText, dropped, List.rdropWhile_nil]

/-- A piece that is shown as it should be: its name has none of the tag's characters, and what the
tag's characters cut off behind it is blank up to its own parenthesis. -/
def Whole (dish : Bytes) : Prop :=
  (∀ byte ∈ dish.takeWhile (· ≠ 40), byte ∉ breakTag) ∧
    ∀ fragment ∈ fields breakTag (dish.dropWhile (· ∉ breakTag)), BlankName fragment

/-- What is shown of the fragments behind the name. -/
def behindName (dish : Bytes) : List Bytes := dishTexts (dish.dropWhile (· ∉ breakTag))

theorem dishTexts_eq_nil_iff (menu : Bytes) :
    dishTexts menu = [] ↔ ∀ item ∈ fields breakTag menu, BlankName item := by
  simp only [dishTexts, List.filter_eq_nil_iff, List.mem_map, decide_eq_true_eq, not_not,
    forall_exists_index, and_imp, forall_apply_eq_imp_iff₂, dishText_eq_nil_iff]

theorem behindName_eq_nil_iff (dish : Bytes) : behindName dish = [] ↔
    ∀ fragment ∈ fields breakTag (dish.dropWhile (· ∉ breakTag)), BlankName fragment :=
  dishTexts_eq_nil_iff _

theorem takeWhile_takeWhile_of_all {inner outer : UInt8 → Bool} {text : Bytes}
    (all : ∀ byte ∈ text.takeWhile outer, inner byte = true) :
    (text.takeWhile inner).takeWhile outer = text.takeWhile outer := by
  induction text with
  | nil => rfl
  | cons byte text inductionHypothesis =>
    cases passes : outer byte with
    | true =>
      rw [List.takeWhile_cons_of_pos passes] at all ⊢
      rw [List.takeWhile_cons_of_pos (all byte List.mem_cons_self),
        List.takeWhile_cons_of_pos passes,
        inductionHypothesis fun other member => all other (List.mem_cons_of_mem _ member)]
    | false =>
      cases enters : inner byte <;> simp [enters, passes]

/-- If the name has none of the tag's characters, the piece is shown as its text and what is shown
behind the name. -/
theorem dishTexts_piece {dish : Bytes} (plain : ∀ byte ∈ dish.takeWhile (· ≠ 40), byte ∉ breakTag) :
    dishTexts dish = [dishText dish].filter (· ≠ []) ++ behindName dish := by
  have sameText : dishText (dish.takeWhile (· ∉ breakTag)) = dishText dish := by
    rw [dishText, takeWhile_takeWhile_of_all fun byte member => decide_eq_true (plain byte member)]
    rfl
  have whole : dish.takeWhile (· ∉ breakTag) ++ dish.dropWhile (· ∉ breakTag) = dish :=
    List.takeWhile_append_dropWhile
  have stops : ∀ byte ∈ (dish.dropWhile (· ∉ breakTag)).head?, byte ∈ breakTag := by
    intro byte member
    have stopped := List.head?_dropWhile_not (· ∉ breakTag) dish
    rw [member] at stopped
    simpa using stopped
  by_cases empty : dish.takeWhile (· ∉ breakTag) = []
  · rw [empty] at sameText whole
    rw [← sameText, behindName, ← List.nil_append (dish.dropWhile _), whole]
    rfl
  · have isToken : IsToken breakTag (dish.takeWhile (· ∉ breakTag)) :=
      ⟨empty, fun byte member => by simpa using List.mem_takeWhile_imp member⟩
    have items := fields_token _ isToken stops
    rw [whole] at items
    rw [dishTexts, items, List.map_cons, sameText, ← List.singleton_append, List.filter_append]
    rfl

/-- The lines of a menu are those of its pieces. -/
theorem dishTexts_pieces (menu : Bytes) :
    dishTexts menu = (pieces breakTag menu).flatMap dishTexts := by
  rw [dishTexts, fields_pieces (by decide) (fun _ member => member), List.map_flatMap,
    List.filter_flatMap]
  rfl

/-- A dish text has none of the tag's characters. -/
theorem plain_of_mem_dishTexts {menu text : Bytes} (member : text ∈ dishTexts menu) :
    ∀ byte ∈ text, byte ∉ breakTag := by
  obtain ⟨item, isItem, rfl⟩ := List.mem_map.mp (List.mem_filter.mp member).1
  obtain ⟨front, behind, split⟩ := dishText_infix item
  intro byte inside
  refine (isToken_of_mem_fields breakTag isItem).2 byte ?_
  rw [split]
  simp [inside]

theorem linesLength_append (texts more : List Bytes) :
    linesLength (texts ++ more) = linesLength texts + linesLength more := by
  rw [linesLength, List.map_append, List.sum_append]
  rfl

theorem linesLength_flatMap {Item : Type} (items : List Item) (texts : Item → List Bytes) :
    linesLength (items.flatMap texts) = (items.map fun item => linesLength (texts item)).sum := by
  induction items with
  | nil => rfl
  | cons item items inductionHypothesis =>
    rw [List.flatMap_cons, List.map_cons, List.sum_cons, ← inductionHypothesis,
      linesLength_append]

theorem linesLength_eq_zero_iff (texts : List Bytes) : linesLength texts = 0 ↔ texts = [] := by
  cases texts with
  | nil => exact iff_of_true rfl rfl
  | cons text texts =>
    refine iff_of_false ?_ (List.cons_ne_nil _ _)
    rw [linesLength, List.map_cons, List.sum_cons]
    omega

theorem filter_map_eq_flatMap (dishes : List Bytes) :
    (dishes.map dishText).filter (· ≠ []) =
      dishes.flatMap fun dish => [dishText dish].filter (· ≠ []) := by
  induction dishes with
  | nil => rfl
  | cons dish dishes inductionHypothesis =>
    rw [List.map_cons, ← List.singleton_append, List.filter_append, inductionHypothesis,
      List.flatMap_cons]

theorem plain_dishLine {text : Bytes} (plain : ∀ byte ∈ text, byte ∉ breakTag) :
    ∀ byte ∈ dishLine text, byte ∉ breakTag := by
  have bullet : ∀ byte ∈ utf8 "• ", byte ∉ breakTag := avoids_of_all (by decide)
  have newline : ∀ byte ∈ utf8 "\n", byte ∉ breakTag := avoids_of_all (by decide)
  intro byte member
  rcases List.mem_append.mp member with front | last
  · exact (List.mem_append.mp front).elim (bullet byte) (plain byte)
  · exact newline byte last

/-- What is printed has none of the tag's characters, so no name with one of them is printed. -/
theorem plain_of_splits {menu : Menu} (splits : SplitsAtTags menu) {dish : Bytes}
    (member : dish ∈ pieces breakTag menu.text) :
    ∀ byte ∈ dish.takeWhile (· ≠ 40), byte ∉ breakTag := by
  have printed := splits.flatten_eq
  rw [← List.flatMap_def] at printed
  obtain ⟨spaces, count, split, isSpaces, _⟩ := dishText_split dish
  have plain : ∀ byte ∈ dishText dish, byte ∉ breakTag := by
    intro byte inside
    have shown : dishText dish ∈
        ((pieces breakTag menu.text).map dishText).filter (· ≠ []) :=
      List.mem_filter.mpr ⟨List.mem_map_of_mem member,
        decide_eq_true (List.ne_nil_of_mem inside)⟩
    have found : byte ∈ (dishTexts menu.text).flatMap dishLine :=
      printed ▸ List.mem_flatMap.mpr ⟨_, shown, by simp [dishLine, inside]⟩
    obtain ⟨text, isText, inLine⟩ := List.mem_flatMap.mp found
    exact plain_dishLine (plain_of_mem_dishTexts isText) byte inLine
  intro byte inside
  rw [split] at inside
  rcases List.mem_append.mp inside with space | inside
  · rw [isSpaces] at space
    have blank : byte = 32 := by simpa using List.mem_takeWhile_imp space
    rw [blank]
    decide
  · rcases List.mem_append.mp inside with text | space
    · exact plain byte text
    · rw [(List.mem_replicate.mp space).2]
      decide

/-- Two sums over a list, of which the one with the smaller terms is no smaller, have equal
terms. -/
theorem eq_of_sum_le {Item : Type} {items : List Item} {less more : Item → Nat}
    (le : ∀ item ∈ items, less item ≤ more item)
    (total : (items.map more).sum ≤ (items.map less).sum) :
    ∀ item ∈ items, less item = more item := by
  intro item member
  refine (le item member).eq_of_not_lt fun strict => ?_
  exact Nat.not_lt.mpr total (List.sum_lt_sum less more le ⟨item, member, strict⟩)

/-- A menu is split at its tags exactly when every piece is shown whole. -/
theorem splitsAtTags_iff (menu : Menu) :
    SplitsAtTags menu ↔ ∀ dish ∈ pieces breakTag menu.text, Whole dish := by
  constructor
  · intro splits
    have plain : ∀ dish ∈ pieces breakTag menu.text, ∀ byte ∈ dish.takeWhile (· ≠ 40),
        byte ∉ breakTag := fun _ member => plain_of_splits splits member
    have extra : ∀ dish ∈ pieces breakTag menu.text, linesLength (dishTexts dish) =
        linesLength ([dishText dish].filter (· ≠ [])) + linesLength (behindName dish) := by
      intro dish member
      rw [dishTexts_piece (plain dish member), linesLength_append]
    have printed := splits.flatten_eq
    rw [← List.flatMap_def, filter_map_eq_flatMap, dishTexts_pieces] at printed
    have sizes := congrArg List.length printed
    rw [length_flatMap_dishLine, length_flatMap_dishLine, linesLength_flatMap,
      linesLength_flatMap] at sizes
    have equal : ∀ dish ∈ pieces breakTag menu.text,
        linesLength ([dishText dish].filter (· ≠ [])) = linesLength (dishTexts dish) :=
      eq_of_sum_le (fun dish member => (extra dish member).symm ▸ Nat.le_add_right _ _)
        (Nat.le_of_eq sizes.symm)
    intro dish member
    have whole := extra dish member
    have same := equal dish member
    exact ⟨plain dish member, (behindName_eq_nil_iff dish).mp
      ((linesLength_eq_zero_iff _).mp (by omega))⟩
  · intro whole
    have same : dishTexts menu.text =
        ((pieces breakTag menu.text).map dishText).filter (· ≠ []) := by
      rw [filter_map_eq_flatMap, dishTexts_pieces]
      refine List.flatMap_congr fun dish member => ?_
      rw [dishTexts_piece (whole dish member).1,
        (behindName_eq_nil_iff dish).mpr (whole dish member).2, List.append_nil]
    rw [SplitsAtTags, ← same]
    exact prints_dishTexts menu

/-- A name with two of the tag's characters falls into two lines. -/
theorem not_splitsAtTags_brown : ¬ SplitsAtTags ⟨utf8 "brown rice", by decide⟩ := by
  intro splits
  exact absurd splits.flatten_eq (by decide)

/-! ### Names and parentheses -/

/-- The text outside parentheses, from a text that begins inside so many of them. A closing
parenthesis that closes nothing is text. -/
def outside : Nat → Bytes → Bytes
  | _, [] => []
  | 0, byte :: rest => if byte = 40 then outside 1 rest else byte :: outside 0 rest
  | depth + 1, byte :: rest =>
    if byte = 40 then outside (depth + 2) rest
    else if byte = 41 then outside depth rest
    else outside (depth + 1) rest

/-- How many parentheses are open at the end. -/
def openAtEnd : Nat → Bytes → Nat
  | depth, [] => depth
  | depth, byte :: rest =>
    openAtEnd (if byte = 40 then depth + 1 else if byte = 41 then depth - 1 else depth) rest

/-- A dish without a character of the tag, in which every parenthesis is closed. -/
structure Dish where
  text : Bytes
  zeroFree : 0 ∉ text
  plain : ∀ byte ∈ text, byte ∉ breakTag
  closed : openAtEnd 0 text = 0

/-- The menu of some dishes, joined by the tag. -/
def menuOf (dishes : List Dish) : Menu where
  text := List.intercalate breakTag (dishes.map Dish.text)
  zeroFree member := by
    rcases mem_of_mem_intercalate member with inTag | ⟨text, isText, inside⟩
    · exact absurd inTag (by decide)
    · obtain ⟨dish, _, rfl⟩ := List.mem_map.mp isText
      exact dish.zeroFree inside

/-- The text of a dish that is not a space and not in parentheses. -/
def Dish.name (dish : Dish) : Bytes := (outside 0 dish.text).filter (· ≠ 32)

/-- The functions print a line for every dish that has a name, in their order, and the line has
the whole name. -/
def KeepsNames (dishes : List Dish) : Prop :=
  ∃ texts : List Bytes, Prints (menuOf dishes) (texts.map dishLine) ∧
    ∃ kept, kept.Sublist texts ∧
      List.Forall₂ (fun dish text => dish.name.Sublist text) (dishes.filter (·.name ≠ [])) kept

/-- What the functions print of such a menu. -/
theorem dishTexts_menuOf (dishes : List Dish) :
    dishTexts (menuOf dishes).text =
      (dishes.filter (dishText ·.text ≠ [])).map (dishText ·.text) := by
  have items : fields breakTag (menuOf dishes).text =
      (dishes.map Dish.text).flatMap (fields breakTag) :=
    fields_intercalate (by decide) (fun _ member => member) _
  rw [dishTexts, items]
  clear items
  induction dishes with
  | nil => rfl
  | cons dish dishes inductionHypothesis =>
    have single : ((fields breakTag dish.text).map dishText).filter (· ≠ []) =
        ([dish].filter (dishText ·.text ≠ [])).map (dishText ·.text) := by
      by_cases empty : dish.text = []
      · simp [empty, dishText]
      · rw [fields_singleton ⟨empty, dish.plain⟩]
        by_cases blank : dishText dish.text = [] <;> simp [blank]
    rw [List.map_cons, List.flatMap_cons, List.map_append, List.filter_append, inductionHypothesis,
      single, ← List.map_append, ← List.filter_append, List.singleton_append]

/-- The text outside parentheses is the text before the first one and what is outside behind. -/
theorem outside_split (text : Bytes) :
    outside 0 text = text.takeWhile (· ≠ 40) ++ outside 0 (text.dropWhile (· ≠ 40)) := by
  induction text with
  | nil => rfl
  | cons byte text inductionHypothesis =>
    by_cases opens : byte = 40
    · simp [opens]
    · rw [List.takeWhile_cons_of_pos (by simpa using opens),
        List.dropWhile_cons_of_pos (by simpa using opens), List.cons_append, ← inductionHypothesis]
      exact if_neg opens

/-- Without its spaces, a dish text is what stands before the first parenthesis. -/
theorem filter_dishText (text : Bytes) :
    (dishText text).filter (· ≠ 32) = (text.takeWhile (· ≠ 40)).filter (· ≠ 32) := by
  obtain ⟨spaces, count, split, isSpaces, _⟩ := dishText_split text
  have front : spaces.filter (· ≠ 32) = [] := by
    rw [List.filter_eq_nil_iff, isSpaces]
    intro byte member
    simpa using List.mem_takeWhile_imp member
  rw [split, List.filter_append, List.filter_append, front]
  simp

/-- What is outside parentheses behind the first one. -/
def Dish.nameBehind (dish : Dish) : Bytes :=
  (outside 0 (dish.text.dropWhile (· ≠ 40))).filter (· ≠ 32)

theorem Dish.name_eq (dish : Dish) :
    dish.name = (dishText dish.text).filter (· ≠ 32) ++ dish.nameBehind := by
  rw [Dish.name, outside_split, List.filter_append, filter_dishText, Dish.nameBehind]

theorem Dish.length_name (dish : Dish) : dish.name.length =
    ((dishText dish.text).filter (· ≠ 32)).length + dish.nameBehind.length := by
  rw [dish.name_eq, List.length_append]

theorem Dish.nameBehind_eq_nil_iff (dish : Dish) : dish.nameBehind = [] ↔
    ∀ byte ∈ outside 0 (dish.text.dropWhile (· ≠ 40)), byte = 32 := by
  simp [Dish.nameBehind, List.filter_eq_nil_iff]

/-- A dish text does not consist of spaces. -/
theorem visible_dishText {text : Bytes} (shown : dishText text ≠ []) :
    (dishText text).filter (· ≠ 32) ≠ [] := by
  intro blank
  have last := List.getLast_mem shown
  have space : (dishText text).getLast shown = 32 := by
    simpa using List.filter_eq_nil_iff.mp blank _ last
  exact getLast?_dishText text (by rw [List.getLast?_eq_some_getLast shown, space])

/-- The bytes of a text's line that are not spaces. -/
def visibleLength (text : Bytes) : Nat := (text.filter (· ≠ 32)).length + 4

theorem visible_dishLine (text : Bytes) :
    ((dishLine text).filter (· ≠ 32)).length = visibleLength text := by
  have bullet : ((utf8 "• ").filter (· ≠ 32)).length = 3 := by decide
  have newline : ((utf8 "\n").filter (· ≠ 32)).length = 1 := by decide
  rw [dishLine, List.filter_append, List.filter_append, List.length_append, List.length_append,
    bullet, newline, visibleLength]
  omega

theorem visible_flatMap (texts : List Bytes) :
    ((texts.flatMap dishLine).filter (· ≠ 32)).length = (texts.map visibleLength).sum := by
  rw [List.filter_flatMap, List.length_flatMap]
  exact congrArg List.sum (List.map_congr_left fun text _ => visible_dishLine text)

theorem sum_filter {Item : Type} (keeps : Item → Bool) (size : Item → Nat) (items : List Item) :
    ((items.filter keeps).map size).sum =
      (items.map fun item => if keeps item then size item else 0).sum := by
  induction items with
  | nil => rfl
  | cons item items inductionHypothesis =>
    cases kept : keeps item with
    | true =>
      rw [List.filter_cons_of_pos kept, List.map_cons, List.map_cons, List.sum_cons, List.sum_cons,
        inductionHypothesis, kept, if_pos rfl]
    | false =>
      rw [List.filter_cons_of_neg (by simp [kept]), List.map_cons, List.sum_cons,
        inductionHypothesis, kept, if_neg Bool.false_ne_true, Nat.zero_add]

/-- Lines that have the names have their bytes. -/
theorem sum_names_le {dishes : List Dish} {kept : List Bytes}
    (names : List.Forall₂ (fun (dish : Dish) text => dish.name.Sublist text) dishes kept) :
    (dishes.map fun dish => dish.name.length + 4).sum ≤ (kept.map visibleLength).sum := by
  induction names with
  | nil => exact Nat.le_refl _
  | @cons dish text dishes kept inLine _ inductionHypothesis =>
    have solid : dish.name.filter (· ≠ 32) = dish.name :=
      List.filter_eq_self.mpr fun _ member => (List.mem_filter.mp member).2
    have visible : dish.name.Sublist (text.filter (· ≠ 32)) := solid ▸ inLine.filter (· ≠ 32)
    rw [List.map_cons, List.map_cons, List.sum_cons, List.sum_cons]
    exact Nat.add_le_add (Nat.add_le_add_right visible.length_le 4) inductionHypothesis

/-- What a dish should give to the bytes that are shown. -/
def Dish.nameLength (dish : Dish) : Nat := if dish.name ≠ [] then dish.name.length + 4 else 0

/-- What it gives. -/
def Dish.shownLength (dish : Dish) : Nat :=
  if dishText dish.text ≠ [] then visibleLength (dishText dish.text) else 0

theorem Dish.shownLength_le (dish : Dish) : dish.shownLength ≤ dish.nameLength := by
  unfold shownLength nameLength
  by_cases shown : dishText dish.text = []
  · rw [if_neg (not_not.mpr shown)]
    exact Nat.zero_le _
  · have visible := visible_dishText shown
    have longer := dish.length_name
    have named : dish.name ≠ [] := by
      rw [dish.name_eq]
      exact List.append_ne_nil_of_left_ne_nil visible _
    rw [if_pos shown, if_pos named, visibleLength]
    omega

theorem Dish.nameBehind_of_shown {dish : Dish} (whole : dish.shownLength = dish.nameLength) :
    dish.nameBehind = [] := by
  unfold shownLength nameLength at whole
  have longer := dish.length_name
  rw [← List.length_eq_zero_iff]
  by_cases named : dish.name = []
  · rw [named, List.length_nil] at longer
    omega
  · rw [if_pos named] at whole
    split at whole
    · rw [visibleLength] at whole
      omega
    · omega

/-- The names of all dishes are shown exactly when no dish has a part of its name behind its first
parenthesis. -/
theorem keepsNames_iff (dishes : List Dish) : KeepsNames dishes ↔
    ∀ dish ∈ dishes, ∀ byte ∈ outside 0 (dish.text.dropWhile (· ≠ 40)), byte = 32 := by
  simp only [← Dish.nameBehind_eq_nil_iff]
  constructor
  · rintro ⟨texts, prints, kept, sublist, names⟩
    have printed := congrArg (fun text => (text.filter (· ≠ 32)).length) prints.flatten_eq
    simp only [← List.flatMap_def, visible_flatMap, dishTexts_menuOf, List.map_map] at printed
    have total : (dishes.map Dish.nameLength).sum ≤ (dishes.map Dish.shownLength).sum := by
      calc
        (dishes.map Dish.nameLength).sum
            = ((dishes.filter (·.name ≠ [])).map fun dish => dish.name.length + 4).sum := by
          simp only [sum_filter, decide_eq_true_eq]
          rfl
        _ ≤ (kept.map visibleLength).sum := sum_names_le names
        _ ≤ (texts.map visibleLength).sum := (sublist.map visibleLength).sum_le_sum (by simp)
        _ = (dishes.map Dish.shownLength).sum := by
          rw [printed, sum_filter]
          simp only [decide_eq_true_eq]
          rfl
    intro dish member
    exact Dish.nameBehind_of_shown
      (eq_of_sum_le (fun dish _ => dish.shownLength_le) total dish member)
  · intro whole
    have names : ∀ dish ∈ dishes, dish.name = (dishText dish.text).filter (· ≠ 32) := by
      intro dish member
      rw [dish.name_eq, whole dish member, List.append_nil]
    have shown : dishes.filter (·.name ≠ []) = dishes.filter (dishText ·.text ≠ []) := by
      refine List.filter_congr fun dish member => decide_eq_decide.mpr (not_congr ?_)
      rw [names dish member]
      exact ⟨fun blank => by_contra fun visible => visible_dishText visible blank,
        fun empty => by rw [empty, List.filter_nil]⟩
    refine ⟨_, prints_dishTexts (menuOf dishes), _, List.Sublist.refl _, ?_⟩
    rw [shown, dishTexts_menuOf, List.forall₂_map_right_iff, List.forall₂_same]
    intro dish member
    rw [names dish (List.mem_filter.mp member).1]
    exact List.filter_sublist

/-- Of a dish whose name has a mark in parentheses in front, nothing is shown. -/
theorem not_keepsNames_marked :
    ¬ KeepsNames [⟨utf8 "(신)김치", by decide, avoids_of_all (by decide), by decide⟩] := by
  rintro ⟨texts, prints, kept, sublist, names⟩
  have blank : (texts.map dishLine).flatten = [] := prints.flatten_eq.trans (by decide)
  cases names with
  | cons inLine _ =>
    have member := sublist.subset List.mem_cons_self
    have empty := List.flatten_eq_nil_iff.mp blank _ (List.mem_map_of_mem member)
    exact absurd (congrArg List.length empty) (by rw [length_dishLine]; exact Nat.succ_ne_zero _)

end SchoolMeals
