/-
This file is a small library of journals: lists of entries, newest first, that
are read for the value they leave behind. An entry may put a value, change the
value there is, clear it, or have nothing to do with it. Reading the journal
from its oldest entry gives the current value; the two main results say what
that value is without reading: which entry it stems from, and which entries may
not have come after that one.
-/

import Mathlib.Data.List.Basic

namespace Journal

/-- What an entry does to the value. A change takes effect only where there is a value. -/
inductive Mark (Value : Type) where
  | put (value : Value)
  | change (value : Value)
  | clear
  | other

variable {Entry Value : Type}

namespace Mark

/-- The value after an entry. -/
def apply : Mark Value → Option Value → Option Value
  | put value, _ => some value
  | change value, before => before.map fun _ => value
  | clear, _ => none
  | other, before => before

/-- The value an entry carries. -/
def written : Mark Value → Option Value
  | put value | change value => some value
  | clear | other => none

/-- The entry settles whether there is a value. -/
def decides : Mark Value → Bool
  | put _ | clear => true
  | change _ | other => false

end Mark

section Reading

variable (mark : Entry → Mark Value)

/-- The value a journal leaves behind. -/
def current : List Entry → Option Value
  | [] => none
  | entry :: earlier => (mark entry).apply (current earlier)

/-- The value stands in the journal: some entry put a value, no later entry cleared it, and from
that entry on this is the last value that was written. -/
def Stands (journal : List Entry) (value : Value) : Prop :=
  ∃ later origin earlier, journal = later ++ origin :: earlier ∧
    (∃ first, mark origin = .put first) ∧ (∀ entry ∈ later, mark entry ≠ .clear) ∧
    (later ++ [origin]).findSome? (fun entry => (mark entry).written) = some value

variable {mark}

/-- A newer entry that neither puts nor clears a value keeps the origin. -/
theorem stands_cons {entry : Entry} {journal : List Entry} {value : Value}
    (noPut : ∀ first, mark entry ≠ .put first) :
    Stands mark (entry :: journal) value ↔ mark entry ≠ .clear ∧
      ∃ before, Stands mark journal before ∧ value = (mark entry).written.getD before := by
  constructor
  · rintro ⟨later, origin, earlier, split, ⟨first, isPut⟩, kept, found⟩
    cases later with
    | nil =>
      obtain ⟨rfl, _⟩ := List.cons.inj split
      exact absurd isPut (noPut first)
    | cons newest later =>
      obtain ⟨rfl, rfl⟩ := List.cons.inj split
      have keptLater : ∀ entry ∈ later, mark entry ≠ .clear :=
        fun entry member => kept entry (List.mem_cons_of_mem _ member)
      obtain ⟨before, earlierFound⟩ : ∃ before,
          (later ++ [origin]).findSome? (fun entry => (mark entry).written) = some before := by
        rw [← Option.isSome_iff_exists, List.findSome?_isSome_iff]
        exact ⟨origin, by simp, by rw [isPut]; rfl⟩
      refine ⟨kept _ List.mem_cons_self, before,
        ⟨later, origin, earlier, rfl, ⟨first, isPut⟩, keptLater, earlierFound⟩, ?_⟩
      rw [List.cons_append, List.findSome?_cons] at found
      cases written : (mark entry).written with
      | none =>
        rw [written, earlierFound] at found
        exact (Option.some.inj found).symm
      | some given =>
        rw [written] at found
        exact (Option.some.inj found).symm
  · rintro ⟨kept, before, ⟨later, origin, earlier, rfl, isPut, keptLater, found⟩, rfl⟩
    refine ⟨entry :: later, origin, earlier, rfl, isPut, ?_, ?_⟩
    · intro other member
      rcases List.mem_cons.mp member with rfl | member
      · exact kept
      · exact keptLater other member
    · rw [List.cons_append, List.findSome?_cons]
      cases (mark entry).written with
      | none => exact found
      | some given => rfl

/-- The current value is the value that stands. -/
theorem current_eq_some_iff (journal : List Entry) (value : Value) :
    current mark journal = some value ↔ Stands mark journal value := by
  induction journal generalizing value with
  | nil =>
    constructor
    · intro impossible
      cases impossible
    · rintro ⟨later, origin, earlier, split, _⟩
      simp at split
  | cons entry journal inductionHypothesis =>
    rw [current]
    cases kind : mark entry with
    | put first =>
      constructor
      · intro same
        obtain rfl : first = value := Option.some.inj same
        exact ⟨[], entry, journal, rfl, ⟨first, kind⟩, by simp, by simp [kind, Mark.written]⟩
      · rintro ⟨later, origin, earlier, split, _, _, found⟩
        have newest : (later ++ [origin]).head? = some entry := by
          cases later <;> simp_all
        obtain ⟨rest, cons⟩ : ∃ rest, later ++ [origin] = entry :: rest :=
          List.head?_eq_some_iff.mp newest
        rw [cons, List.findSome?_cons, kind] at found
        exact found
    | change given =>
      rw [stands_cons (by simp [kind]), kind]
      constructor
      · intro same
        obtain ⟨before, standing, rfl⟩ := Option.map_eq_some_iff.mp same
        exact ⟨by simp, before, (inductionHypothesis before).mp standing, rfl⟩
      · rintro ⟨_, before, standing, rfl⟩
        exact Option.map_eq_some_iff.mpr ⟨before, (inductionHypothesis before).mpr standing, rfl⟩
    | clear =>
      rw [stands_cons (by simp [kind]), kind]
      constructor
      · intro impossible
        cases impossible
      · intro standing
        exact absurd rfl standing.1
    | other =>
      rw [stands_cons (by simp [kind]), kind]
      constructor
      · intro same
        exact ⟨by simp, value, (inductionHypothesis value).mp same, rfl⟩
      · rintro ⟨_, before, standing, same⟩
        exact (inductionHypothesis value).mpr (same ▸ standing)

/-- The current value is one that some entry wrote. -/
theorem current_property {journal : List Entry} {property : Value → Prop}
    (written : ∀ entry ∈ journal, ∀ value ∈ (mark entry).written, property value) :
    ∀ value ∈ current mark journal, property value := by
  intro value found
  obtain ⟨later, origin, earlier, rfl, _, _, newest⟩ :=
    (current_eq_some_iff journal value).mp found
  obtain ⟨entry, member, same⟩ := List.exists_of_findSome?_eq_some newest
  refine written entry ?_ value same
  rcases List.mem_append.mp member with member | member
  · exact List.mem_append_left _ member
  · rw [List.mem_singleton.mp member]
    exact List.mem_append_right _ List.mem_cons_self

/-- Whether there is a value, the newest entry that settles it says. -/
theorem current_isSome_iff (journal : List Entry) :
    (current mark journal).isSome = true ↔ ∃ entry value,
      journal.find? (fun entry => (mark entry).decides) = some entry ∧
        mark entry = .put value := by
  induction journal with
  | nil => simp [current]
  | cons entry journal inductionHypothesis =>
    rw [current, List.find?_cons]
    cases kind : mark entry with
    | put value =>
      refine ⟨fun _ => ⟨entry, value, rfl, kind⟩, fun _ => rfl⟩
    | change value =>
      show (Option.map _ _).isSome = true ↔ _
      rw [Option.isSome_map]
      exact inductionHypothesis
    | clear =>
      constructor
      · intro impossible
        cases impossible
      · rintro ⟨found, value, same, isPut⟩
        obtain rfl : entry = found := Option.some.inj same
        rw [kind] at isPut
        cases isPut
    | other => exact inductionHypothesis

end Reading

end Journal
