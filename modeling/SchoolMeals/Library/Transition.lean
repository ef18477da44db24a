/-
This file is a small library of labelled transition systems. A run is a list of
labels, oldest first, and grows at its end. What holds of the start and is kept
by every step holds of every run together with the state it reaches; a run can
be taken apart at any of its labels.
-/

import Mathlib.Data.List.Induction

namespace Transition

variable {State Label : Type}

/-- A run from a state with its labels. -/
inductive Runs (step : State → Label → State → Prop) (start : State) : List Label → State → Prop
    where
  | nil : Runs step start [] start
  | snoc {labels : List Label} {middle last : State} {label : Label}
      (before : Runs step start labels middle) (next : step middle label last) :
      Runs step start (labels ++ [label]) last

namespace Runs

variable {step : State → Label → State → Prop} {start last : State} {labels : List Label}

/-- What the start has and every step keeps, every run has. The labels of the run are at hand,
and so is the run up to the step. -/
theorem invariant (runs : Runs step start labels last) (invariant : List Label → State → Prop)
    (initial : invariant [] start)
    (keeps : ∀ before middle label after, Runs step start before middle → label ∈ labels →
      step middle label after → invariant before middle → invariant (before ++ [label]) after) :
    invariant labels last := by
  induction runs with
  | nil => exact initial
  | snoc before next inductionHypothesis =>
    have earlier := inductionHypothesis fun first middle label after runs member =>
      keeps first middle label after runs (List.mem_append_left _ member)
    exact keeps _ _ _ _ before (List.mem_append_right _ (List.mem_singleton.mpr rfl)) next earlier

/-- The step of any label of a run, with the runs before and behind it. -/
theorem split_cons {first second : List Label} {label : Label}
    (runs : Runs step start (first ++ label :: second) last) :
    ∃ before after, Runs step start first before ∧ step before label after ∧
      Runs step after second last := by
  generalize equal : first ++ label :: second = labels at runs
  induction runs generalizing second with
  | nil => exact absurd equal (by simp)
  | snoc before next inductionHypothesis =>
    rcases List.eq_nil_or_concat second with rfl | ⟨initial, newest, rfl⟩
    · obtain ⟨rfl, same⟩ := List.append_inj' equal rfl
      obtain rfl := List.singleton_inj.mp same
      exact ⟨_, _, before, next, .nil⟩
    · rw [List.concat_eq_append, ← List.cons_append, ← List.append_assoc] at equal
      obtain ⟨same, newestSame⟩ := List.append_inj' equal rfl
      obtain rfl := List.singleton_inj.mp newestSame
      obtain ⟨middle, after, reached, stepped, goesOn⟩ := inductionHypothesis same
      rw [List.concat_eq_append]
      exact ⟨middle, after, reached, stepped, goesOn.snoc next⟩

/-- The step of any label of a run, with the run before it. -/
theorem split {first second : List Label} {label : Label}
    (runs : Runs step start (first ++ label :: second) last) :
    ∃ before after, Runs step start first before ∧ step before label after := by
  obtain ⟨before, after, reached, stepped, -⟩ := runs.split_cons
  exact ⟨before, after, reached, stepped⟩

/-- A run with one label is a step. -/
theorem singleton {label : Label} (runs : Runs step start [label] last) :
    step start label last := by
  generalize equal : [label] = labels at runs
  cases runs with
  | nil => cases equal
  | snoc before next =>
    obtain ⟨none, same⟩ := List.append_inj' (show [] ++ [label] = _ from equal) rfl
    obtain rfl := List.singleton_inj.mp same
    generalize empty : ([] : List Label) = labels at none
    cases before with
    | nil => exact next
    | snoc => exact absurd (empty.trans none) (by simp)

/-- Where every step has one outcome, every run has. -/
theorem unique (functional : ∀ before label first second, step before label first →
      step before label second → first = second) {other : State}
    (runs : Runs step start labels last) (others : Runs step start labels other) :
    last = other := by
  induction runs generalizing other with
  | nil =>
    generalize equal : ([] : List Label) = labels at others
    cases others with
    | nil => rfl
    | snoc => exact absurd equal.symm (by simp)
  | @snoc labels middle last label before next inductionHypothesis =>
    generalize equal : labels ++ [label] = whole at others
    cases others with
    | nil => exact absurd equal (by simp)
    | snoc otherBefore otherNext =>
      obtain ⟨rfl, same⟩ := List.append_inj' equal rfl
      obtain rfl := List.singleton_inj.mp same
      obtain rfl := inductionHypothesis otherBefore
      exact functional _ _ _ _ next otherNext

/-- A system whose steps another one can follow has its runs there, step by step. -/
theorem simulate {Other Event : Type} {follow : Other → Event → Other → Prop}
    (view : State → Other) (event : Label → Event)
    (follows : ∀ before label after, step before label after →
      follow (view before) (event label) (view after))
    (runs : Runs step start labels last) :
    Runs follow (view start) (labels.map event) (view last) := by
  induction runs with
  | nil => exact .nil
  | snoc before next inductionHypothesis =>
    rw [List.map_append]
    exact inductionHypothesis.snoc (follows _ _ _ next)

/-- A run goes on where another one stopped. -/
theorem append {middle : State} {more : List Label} (runs : Runs step start labels middle)
    (goesOn : Runs step middle more last) : Runs step start (labels ++ more) last := by
  induction goesOn with
  | nil =>
    rw [List.append_nil]
    exact runs
  | snoc before next inductionHypothesis =>
    rw [← List.append_assoc]
    exact inductionHypothesis.snoc next

/-- A system whose steps are computed runs as far as they are defined. -/
theorem of_foldlM {follow : State → Label → Option State}
    (follows : labels.foldlM follow start = some last) :
    Runs (fun before label after => follow before label = some after) start labels last := by
  induction labels using List.reverseRecOn generalizing last with
  | nil =>
    obtain rfl := Option.some.inj follows
    exact .nil
  | append_singleton labels label inductionHypothesis =>
    rw [List.foldlM_append] at follows
    obtain ⟨middle, before, next⟩ := Option.bind_eq_some_iff.mp follows
    refine (inductionHypothesis before).snoc ?_
    obtain ⟨after, stepped, same⟩ := Option.bind_eq_some_iff.mp next
    exact stepped.trans same

end Runs

end Transition
