/-
This file is a small library about atomicity: when programs that run side by
side, one call at a time, could as well have run one after the other. The effect
of a program is a relation between the state before, whether it reports success,
and the state after. A program is atomic for its effect when every path of it,
whatever the other programs do between its calls, has exactly one call at which
the effect takes place; its other calls leave the state alone, and the report of
success comes later and agrees.

The main result puts the effects of a run in an order. It contains every program
that finished and no program twice, and it follows the order of the calls, so a
program that finished before another one began comes first.
-/

import Mathlib.Data.List.Nodup
import SchoolMeals.Library.Footprint

namespace Interaction

/-! ### Atomic programs -/

section Atomic

variable {Call : Type} {Answer : Call → Type} {Result State : Type}
  (answers : (request : Call) → State → Answer request → State → Prop)
  (reports : Program.Exchange Call Answer → Bool) (invariant : State → Prop)

/-- The rest of a program that took effect leaves the state alone. It reports success once if that
is still due, and otherwise not at all. -/
def Settled : Program Call Answer Result → Bool → Prop
  | .finished _, due => due = false
  | .undefined, _ => True
  | .call request next, due => ∀ before answer after, invariant before →
      answers request before answer after → after = before ∧
        if reports ⟨request, answer⟩ then due = true ∧ Settled (next answer) false
        else Settled (next answer) due

variable (effect : State → Bool → State → Prop)

/-- The program takes effect at one of its next calls, before it reports success. -/
def Atomic : Program Call Answer Result → Prop
  | .finished _ => False
  | .undefined => True
  | .call request next => ∀ before answer after, invariant before →
      answers request before answer after → reports ⟨request, answer⟩ = false ∧
        ((after = before ∧ Atomic (next answer)) ∨
          ∃ success, effect before success after ∧
            Settled answers reports invariant (next answer) success)

variable {answers reports invariant effect}

/-- A part that makes no calls does not matter. -/
theorem atomic_bind_of_silent {Other : Type}
    {possible : (request : Call) → Answer request → Prop} {program : Program Call Answer Other}
    {next : Other → Program Call Answer Result} (silent : Only possible (fun _ => False) program)
    (each : ∀ result, Atomic answers reports invariant effect (next result)) :
    Atomic answers reports invariant effect (program >>= next) := by
  cases program with
  | finished result => exact each result
  | undefined => trivial
  | call request rest => exact silent.1.elim

section Only

variable {possible : (request : Call) → Answer request → Prop} {allowed : Call → Prop}
  {program : Program Call Answer Result}
  (given : ∀ request before answer after, answers request before answer after →
    possible request answer)
  (keeps : ∀ request, allowed request → ∀ before answer after,
    answers request before answer after → after = before)
  (silent : ∀ exchange, reports exchange = false)

include given keeps silent

theorem settled_of_only (only : Only possible allowed program) :
    Settled answers reports invariant program false := by
  induction program with
  | finished result => rfl
  | undefined => trivial
  | call request next inductionHypothesis =>
    intro before answer after _ answered
    refine ⟨keeps request only.1 before answer after answered, ?_⟩
    rw [if_neg (Bool.eq_false_iff.mp (silent _))]
    exact inductionHypothesis answer (only.2 answer (given _ _ _ _ answered))

/-- A program that never changes the state and reports nothing takes effect at its first call. -/
theorem atomic_of_only (only : Only possible allowed program) (pending : Pending program)
    (effectless : ∀ before, effect before false before) :
    Atomic answers reports invariant effect program := by
  cases program with
  | finished result => exact pending.elim
  | undefined => trivial
  | call request next =>
    intro before answer after _ answered
    obtain rfl := keeps request only.1 before answer after answered
    exact ⟨silent _, Or.inr ⟨false, effectless _,
      settled_of_only given keeps silent (only.2 answer (given _ _ _ _ answered))⟩⟩

end Only

end Atomic

/-! ### The order of the effects -/

section Order

variable {Index Call : Type} {Answer : Call → Type} {Result State : Type}

/-- The effects take place one after the other. -/
inductive InTurn (effects : Index → State → Bool → State → Prop) :
    State → List (Index × Bool) → State → Prop where
  | nil (state : State) : InTurn effects state [] state
  | snoc {start middle last : State} {order : List (Index × Bool)} {index : Index}
      {success : Bool} (earlier : InTurn effects start order middle)
      (effect : effects index middle success last) :
      InTurn effects start (order ++ [(index, success)]) last

/-- An invariant that every effect keeps holds at the end. -/
theorem InTurn.invariant {effects : Index → State → Bool → State → Prop} {start last : State}
    {order : List (Index × Bool)} (inTurn : InTurn effects start order last)
    {invariant : State → Prop} (holds : invariant start)
    (keeps : ∀ index before success after, effects index before success after →
      invariant before → invariant after) : invariant last := by
  induction inTurn with
  | nil => exact holds
  | snoc earlier effect inductionHypothesis => exact keeps _ _ _ _ effect inductionHypothesis

/-- Effects that are the values of a function, as long as an invariant holds, fold it. -/
theorem InTurn.eq_foldl {effects : Index → State → Bool → State → Prop} {start last : State}
    {order : List (Index × Bool)} (inTurn : InTurn effects start order last)
    {invariant : State → Prop} (holds : invariant start)
    (keeps : ∀ index before success after, effects index before success after →
      invariant before → invariant after)
    (function : Index → State → State)
    (computes : ∀ index before success after, effects index before success after →
      invariant before → after = function index before) :
    last = (order.map Prod.fst).foldl (fun state index => function index state) start := by
  induction inTurn with
  | nil => rfl
  | snoc earlier effect inductionHypothesis =>
    rw [List.map_append, List.foldl_append, ← inductionHypothesis]
    exact computes _ _ _ _ effect (earlier.invariant holds keeps)

/-- Every place in the order has its effect, between what comes before and what comes after. -/
theorem InTurn.split {effects : Index → State → Bool → State → Prop} {start last : State}
    {first second : List (Index × Bool)} {index : Index} {success : Bool}
    (inTurn : InTurn effects start (first ++ (index, success) :: second) last) :
    ∃ before after, InTurn effects start first before ∧ effects index before success after ∧
      InTurn effects after second last := by
  generalize equal : first ++ (index, success) :: second = order at inTurn
  induction inTurn generalizing second with
  | nil => exact absurd equal (by simp)
  | snoc earlier effect inductionHypothesis =>
    rcases List.eq_nil_or_concat second with rfl | ⟨initial, newest, rfl⟩
    · obtain ⟨rfl, same⟩ := List.append_inj' equal rfl
      cases List.singleton_inj.mp same
      exact ⟨_, _, earlier, effect, .nil _⟩
    · rw [List.concat_eq_append, ← List.cons_append, ← List.append_assoc] at equal
      obtain ⟨rfl, same⟩ := List.append_inj' equal rfl
      obtain rfl := List.singleton_inj.mp same
      obtain ⟨before, after, head, cut, tail⟩ := inductionHypothesis rfl
      rw [List.concat_eq_append]
      exact ⟨before, after, head, cut, tail.snoc effect⟩

/-! ### Where a program stands -/

section Standing

variable {answers : (request : Call) → State → Answer request → State → Prop}
  {reports : Program.Exchange Call Answer → Bool} {invariant : State → Prop}
  {effect : State → Bool → State → Prop} {order : List (Index × Bool)} {index : Index}
  {done : List (Program.Exchange Call Answer)}

/-- Its effect is still to come, or it is in the order. -/
inductive Standing (answers : (request : Call) → State → Answer request → State → Prop)
    (reports : Program.Exchange Call Answer → Bool) (invariant : State → Prop)
    (effect : State → Bool → State → Prop) (order : List (Index × Bool)) (index : Index)
    (program : Program Call Answer Result) (done : List (Program.Exchange Call Answer)) :
    Prop where
  | waiting (absent : index ∉ order.map Prod.fst) (silent : done.any reports = false)
      (atomic : Atomic answers reports invariant effect program)
  | settled (success due : Bool) (member : (index, success) ∈ order)
      (report : success = (done.any reports || due))
      (settled : Settled answers reports invariant program due)

/-- The effect of another program changes nothing for this one. -/
theorem Standing.append {program : Program Call Answer Result}
    (standing : Standing answers reports invariant effect order index program done)
    {other : Index} (different : index ≠ other) (success : Bool) :
    Standing answers reports invariant effect (order ++ [(other, success)]) index program done := by
  cases standing with
  | waiting absent silent atomic =>
    refine .waiting (fun member => ?_) silent atomic
    rw [List.map_append, List.mem_append] at member
    exact member.elim absent fun newest => different (List.mem_singleton.mp newest)
  | settled given due member report settled =>
    exact .settled given due (List.mem_append_left _ member) report settled

/-- A call of the program leaves the state alone, or is the one at which it takes effect. -/
theorem Standing.step {request : Call} {next : Answer request → Program Call Answer Result}
    (standing : Standing answers reports invariant effect order index (.call request next) done)
    {before after : State} {answer : Answer request} (holds : invariant before)
    (answered : answers request before answer after) :
    (after = before ∧ Standing answers reports invariant effect order index (next answer)
        (done ++ [⟨request, answer⟩])) ∨
      (index ∉ order.map Prod.fst ∧ ∃ success, effect before success after ∧
        Standing answers reports invariant effect (order ++ [(index, success)]) index (next answer)
          (done ++ [⟨request, answer⟩])) := by
  cases standing with
  | waiting absent silent atomic =>
    obtain ⟨unreported, effectOrNot⟩ := atomic before answer after holds answered
    have stillSilent :
        (done ++ [Program.Exchange.mk request answer]).any reports = false := by
      simp [silent, unreported]
    rcases effectOrNot with ⟨same, later⟩ | ⟨success, effect, settled⟩
    · exact Or.inl ⟨same, .waiting absent stillSilent later⟩
    · refine Or.inr ⟨absent, success, effect, ?_⟩
      exact .settled success success (List.mem_append_right _ (List.mem_singleton.mpr rfl))
        (by rw [stillSilent, Bool.false_or]) settled
  | settled success due member report settled =>
    obtain ⟨same, later⟩ := settled before answer after holds answered
    refine Or.inl ⟨same, ?_⟩
    cases reported : reports ⟨request, answer⟩ with
    | true =>
      rw [if_pos reported] at later
      refine .settled success false member ?_ later.2
      rw [report, later.1]
      simp [reported]
    | false =>
      rw [if_neg (Bool.eq_false_iff.mp reported)] at later
      exact .settled success due member (by simp [report, reported]) later

end Standing

/-! ### Runs -/

variable [DecidableEq Index]

/-- The order explains the run: its effects lead from the first state to the last one, it follows
the calls, and it has every finished program once, with success where success was reported. -/
structure Explains (reports : Index → Program.Exchange Call Answer → Bool)
    (effects : Index → State → Bool → State → Prop)
    (start last : Family Index Call Answer Result State)
    (events : List (Event Index Call Answer)) (order : List (Index × Bool)) : Prop where
  inTurn : InTurn effects start.shared order last.shared
  once : (order.map Prod.fst).Nodup
  follows : (order.map Prod.fst).Sublist (events.map (·.index))
  complete : ∀ index result, last.programs index = .finished result → index ∈ order.map Prod.fst
  reported : ∀ index success, (index, success) ∈ order → ∀ result,
    last.programs index = .finished result →
      (eventsOf index events).any (reports index) = success

variable {answers : Index → (request : Call) → State → Answer request → State → Prop}
  {reports : Index → Program.Exchange Call Answer → Bool} {invariant : State → Prop}
  {effects : Index → State → Bool → State → Prop}
  {start last : Family Index Call Answer Result State}
  {events : List (Event Index Call Answer)}

/-- Where the programs of a run stand, with the order so far. -/
theorem Runs.standing (runs : Runs answers start events last) (holds : invariant start.shared)
    (keeps : ∀ index before success after, effects index before success after →
      invariant before → invariant after)
    (atomic : ∀ index,
      Atomic (answers index) (reports index) invariant (effects index) (start.programs index)) :
    ∃ order, InTurn effects start.shared order last.shared ∧ (order.map Prod.fst).Nodup ∧
      (order.map Prod.fst).Sublist (events.map (·.index)) ∧
      ∀ index, Standing (answers index) (reports index) invariant (effects index) order index
        (last.programs index) (eventsOf index events) := by
  induction runs with
  | nil =>
    exact ⟨[], .nil _, List.nodup_nil, List.nil_sublist _,
      fun index => .waiting List.not_mem_nil rfl (atomic index)⟩
  | @snoc middle _ earlier _ before step inductionHypothesis =>
    obtain ⟨order, inTurn, once, follows, stand⟩ := inductionHypothesis
    cases step with
    | call index request next answer after pending answered =>
      have own := stand index
      rw [pending] at own
      -- the other programs did not move
      have others : ∀ other, other ≠ index → Standing (answers other) (reports other) invariant
          (effects other) order other (Function.update middle.programs index (next answer) other)
          (eventsOf other (earlier ++ [⟨⟨request, answer⟩, index⟩])) := by
        intro other different
        rw [Function.update_of_ne different, eventsOf_snoc_of_ne _ _ (Ne.symm different)]
        exact stand other
      have itself : ∀ grown, Standing (answers index) (reports index) invariant (effects index)
          grown index (next answer) (eventsOf index earlier ++ [⟨request, answer⟩]) →
          Standing (answers index) (reports index) invariant (effects index) grown index
            (Function.update middle.programs index (next answer) index)
            (eventsOf index (earlier ++ [⟨⟨request, answer⟩, index⟩])) := by
        intro grown moved
        rw [Function.update_self, eventsOf_snoc_self]
        exact moved
      rw [List.map_append]
      rcases own.step (inTurn.invariant holds keeps) answered with
        ⟨same, moved⟩ | ⟨absent, success, effect, moved⟩
      · refine ⟨order, same ▸ inTurn, once, follows.trans (List.sublist_append_left _ _),
          fun other => ?_⟩
        rcases eq_or_ne other index with rfl | different
        · exact itself _ moved
        · exact others other different
      · refine ⟨order ++ [(index, success)], inTurn.snoc effect, ?_, ?_, fun other => ?_⟩
        · rw [List.map_append]
          exact once.append (List.nodup_singleton _) (by simpa using absent)
        · rw [List.map_append]
          exact follows.append (List.Sublist.refl _)
        · rcases eq_or_ne other index with rfl | different
          · exact itself _ moved
          · exact (others other different).append different success

/-- Every run of atomic programs is explained by an order of their effects. -/
theorem Runs.explains (runs : Runs answers start events last) (holds : invariant start.shared)
    (keeps : ∀ index before success after, effects index before success after →
      invariant before → invariant after)
    (atomic : ∀ index,
      Atomic (answers index) (reports index) invariant (effects index) (start.programs index)) :
    ∃ order, Explains reports effects start last events order := by
  obtain ⟨order, inTurn, once, follows, stand⟩ := runs.standing holds keeps atomic
  refine ⟨order, inTurn, once, follows, fun index result finished => ?_,
    fun index success member result finished => ?_⟩
  all_goals
    have standing := stand index
    rw [finished] at standing
  · cases standing with
    | waiting _ _ atomic => exact atomic.elim
    | settled success due member _ _ => exact List.mem_map_of_mem member
  · cases standing with
    | waiting _ _ atomic => exact atomic.elim
    | settled given due found report settled =>
      have same : given = success := by
        have inOrder := List.inj_on_of_nodup_map once found member rfl
        exact (Prod.mk.inj inOrder).2
      have paid : due = false := settled
      rw [← same, report, paid, Bool.or_false]

end Order

end Interaction
