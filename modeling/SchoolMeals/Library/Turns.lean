/-
This file is a small library about calls that take turns on one ordered channel.
One party makes a call, and then waits until it accepts an answer or gives up;
the other end works through the calls in their order and answers a call at most
once. An answer does not say which call it is for. The invariant counts what
became of each call, and the main result says when answers are never mixed up:
whoever accepts one must not have given up on another that is still to come.
-/

import SchoolMeals.Library.Transition
import Mathlib.Data.List.Nodup

namespace Turns

open Transition

/-- Calls are numbered as they are made; the queue holds those whose answer is still to come. -/
structure State where
  calls : Nat
  waiting : Option Nat
  queue : List Nat

inductive Event where
  | call
  | drop (call : Nat)
  | idle
  | accept (call answered : Nat)
  | giveUp (call : Nat)

def start : State := ⟨0, none, []⟩

inductive Step : State → Event → State → Prop where
  | call {state : State} (free : state.waiting = none) :
      Step state .call ⟨state.calls + 1, some state.calls, state.queue ++ [state.calls]⟩
  | drop {state : State} {first rest : List Nat} {call : Nat}
      (queued : state.queue = first ++ call :: rest) :
      Step state (.drop call) ⟨state.calls, state.waiting, first ++ rest⟩
  | idle {state : State} : Step state .idle state
  | accept {state : State} {call answered : Nat} {rest : List Nat}
      (waits : state.waiting = some call) (queued : state.queue = answered :: rest) :
      Step state (.accept call answered) ⟨state.calls, none, rest⟩
  | giveUp {state : State} {call : Nat} (waits : state.waiting = some call) :
      Step state (.giveUp call) ⟨state.calls, none, state.queue⟩

/-! ### What became of a call -/

/-- The party no longer waits for this call. -/
def Ended (events : List Event) (call : Nat) : Prop :=
  .giveUp call ∈ events ∨ ∃ answered, .accept call answered ∈ events

/-- The answer to this call is no longer to come. -/
def Gone (events : List Event) (call : Nat) : Prop :=
  .drop call ∈ events ∨ ∃ acceptor, .accept acceptor call ∈ events

@[simp]
theorem ended_snoc (events : List Event) (event : Event) (call : Nat) :
    Ended (events ++ [event]) call ↔
      Ended events call ∨ event = .giveUp call ∨ ∃ answered, event = .accept call answered := by
  simp only [Ended, List.mem_append, List.mem_singleton, exists_or, @eq_comm _ event]
  tauto

@[simp]
theorem gone_snoc (events : List Event) (event : Event) (call : Nat) :
    Gone (events ++ [event]) call ↔
      Gone events call ∨ event = .drop call ∨ ∃ acceptor, event = .accept acceptor call := by
  simp only [Gone, List.mem_append, List.mem_singleton, exists_or, @eq_comm _ event]
  tauto

structure Orderly (events : List Event) (state : State) : Prop where
  ordered : state.queue.Pairwise (· < ·)
  queued_lt : ∀ call ∈ state.queue, call < state.calls
  waiting_last : ∀ call, state.waiting = some call → call + 1 = state.calls
  ended_iff : ∀ call, Ended events call ↔ call < state.calls ∧ state.waiting ≠ some call
  gone_iff : ∀ call, Gone events call ↔ call < state.calls ∧ call ∉ state.queue
  ends_once : ∀ call answered, .giveUp call ∈ events → .accept call answered ∉ events

theorem orderly_start : Orderly [] start where
  ordered := List.Pairwise.nil
  queued_lt _ member := absurd member List.not_mem_nil
  waiting_last _ waits := nomatch waits
  ended_iff call := by simp [Ended, start]
  gone_iff call := by simp [Gone, start]
  ends_once _ _ member := absurd member List.not_mem_nil

/-! ### Every step keeps the order -/

section Keeps

variable {events : List Event} {state : State}

/-- Taking a call out of the queue leaves it in order, and the call is the only one gone. -/
theorem Orderly.remove (orderly : Orderly events state) {first rest : List Nat} {call : Nat}
    (queued : state.queue = first ++ call :: rest) :
    (first ++ rest).Pairwise (· < ·) ∧ (∀ other ∈ first ++ rest, other < state.calls) ∧
      ∀ other, (other < state.calls ∧ other ∉ first ++ rest) ↔
        Gone events other ∨ other = call := by
  have sub : (first ++ rest).Sublist state.queue := by
    rw [queued]
    exact List.Sublist.append_left (List.sublist_cons_self call rest) first
  have distinct : call ∉ first ++ rest := by
    have nodup : (first ++ call :: rest).Nodup := queued ▸ orderly.ordered.imp Nat.ne_of_lt
    exact (List.nodup_middle.mp nodup).notMem
  refine ⟨orderly.ordered.sublist sub,
    fun other member => orderly.queued_lt other (sub.subset member), fun other => ?_⟩
  rw [orderly.gone_iff, queued]
  by_cases same : other = call
  · have sent : call < state.calls := orderly.queued_lt call (by rw [queued]; simp)
    exact iff_of_true ⟨same ▸ sent, same ▸ distinct⟩ (.inr same)
  · simp [same]

theorem Orderly.call (orderly : Orderly events state) (free : state.waiting = none) :
    Orderly (events ++ [.call])
      ⟨state.calls + 1, some state.calls, state.queue ++ [state.calls]⟩ where
  ordered := by
    rw [List.pairwise_append]
    exact ⟨orderly.ordered, List.pairwise_singleton _ _, fun call member last isLast =>
      List.mem_singleton.mp isLast ▸ orderly.queued_lt call member⟩
  queued_lt call member := by
    rcases List.mem_append.mp member with member | member
    · exact Nat.lt_succ_of_lt (orderly.queued_lt call member)
    · exact List.mem_singleton.mp member ▸ Nat.lt_succ_self _
  waiting_last call waits := Option.some.inj waits ▸ rfl
  ended_iff call := by
    show Ended _ call ↔ call < state.calls + 1 ∧ some state.calls ≠ some call
    rw [ended_snoc, orderly.ended_iff, free]
    simp only [ne_eq, reduceCtorEq, not_false_eq_true, and_true, exists_false, or_false,
      Option.some.injEq]
    omega
  gone_iff call := by
    show Gone _ call ↔ call < state.calls + 1 ∧ call ∉ state.queue ++ [state.calls]
    rw [gone_snoc, orderly.gone_iff]
    have older : call < state.calls ↔ call < state.calls + 1 ∧ call ≠ state.calls := by omega
    simp only [reduceCtorEq, exists_false, or_false, List.mem_append, List.mem_singleton, not_or]
    rw [older]
    tauto
  ends_once call answered := by
    simpa using orderly.ends_once call answered

theorem Orderly.drop (orderly : Orderly events state) {first rest : List Nat} {call : Nat}
    (queued : state.queue = first ++ call :: rest) :
    Orderly (events ++ [.drop call]) ⟨state.calls, state.waiting, first ++ rest⟩ where
  ordered := (orderly.remove queued).1
  queued_lt := (orderly.remove queued).2.1
  waiting_last := orderly.waiting_last
  ended_iff other := by simpa using orderly.ended_iff other
  gone_iff other := by
    rw [(orderly.remove queued).2.2 other]
    simp [eq_comm]
  ends_once other answered := by simpa using orderly.ends_once other answered

theorem Orderly.idle (orderly : Orderly events state) : Orderly (events ++ [.idle]) state where
  ordered := orderly.ordered
  queued_lt := orderly.queued_lt
  waiting_last := orderly.waiting_last
  ended_iff call := by simpa using orderly.ended_iff call
  gone_iff call := by simpa using orderly.gone_iff call
  ends_once call answered := by simpa using orderly.ends_once call answered

/-- Whoever waits has ended its call when it waits no more. -/
theorem Orderly.ended_of_waiting (orderly : Orderly events state) {call : Nat}
    (waits : state.waiting = some call) (other : Nat) :
    (other < state.calls ∧ (none : Option Nat) ≠ some other) ↔
      Ended events other ∨ other = call := by
  have last := orderly.waiting_last call waits
  rw [orderly.ended_iff, waits]
  simp only [ne_eq, reduceCtorEq, not_false_eq_true, and_true, Option.some.injEq]
  omega

/-- The call that waits has not ended. -/
theorem Orderly.not_ended (orderly : Orderly events state) {call : Nat}
    (waits : state.waiting = some call) : ¬ Ended events call :=
  fun ended => ((orderly.ended_iff call).mp ended).2 waits

theorem Orderly.accept (orderly : Orderly events state) {call answered : Nat} {rest : List Nat}
    (waits : state.waiting = some call) (queued : state.queue = answered :: rest) :
    Orderly (events ++ [.accept call answered]) ⟨state.calls, none, rest⟩ := by
  obtain ⟨ordered, queued_lt, removed⟩ :=
    orderly.remove (show state.queue = [] ++ answered :: rest from queued)
  refine ⟨ordered, queued_lt, fun _ impossible => (nomatch impossible), fun other => ?_,
    fun other => ?_, fun other late gaveUp accepted => ?_⟩
  · rw [orderly.ended_of_waiting waits other]
    simp [eq_comm]
  · rw [gone_snoc]
    refine Iff.trans ?_ (removed other).symm
    simp [eq_comm]
  · have gaveUpBefore : .giveUp other ∈ events := by simpa using gaveUp
    rcases List.mem_append.mp accepted with accepted | isLast
    · exact orderly.ends_once other late gaveUpBefore accepted
    · obtain ⟨rfl, rfl⟩ := Event.accept.inj (List.mem_singleton.mp isLast)
      exact orderly.not_ended waits (.inl gaveUpBefore)

theorem Orderly.giveUp (orderly : Orderly events state) {call : Nat}
    (waits : state.waiting = some call) :
    Orderly (events ++ [.giveUp call]) ⟨state.calls, none, state.queue⟩ := by
  refine ⟨orderly.ordered, orderly.queued_lt, fun _ impossible => (nomatch impossible),
    fun other => ?_, fun other => ?_, fun other late gaveUp accepted => ?_⟩
  · rw [orderly.ended_of_waiting waits other]
    simp [eq_comm]
  · simpa using orderly.gone_iff other
  · have acceptedBefore : .accept other late ∈ events := by simpa using accepted
    rcases List.mem_append.mp gaveUp with gaveUp | isLast
    · exact orderly.ends_once other late gaveUp acceptedBefore
    · obtain rfl := Event.giveUp.inj (List.mem_singleton.mp isLast)
      exact orderly.not_ended waits (.inr ⟨late, acceptedBefore⟩)

end Keeps

/-! ### Runs -/

section Runs

variable {events : List Event} {last : State}

theorem orderly_of_runs (runs : Runs Step start events last) : Orderly events last := by
  refine runs.invariant Orderly orderly_start fun before middle event after _ _ next orderly => ?_
  cases next with
  | call free => exact orderly.call free
  | drop queued => exact orderly.drop queued
  | idle => exact orderly.idle
  | accept waits queued => exact orderly.accept waits queued
  | giveUp waits => exact orderly.giveUp waits

/-- Whoever accepts an answer accepts its own. -/
def Paired (events : List Event) : Prop :=
  ∀ call answered, .accept call answered ∈ events → answered = call

/-- When an answer is accepted, no answer to a call that was given up is still to come, or was
ever sent. -/
def Settled (events : List Event) : Prop :=
  ∀ before call answered, before ++ [.accept call answered] <+: events →
    ∀ late, .giveUp late ∈ before → .drop late ∈ before

theorem settled_of_paired (runs : Runs Step start events last) (paired : Paired events) :
    Settled events := by
  rintro before call answered ⟨later, rfl⟩ late gaveUp
  have accepted : answered = call := paired call answered (by simp)
  subst accepted
  rw [List.append_assoc] at runs
  obtain ⟨middle, after, runsBefore, next⟩ := runs.split
  have orderly := orderly_of_runs runsBefore
  obtain ⟨sent, past⟩ := (orderly.ended_iff late).mp (.inl gaveUp)
  cases next with
  | accept waits queued =>
    rename_i rest
    have newest := orderly.waiting_last answered waits
    have earlier : late < answered := by
      have other : late ≠ answered := fun same => past (same ▸ waits)
      omega
    have passed : late ∉ middle.queue := by
      have ordered := orderly.ordered
      rw [queued, List.pairwise_cons] at ordered
      rw [queued, List.mem_cons, not_or]
      exact ⟨Nat.ne_of_lt earlier, fun member => Nat.lt_asymm earlier (ordered.1 late member)⟩
    rcases (orderly.gone_iff late).mpr ⟨sent, passed⟩ with dropped | ⟨acceptor, accepted⟩
    · exact dropped
    · obtain rfl := paired acceptor late (by simp [accepted])
      exact absurd accepted (orderly.ends_once late late gaveUp)

theorem paired_of_settled (runs : Runs Step start events last) (settled : Settled events) :
    Paired events := by
  induction runs with
  | nil => exact fun _ _ member => absurd member List.not_mem_nil
  | @snoc before middle last event runsBefore next inductionHypothesis =>
    have earlier : Paired before := inductionHypothesis fun first call answered isPrefix =>
      settled first call answered (isPrefix.trans (List.prefix_append _ _))
    intro call answered member
    rcases List.mem_append.mp member with member | isLast
    · exact earlier call answered member
    obtain rfl := List.mem_singleton.mp isLast
    have orderly := orderly_of_runs runsBefore
    cases next with
    | accept waits queued =>
      by_contra other
      have inQueue : answered ∈ middle.queue := by
        rw [queued]
        exact List.mem_cons_self
      have unanswered : ¬ Gone before answered := fun gone =>
        ((orderly.gone_iff answered).mp gone).2 inQueue
      have ended : Ended before answered := by
        refine (orderly.ended_iff answered).mpr ⟨orderly.queued_lt answered inQueue, ?_⟩
        rw [waits]
        exact fun same => other (Option.some.inj same).symm
      rcases ended with gaveUp | ⟨own, accepted⟩
      · exact unanswered (.inl (settled before call answered (List.prefix_refl _) answered gaveUp))
      · obtain rfl := earlier answered own accepted
        exact unanswered (.inr ⟨own, accepted⟩)

/-- Answers are never mixed up exactly when nobody accepts one while another is late. -/
theorem paired_iff_settled (runs : Runs Step start events last) : Paired events ↔ Settled events :=
  ⟨settled_of_paired runs, paired_of_settled runs⟩

end Runs

end Turns
